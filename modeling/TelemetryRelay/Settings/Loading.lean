import TelemetryRelay.Settings.Environment
import TelemetryRelay.Settings.Format
import TelemetryRelay.Settings.Path
import TelemetryRelay.Settings.Reading
import TelemetryRelay.Text.Utf8

/-!
# Loading settings

Settings are put together from a file and the environment, read, and then
checked.  A file that is asked for has to be there; without a request the
standard file is used if it exists.  The ending of a name may be left out.
-/

namespace TelemetryRelay

/-- The files that can be read, by their names. -/
abbrev Files : Type :=
  String -> Option (List UInt8)

/-- The file that is used unless another one is asked for. -/
def standardFileName : String :=
  "uart-telemetry.toml"

namespace Settings

/-- The plain form of a path, without empty parts and parts that lead nowhere. -/
def plainPath (path : String) : String :=
  let parts := (path.splitOn "/").filter fun part => part != "" && part != "."
  (if path.startsWith "/" then "/" else "") ++ String.intercalate "/" parts

/-- Whether a path can only lead to a directory. -/
def leadsToDirectory (path : String) : Bool :=
  ["", ".", ".."].contains ((path.splitOn "/").getLast?.getD "")

/-- The files among which a path chooses, the best choice first. -/
def candidates (path : String) : List String :=
  let name := plainPath path
  if leadsToDirectory name then []
  else
    (if leadsToDirectory path then [] else [name]) ++
      (Format.all.flatMap Format.endings).map fun ending => s!"{name}.{ending}"

def findFile (files : Files) (path : String) : Except LoadError (String × List UInt8) :=
  match (candidates path).findSome? fun name => (files name).map fun content => (name, content) with
  | some found => .ok found
  | none => .error (.missingFile path)

def documentLayer (format : Format) (origin : Origin) (document : String) :
    Except LoadError (List (String × Node)) :=
  match format.contentOf? document with
  | some entries => .ok (Node.ofEntries origin entries)
  | none => .error (.malformed origin)

def contentLayer (name : String) (content : List UInt8) :
    Except LoadError (List (String × Node)) :=
  match Format.ofName? name with
  | some format => documentLayer format (.file name) (Utf8.decodeLossy content)
  | none => .error (.unknownFormat name)

/-- The layer of settings in the file that a path leads to, or else in the
standard file if there is one. -/
def fileLayer (files : Files) (path : Option String) :
    Except LoadError (List (String × Node)) :=
  match findFile files (path.getD standardFileName) with
  | .ok (name, content) => contentLayer name content
  | .error error => if path.isSome then .error error else .ok []

/-- The settings that layers amount to, each merged into the ones before it. -/
def ofLayers (layers : List (List (String × Node))) : Except LoadError Settings :=
  Settings.ofNode (layers.foldl Node.withLayer Node.emptyTable)

/-- Only settings that the relay can work with. -/
def checked (settings : Settings) : Except LoadError Settings :=
  match settings.validate with
  | .ok () => .ok settings
  | .error fault => .error (.rejected fault)

/-- The settings in a TOML document, with nothing else taken into account. -/
def ofDocument (document : String) : Except LoadError Settings := do
  checked (<- ofLayers [<- documentLayer .toml .unnamed document])

/-- The settings that a file and the environment amount to, not yet checked. -/
def combined (files : Files) (environment : List (String × String)) (path : Option String) :
    Except LoadError Settings := do
  ofLayers [<- fileLayer files path, Environment.layer environment]

/-- Load settings.  The environment takes precedence over the file. -/
def load (files : Files) (environment : List (String × String)) (path : Option String) :
    Except LoadError Settings := do
  checked (<- combined files environment path)

end Settings
end TelemetryRelay
