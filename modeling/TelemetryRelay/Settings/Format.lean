import TelemetryRelay.Ini
import TelemetryRelay.Json.Content
import TelemetryRelay.Json5
import TelemetryRelay.Ron
import TelemetryRelay.Toml.Content
import TelemetryRelay.Yaml.Document

/-!
# Formats of settings files

A settings file may be written in one of several formats.  The ending of its
name says in which.
-/

namespace TelemetryRelay

inductive Format where
  | toml
  | json
  | yaml
  | ini
  | ron
  | json5
deriving DecidableEq, Repr

namespace Format

/-- All formats, in the order in which files are looked for. -/
def all : List Format :=
  [toml, json, yaml, ini, ron, json5]

def endings : Format -> List String
  | toml => ["toml"]
  | json => ["json"]
  | yaml => ["yaml", "yml"]
  | ini => ["ini"]
  | ron => ["ron"]
  | json5 => ["json5"]

def contentOf? : Format -> String -> Option (List (String × Datum))
  | toml => Toml.contentOf?
  | json => Json.contentOf?
  | yaml => Yaml.contentOf?
  | ini => Ini.contentOf?
  | ron => Ron.contentOf?
  | json5 => Json5.contentOf?

/-- The ending of a name: what stands behind its last point, if there is
anything in front of it. -/
def endingOf? (name : String) : Option String :=
  let reversed := ((name.splitOn "/").getLast?.getD "").toList.reverse
  match reversed.dropWhile (· != '.') with
  | '.' :: _ :: _ => some (String.ofList (reversed.takeWhile (· != '.')).reverse)
  | _ => none

def ofName? (name : String) : Option Format :=
  (endingOf? name).bind fun ending => all.find? fun format => format.endings.contains ending

end Format
end TelemetryRelay
