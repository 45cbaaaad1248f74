import TelemetryRelay.Settings.Loading
import TelemetryRelay.Source

/-!
# Starting up

Before the relay can run, its settings are loaded and the serial device is
opened.  The first argument of the command line is the settings file; further
ones are ignored.  If either step fails, a report says what was attempted and
lists the causes, numbered if there are several.
-/

namespace TelemetryRelay

/-- What the relay finds around it when it is started. -/
structure Surroundings where
  arguments : List String
  files : Files
  environment : List (String × String)
  /-- Whether a device can be opened, and else why not. -/
  attach : String -> Except String Unit

inductive StartUpError where
  | settings (error : LoadError)
  | device (name : String) (error : SourceError)
deriving DecidableEq, Repr

namespace StartUpError

def attempt : StartUpError -> String
  | settings _ => "failed to load configuration"
  | device name _ => s!"failed to open {name}"

/-- Why it failed, each cause followed by what caused it in turn. -/
def causes : StartUpError -> List String
  | settings error => error.message :: error.cause?.toList
  | device _ error => [error.message]

/-- A cause under its label, further lines of it indented as far. -/
def indented (label cause : String) : String :=
  let margin := String.ofList (List.replicate label.length ' ')
  label ++ String.intercalate ("\n" ++ margin) (cause.splitOn "\n")

def causeLines (causes : List String) : List String :=
  match causes with
  | [cause] => [indented "    " cause]
  | _ => causes.mapIdx fun index cause => indented s!"    {index}: " cause

def report (error : StartUpError) : String :=
  String.intercalate "\n"
    (s!"Error: {error.attempt}" :: "" :: "Caused by:" :: causeLines error.causes) ++ "\n"

end StartUpError

def failureStatus : Nat :=
  1

/-- Load the settings and open the device. -/
def startUp (surroundings : Surroundings) : Except StartUpError Settings :=
  match Settings.load surroundings.files surroundings.environment
      surroundings.arguments.head? with
  | .error error => .error (.settings error)
  | .ok settings =>
      match (Source.openDevice settings.serial surroundings.attach).1 with
      | .error error => .error (.device settings.serial.device error)
      | .ok () => .ok settings

end TelemetryRelay
