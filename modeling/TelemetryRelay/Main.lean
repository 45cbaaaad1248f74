import TelemetryRelay.Run
import TelemetryRelay.StartUp

/-!
# The command line

Starts the relay on the device that the settings name, reads the device to its
end, and writes the journal to the standard output.  Records are written to
the journal.  The device is read as it is; its speed has to be set before.
-/

namespace TelemetryRelay
namespace CommandLine

def readFile? (name : String) : IO (Option (List UInt8)) := do
  try
    return some (<- IO.FS.readBinFile name).toList
  catch _ =>
    return none

/-- The content of a device, or why it cannot be read. -/
def readDevice (name : String) : IO (Except String (List UInt8)) := do
  try
    return .ok (<- IO.FS.readBinFile name).toList
  catch
    | .noFileOrDirectory .. => return .error "No such file or directory"
    | error => return .error (toString error)

/-- The files that the settings may be in, and the variables. -/
def lookAround (arguments : List String) : IO Surroundings := do
  let names := Settings.candidates (arguments.head?.getD standardFileName)
  let contents <- names.mapM readFile?
  let block <- readFile? "/proc/self/environ"
  return {
    arguments
    files := fun name => ((names.zip contents).lookup name).join
    environment := Environment.variablesOfBlock (block.getD [])
    attach := fun _ => .ok () }

def fail (error : StartUpError) : IO UInt32 := do
  IO.eprint error.report
  return failureStatus.toUInt32

def relay (settings : Settings) (received : List UInt8) : IO UInt32 := do
  let source := { Source.scripted [received] none with device := settings.serial.device }
  let sink := Sink.scripted (fun _ => 0) (fun _ => true) true
  let outcome := Run.run settings source sink 0 none
  let least := settings.severity.toOption.getD .info
  for entry in Signal.entries outcome.signals do
    if entry.severity.isWanted least then
      IO.println entry.line
  return 0

def start (arguments : List String) : IO UInt32 := do
  let around <- lookAround arguments
  match startUp around with
  | .error error => fail error
  | .ok settings =>
      let received <- readDevice settings.serial.device
      match startUp { around with attach := fun _ => received.map fun _ => () } with
      | .error error => fail error
      | .ok accepted => relay accepted (received.toOption.getD [])

end CommandLine
end TelemetryRelay

def main (arguments : List String) : IO UInt32 :=
  TelemetryRelay.CommandLine.start arguments
