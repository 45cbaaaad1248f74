import TelemetryRelay.Frame.Extractor
import TelemetryRelay.SocketAddress
import TelemetryRelay.Text.Quoted

/-!
# Settings

The settings of the relay and of its three sections, with the values they
have unless told otherwise.  `validate` rejects settings that the relay cannot
work with.  The checks come in a fixed order and the first that fails is
reported; among others they make sure that the byte ring can hold a full scan
window.
-/

namespace TelemetryRelay

structure SerialSettings where
  /-- Path of the device. -/
  device : String := "/dev/ttyUSB0"
  /-- Speed in baud, with eight data bits, no parity and one stop bit. -/
  baudRate : Nat := 115200
  /-- Most bytes taken in one read. -/
  readChunk : Nat := 256
  /-- Send every received byte back. -/
  echo : Bool := false
deriving DecidableEq, Repr

/-- The way to the cloud. -/
structure TelemetrySettings where
  brokerHost : String := "localhost"
  brokerPort : Nat := 1883
  deviceId : String := "unknown"
  /-- Topic to publish on; by default it follows from the device id. -/
  topic : Option String := none
  /-- Seconds between signs of life. -/
  keepAlive : Nat := 30
  /-- Publish records; otherwise they are only written to the journal. -/
  uploadEnabled : Bool := true
deriving DecidableEq, Repr

def TelemetrySettings.resolvedTopic (settings : TelemetrySettings) : String :=
  settings.topic.getD s!"devices/{settings.deviceId}/telemetry"

/-- All settings.  Times are in milliseconds. -/
structure Settings where
  byteCapacity : Nat := 1024
  recordCapacity : Nat := 32
  /-- Time between extraction attempts. -/
  extractInterval : Nat := 50
  /-- Time between uploads of one record each. -/
  uploadInterval : Nat := 5000
  /-- Least severe lines that the journal keeps. -/
  logLevel : String := "info"
  /-- Write the journal as documents. -/
  logJson : Bool := false
  /-- Where metrics can be fetched, if anywhere. -/
  metricsAddress : Option SocketAddress := none
  serial : SerialSettings := {}
  scan : ScanRules := {}
  telemetry : TelemetrySettings := {}
deriving DecidableEq, Repr

inductive SerialSettings.Fault where
  | emptyDevice
  | zeroBaudRate
  | zeroReadChunk
deriving DecidableEq, Repr

def SerialSettings.Fault.message : SerialSettings.Fault -> String
  | emptyDevice => "Invalid serial config: device path is empty"
  | zeroBaudRate => "Invalid serial config: baud rate must be > 0"
  | zeroReadChunk => "Invalid serial config: read chunk must be > 0"

/-- Check the serial line without touching it. -/
def SerialSettings.validate (settings : SerialSettings) : Except SerialSettings.Fault Unit :=
  if settings.device = "" then .error .emptyDevice
  else if settings.baudRate = 0 then .error .zeroBaudRate
  else if settings.readChunk = 0 then .error .zeroReadChunk
  else .ok ()

inductive Settings.Fault where
  | zeroCapacity
  | zeroInterval
  | scan (fault : ScanRules.Fault)
  | ringBelowWindow (byteCapacity window : Nat)
  | serial (fault : SerialSettings.Fault)
  | missingDeviceId
  | unknownLevel (name : String)
deriving DecidableEq, Repr

def Settings.Fault.message : Settings.Fault -> String
  | zeroCapacity => "Invalid configuration: ring capacities must be > 0"
  | zeroInterval => "Invalid configuration: tick intervals must be > 0"
  | scan fault => fault.message
  | ringBelowWindow byteCapacity window =>
      s!"Invalid configuration: byte capacity {byteCapacity} is smaller than " ++
      s!"the scan window {window}"
  | serial fault => fault.message
  | missingDeviceId =>
      "Invalid configuration: telemetry.device_id is required when uploads are enabled"
  | unknownLevel name => s!"Invalid configuration: unknown log level {Quoted.render name}"

namespace Settings

def severity (settings : Settings) : Except Fault Severity :=
  match Severity.ofText? settings.logLevel with
  | some severity => .ok severity
  | none => .error (.unknownLevel settings.logLevel)

/-- Reject settings that the relay cannot work with. -/
def validate (settings : Settings) : Except Fault Unit := do
  if settings.byteCapacity = 0 ∨ settings.recordCapacity = 0 then
    throw .zeroCapacity
  if settings.extractInterval = 0 ∨ settings.uploadInterval = 0 then
    throw .zeroInterval
  settings.scan.validate.mapError .scan
  if settings.byteCapacity < settings.scan.window then
    throw (.ringBelowWindow settings.byteCapacity settings.scan.window)
  settings.serial.validate.mapError .serial
  if settings.telemetry.uploadEnabled ∧ settings.telemetry.deviceId = "" then
    throw .missingDeviceId
  let _ <- settings.severity
  return ()

/-- What settings have to satisfy for the relay to work with them. -/
structure Acceptable (settings : Settings) : Prop where
  byteCapacity_positive : 0 < settings.byteCapacity
  recordCapacity_positive : 0 < settings.recordCapacity
  extractInterval_positive : 0 < settings.extractInterval
  uploadInterval_positive : 0 < settings.uploadInterval
  scan_accepted : settings.scan.validate = .ok ()
  window_le_byteCapacity : settings.scan.window ≤ settings.byteCapacity
  serial_accepted : settings.serial.validate = .ok ()
  device_named : ¬(settings.telemetry.uploadEnabled ∧ settings.telemetry.deviceId = "")
  level_known : ∃ severity, settings.severity = .ok severity

private theorem check_eq_ok {fails : Prop} [Decidable fails] {fault : Fault}
    {next : Unit -> Except Fault Unit} {rest : Except Fault Unit} :
    (if fails then throw fault >>= next else rest) = .ok () ↔ ¬fails ∧ rest = .ok () := by
  by_cases failed : fails
  · simp only [failed, if_true, not_true, false_and, iff_false]
    intro impossible
    cases impossible
  · simp only [failed, if_false, not_false_eq_true, true_and]

private theorem section_eq_ok {ε : Type} {check : Except ε Unit} {fault : ε -> Fault}
    {rest : Unit -> Except Fault Unit} :
    (check.mapError fault >>= rest) = .ok () ↔ check = .ok () ∧ rest () = .ok () := by
  cases check with
  | error reason =>
      constructor
      · intro impossible
        cases impossible
      · rintro ⟨impossible, _⟩
        cases impossible
  | ok _ => exact ⟨fun follows => ⟨rfl, follows⟩, And.right⟩

private theorem level_eq_ok {level : Except Fault Severity} :
    (level >>= fun _ => pure ()) = .ok () ↔ ∃ severity, level = .ok severity := by
  cases level with
  | error fault =>
      constructor
      · intro impossible
        cases impossible
      · rintro ⟨_, impossible⟩
        cases impossible
  | ok severity => exact ⟨fun _ => ⟨severity, rfl⟩, fun _ => rfl⟩

/-- The checks accept exactly the settings that satisfy all of it. -/
theorem validate_eq_ok_iff (settings : Settings) :
    settings.validate = .ok () ↔ settings.Acceptable := by
  simp only [validate, check_eq_ok, section_eq_ok, level_eq_ok, not_or]
  constructor
  · rintro ⟨⟨bytes, records⟩, ⟨extract, upload⟩, scan, window, serial, device, known⟩
    exact ⟨by omega, by omega, by omega, by omega, scan, by omega, serial, device, known⟩
  · intro acceptable
    have := acceptable.byteCapacity_positive
    have := acceptable.recordCapacity_positive
    have := acceptable.extractInterval_positive
    have := acceptable.uploadInterval_positive
    have := acceptable.window_le_byteCapacity
    exact ⟨⟨by omega, by omega⟩, ⟨by omega, by omega⟩, acceptable.scan_accepted, by omega,
      acceptable.serial_accepted, acceptable.device_named, acceptable.level_known⟩

/-- Acceptable settings leave some time between attempts and between uploads. -/
theorem intervals_positive {settings : Settings} (accepted : settings.validate = .ok ()) :
    0 < settings.extractInterval ∧ 0 < settings.uploadInterval :=
  have acceptable := settings.validate_eq_ok_iff.1 accepted
  ⟨acceptable.extractInterval_positive, acceptable.uploadInterval_positive⟩

/-- Acceptable settings contain acceptable rules for the extractor. -/
theorem scan_accepted {settings : Settings} (accepted : settings.validate = .ok ()) :
    settings.scan.validate = .ok () :=
  (settings.validate_eq_ok_iff.1 accepted).scan_accepted

theorem readChunk_positive {settings : Settings} (accepted : settings.validate = .ok ()) :
    0 < settings.serial.readChunk := by
  have serial := (settings.validate_eq_ok_iff.1 accepted).serial_accepted
  rw [SerialSettings.validate] at serial
  refine Nat.pos_of_ne_zero ?_
  intro zero
  rw [if_pos zero] at serial
  split at serial
  · cases serial
  · split at serial <;> cases serial

end Settings
end TelemetryRelay
