import TelemetryRelay.Decimal.Layout
import TelemetryRelay.Decimal.Reading
import TelemetryRelay.Settings.Basic
import TelemetryRelay.Settings.Node

/-!
# From values to settings

A setting takes values of other kinds too, as long as they make sense: a number
may be given as a text or rounded from a fraction, a truth value as a number or
one of a few words, a text as a number.  A section may be given as a sequence
of its settings in order.  What is not mentioned has its standard value.
-/

namespace TelemetryRelay

inductive LoadError where
  /-- A value of the wrong kind. -/
  | mismatch (found expected key : String) (origin : Origin)
  /-- A value that is refused without its place being known. -/
  | refused (complaint : String)
  | missingFile (name : String)
  /-- A file whose name does not say that it is a settings file. -/
  | unknownFormat (name : String)
  /-- A text that is not a settings document. -/
  | malformed (origin : Origin)
  /-- Settings that the relay cannot work with. -/
  | rejected (fault : Settings.Fault)
deriving DecidableEq, Repr

namespace LoadError

/-- What went wrong while settings were put together; nothing if they were put
together and then rejected. -/
def cause? : LoadError -> Option String
  | mismatch found expected key origin =>
      some s!"invalid type: {found}, expected {expected} for key `{key}`{origin.suffix}"
  | refused complaint => some complaint
  | missingFile name => some s!"configuration file \"{name}\" not found"
  | unknownFormat name =>
      some s!"configuration file \"{name}\" is not of a registered file format"
  | malformed origin => some s!"the document{origin.suffix} cannot be read"
  | rejected _ => none

def message (error : LoadError) : String :=
  match error with
  | rejected fault => fault.message
  | _ => "Configuration error: " ++ error.cause?.getD ""

end LoadError

namespace Scalar

/-- A value as complaints about its kind call it. -/
def found : Scalar -> String
  | boolean value => s!"boolean `{value}`"
  | integer value => s!"64-bit integer `{value}`"
  | real value => s!"floating point `{Decimal.Layout.plain.render value}`"
  | text value => s!"string {Quoted.render value}"

/-- A value as complaints about a missing section call it. -/
def foundForSection : Scalar -> String
  | integer value => s!"integer `{value}`"
  | real value => s!"floating point `{Decimal.Layout.cited.render value}`"
  | value => value.found

def asText : Scalar -> String
  | boolean value => toString value
  | integer value => toString value
  | real value => Decimal.Layout.plain.render value
  | text value => value

def largest : Nat :=
  UInt64.size - 1

/-- The natural number of 64 bits that a value stands for, or the complaint
that there is none.  Fractions are rounded, half away from zero, to the nearest
number in range. -/
def asNatural : Scalar -> Except (String × String) Nat
  | boolean value => .ok (if value then 1 else 0)
  | integer value =>
      if value < 0 then
        .error ((Scalar.integer value).found, "an unsigned 64 bit or less integer")
      else .ok value.toNat
  | real value => .ok value.round.toUInt64.toNat
  | text value =>
      let small := Lowercase.ofText value
      if ["true", "on", "yes"].contains small then .ok 1
      else if ["false", "off", "no"].contains small then .ok 0
      else
        match (Decimal.naturalOfText? value).filter (· ≤ largest) with
        | some number => .ok number
        | none => .error ((Scalar.text value).found, "an integer")

/-- The truth value that a value stands for, or the complaint that there is
none. -/
def asBoolean : Scalar -> Except (String × String) Bool
  | boolean value => .ok value
  | integer value => .ok (value != 0)
  | real value => .ok (value != 0.0)
  | text value =>
      let small := Lowercase.ofText value
      if ["1", "true", "on", "yes"].contains small then .ok true
      else if ["0", "false", "off", "no"].contains small then .ok false
      else .error ((Scalar.text small).found, "a boolean")

end Scalar

namespace Node

/-- Interpret a value that has no parts. -/
def ofScalar {α : Type} (expected key : String)
    (interpret : Scalar -> Except (String × String) α) (node : Node) : Except LoadError α :=
  match node with
  | .scalar value origin =>
      (interpret value).mapError fun (found, wanted) => .mismatch found wanted key origin
  | .absent origin => .error (.mismatch "unit value" expected key origin)
  | .sequence _ origin => .error (.mismatch "sequence" expected key origin)
  | .table _ origin => .error (.mismatch "map" expected key origin)

/-- A natural number of 64 bits. -/
def natural (key : String) (node : Node) : Except LoadError Nat :=
  node.ofScalar "an integer" key Scalar.asNatural

/-- A natural number of fewer bits.  The complaint that one is too large does
not say where it was given. -/
def naturalOfWidth (bits : Nat) (key : String) (node : Node) : Except LoadError Nat := do
  let number <- node.natural key
  if number < Nat.pow 2 bits then
    return number
  else
    throw (.mismatch s!"64-bit unsigned integer `{number}`" s!"an unsigned {bits} bit integer"
      key .unnamed)

def boolean (key : String) (node : Node) : Except LoadError Bool :=
  node.ofScalar "a boolean" key Scalar.asBoolean

def text (key : String) (node : Node) : Except LoadError String :=
  node.ofScalar "a string" key fun value => .ok value.asText

def optionalText (key : String) (node : Node) : Except LoadError (Option String) :=
  match node with
  | .absent _ => .ok none
  | _ => (node.text key).map some

def optionalAddress (key : String) (node : Node) : Except LoadError (Option SocketAddress) := do
  match <- node.optionalText key with
  | none => return none
  | some read =>
      match SocketAddress.ofText? read with
      | some address => return some address
      | none => throw (.refused "invalid socket address syntax")

end Node

/-- The settings of a section, as they were given. -/
inductive SectionSource where
  | named (entries : List (String × Node))
  | listed (items : List Node)

/-- A section under a key; the outermost one has no key. -/
structure SettingsSection where
  key : String
  source : SectionSource

namespace SettingsSection

/-- The section that a value is. -/
def ofNode (key title : String) (node : Node) : Except LoadError SettingsSection :=
  let refuse (found : String) : Except LoadError SettingsSection :=
    .error (.refused s!"invalid type: {found}, expected {title}")
  match node with
  | .table entries _ => .ok { key, source := .named entries }
  | .sequence items _ => .ok { key, source := .listed items }
  | .scalar value _ => refuse value.foundForSection
  | .absent _ => refuse "unit value"

/-- Read a setting by its name, or by its place if the section is a sequence.
A setting that is not there has its standard value. -/
def setting {α : Type} (part : SettingsSection) (place : Nat) (name : String)
    (read : String -> Node -> Except LoadError α) (standard : α) : Except LoadError α :=
  match part.source with
  | .named entries =>
      match entries.lookup name with
      | some node => read (if part.key = "" then name else s!"{part.key}.{name}") node
      | none => .ok standard
  | .listed items =>
      match items[place]? with
      | some node => read s!"{part.key}[{place}]" node
      | none => .ok standard

end SettingsSection

def SerialSettings.ofNode (key : String) (node : Node) : Except LoadError SerialSettings := do
  let part <- SettingsSection.ofNode key "struct SerialConfig" node
  let standard : SerialSettings := {}
  return {
    device := (<- part.setting 0 "device" Node.text standard.device)
    baudRate := (<- part.setting 1 "baud_rate" (Node.naturalOfWidth 32) standard.baudRate)
    readChunk := (<- part.setting 2 "read_chunk" Node.natural standard.readChunk)
    echo := (<- part.setting 3 "echo" Node.boolean standard.echo) }

def ScanRules.ofNode (key : String) (node : Node) : Except LoadError ScanRules := do
  let part <- SettingsSection.ofNode key "struct ExtractorConfig" node
  let standard : ScanRules := {}
  return {
    minFill := (<- part.setting 0 "min_fill" Node.natural standard.minFill)
    window := (<- part.setting 1 "window" Node.natural standard.window) }

def TelemetrySettings.ofNode (key : String) (node : Node) :
    Except LoadError TelemetrySettings := do
  let part <- SettingsSection.ofNode key "struct TelemetryConfig" node
  let standard : TelemetrySettings := {}
  return {
    brokerHost := (<- part.setting 0 "broker_url" Node.text standard.brokerHost)
    brokerPort := (<- part.setting 1 "broker_port" (Node.naturalOfWidth 16) standard.brokerPort)
    deviceId := (<- part.setting 2 "device_id" Node.text standard.deviceId)
    topic := (<- part.setting 3 "topic" Node.optionalText standard.topic)
    keepAlive := (<- part.setting 4 "keep_alive_secs" Node.natural standard.keepAlive)
    uploadEnabled := (<- part.setting 5 "upload_enabled" Node.boolean standard.uploadEnabled) }

def Settings.ofNode (node : Node) : Except LoadError Settings := do
  let part <- SettingsSection.ofNode "" "struct PipelineConfig" node
  let standard : Settings := {}
  return {
    byteCapacity := (<- part.setting 0 "byte_capacity" Node.natural standard.byteCapacity)
    recordCapacity := (<- part.setting 1 "record_capacity" Node.natural standard.recordCapacity)
    extractInterval :=
      (<- part.setting 2 "extract_interval_ms" Node.natural standard.extractInterval)
    uploadInterval := (<- part.setting 3 "upload_interval_ms" Node.natural standard.uploadInterval)
    logLevel := (<- part.setting 4 "log_level" Node.text standard.logLevel)
    logJson := (<- part.setting 5 "log_json" Node.boolean standard.logJson)
    metricsAddress :=
      (<- part.setting 6 "metrics_addr" Node.optionalAddress standard.metricsAddress)
    serial := (<- part.setting 7 "serial" SerialSettings.ofNode standard.serial)
    scan := (<- part.setting 8 "extractor" ScanRules.ofNode standard.scan)
    telemetry := (<- part.setting 9 "telemetry" TelemetrySettings.ofNode standard.telemetry) }

end TelemetryRelay
