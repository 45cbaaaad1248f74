import TelemetryRelay.Proofs.Toml.Literal
import TelemetryRelay.Settings.Reading

/-!
# Single settings

Settings are a record with three sections in it.  Here they are taken apart
into single settings, each with its place among the sections and a kind of
values.  They are read from a table if every single setting is, and those that
the table does not mention have their standard values.
-/

namespace TelemetryRelay

/-! ## Kinds of values -/

def Literal.scalar : Literal -> Scalar
  | whole number => .integer number
  | truth value => .boolean value
  | text value => .text value

inductive SettingKind where
  | natural
  | naturalOfWidth (bits : Nat)
  | truth
  | text
  | optionalText
  | optionalAddress
deriving DecidableEq, Repr

namespace SettingKind

def Value : SettingKind -> Type
  | natural => Nat
  | naturalOfWidth _ => Nat
  | truth => Bool
  | text => String
  | optionalText => Option String
  | optionalAddress => Option SocketAddress

def isText : SettingKind -> Bool
  | natural | naturalOfWidth _ | truth => false
  | text | optionalText | optionalAddress => true

def read : (kind : SettingKind) -> String -> Node -> Except LoadError kind.Value
  | natural => Node.natural
  | naturalOfWidth bits => Node.naturalOfWidth bits
  | truth => Node.boolean
  | text => Node.text
  | optionalText => Node.optionalText
  | optionalAddress => Node.optionalAddress

/-- The value of a kind that a literal stands for.  It is nothing if the literal
is of another kind, if its number is out of range for this kind or for a
document, or if its text has to be an address and is none. -/
def value? : (kind : SettingKind) -> Literal -> Option kind.Value
  | natural, .whole number => if number < 2 ^ 63 then some number else none
  | naturalOfWidth bits, .whole number =>
      if number < 2 ^ 63 ∧ number < 2 ^ bits then some number else none
  | truth, .truth value => some value
  | text, .text value => some value
  | optionalText, .text value => some (some value)
  | optionalAddress, .text value => (SocketAddress.ofText? value).map some
  | _, _ => none

theorem read_scalar {kind : SettingKind} {literal : Literal} {value : kind.Value}
    (given : kind.value? literal = some value) (key : String) (origin : Origin) :
    kind.read key (.scalar literal.scalar origin) = .ok value := by
  have natural (number : Nat) :
      Node.natural key (.scalar (.integer number) origin) = .ok number := by
    rw [Node.natural, Node.ofScalar, Scalar.asNatural, if_neg (by omega)]
    rfl
  unfold value? at given
  split at given
  · rename_i number
    split at given
    · cases given
      exact natural number
    · cases given
  · rename_i bits number
    split at given
    · rename_i inRange
      cases given
      change Node.naturalOfWidth bits key (.scalar (.integer number) origin) = _
      rw [Node.naturalOfWidth, natural]
      exact if_pos inRange.2
    · cases given
  · cases given
    rfl
  · cases given
    rfl
  · cases given
    rfl
  · rename_i written
    obtain ⟨address, spelled, rfl⟩ := Option.map_eq_some_iff.mp given
    change Node.optionalAddress key (.scalar (.text written) origin) = _
    have read : Node.optionalText key (.scalar (.text written) origin) = .ok (some written) := rfl
    rw [Node.optionalAddress, read]
    simp only [bind, Except.bind, spelled]
    rfl
  · cases given

/-- Only for the kinds whose values are given by texts a text stands for one. -/
theorem isText_of_value {kind : SettingKind} {text : String}
    (stands : (kind.value? (.text text)).isSome = true) : kind.isText = true := by
  cases kind with
  | natural => cases stands
  | naturalOfWidth _ => cases stands
  | truth => cases stands
  | text => rfl
  | optionalText => rfl
  | optionalAddress => rfl

/-- A literal that stands for a value of a setting can be written in a
document. -/
theorem fits_of_value {kind : SettingKind} {literal : Literal} {value : kind.Value}
    (given : kind.value? literal = some value) : literal.Fits := by
  unfold value? at given
  split at given
  · split at given
    · assumption
    · cases given
  · split at given
    · rename_i inRange
      exact inRange.1
    · cases given
  · trivial
  · trivial
  · trivial
  · trivial
  · cases given

end SettingKind

/-! ## Settings one by one -/

inductive SettingsPart where
  | serial
  | scan
  | telemetry
deriving DecidableEq, Repr

def SettingsPart.key : SettingsPart -> String
  | serial => "serial"
  | scan => "extractor"
  | telemetry => "telemetry"

inductive Setting where
  | byteCapacity
  | recordCapacity
  | extractInterval
  | uploadInterval
  | logLevel
  | logJson
  | metricsAddress
  | device
  | baudRate
  | readChunk
  | echo
  | minFill
  | window
  | brokerHost
  | brokerPort
  | deviceId
  | topic
  | keepAlive
  | uploadEnabled
deriving DecidableEq, Repr

namespace Setting

/-- The section of a setting, if it is in one. -/
def part? : Setting -> Option SettingsPart
  | byteCapacity | recordCapacity | extractInterval | uploadInterval | logLevel | logJson
  | metricsAddress => none
  | device | baudRate | readChunk | echo => some .serial
  | minFill | window => some .scan
  | brokerHost | brokerPort | deviceId | topic | keepAlive | uploadEnabled => some .telemetry

/-- The key of a setting among the others of its section. -/
def key : Setting -> String
  | byteCapacity => "byte_capacity"
  | recordCapacity => "record_capacity"
  | extractInterval => "extract_interval_ms"
  | uploadInterval => "upload_interval_ms"
  | logLevel => "log_level"
  | logJson => "log_json"
  | metricsAddress => "metrics_addr"
  | device => "device"
  | baudRate => "baud_rate"
  | readChunk => "read_chunk"
  | echo => "echo"
  | minFill => "min_fill"
  | window => "window"
  | brokerHost => "broker_url"
  | brokerPort => "broker_port"
  | deviceId => "device_id"
  | topic => "topic"
  | keepAlive => "keep_alive_secs"
  | uploadEnabled => "upload_enabled"

def kind : Setting -> SettingKind
  | byteCapacity | recordCapacity | extractInterval | uploadInterval | readChunk | minFill
  | window | keepAlive => .natural
  | baudRate => .naturalOfWidth 32
  | brokerPort => .naturalOfWidth 16
  | logJson | echo | uploadEnabled => .truth
  | logLevel | device | brokerHost | deviceId => .text
  | topic => .optionalText
  | metricsAddress => .optionalAddress

def of (settings : Settings) : (setting : Setting) -> setting.kind.Value
  | byteCapacity => settings.byteCapacity
  | recordCapacity => settings.recordCapacity
  | extractInterval => settings.extractInterval
  | uploadInterval => settings.uploadInterval
  | logLevel => settings.logLevel
  | logJson => settings.logJson
  | metricsAddress => settings.metricsAddress
  | device => settings.serial.device
  | baudRate => settings.serial.baudRate
  | readChunk => settings.serial.readChunk
  | echo => settings.serial.echo
  | minFill => settings.scan.minFill
  | window => settings.scan.window
  | brokerHost => settings.telemetry.brokerHost
  | brokerPort => settings.telemetry.brokerPort
  | deviceId => settings.telemetry.deviceId
  | topic => settings.telemetry.topic
  | keepAlive => settings.telemetry.keepAlive
  | uploadEnabled => settings.telemetry.uploadEnabled

def path (setting : Setting) : List String :=
  setting.part?.toList.map SettingsPart.key ++ [setting.key]

end Setting

namespace Settings

def ofValues (values : (setting : Setting) -> setting.kind.Value) : Settings where
  byteCapacity := values .byteCapacity
  recordCapacity := values .recordCapacity
  extractInterval := values .extractInterval
  uploadInterval := values .uploadInterval
  logLevel := values .logLevel
  logJson := values .logJson
  metricsAddress := values .metricsAddress
  serial := {
    device := values .device
    baudRate := values .baudRate
    readChunk := values .readChunk
    echo := values .echo }
  scan := {
    minFill := values .minFill
    window := values .window }
  telemetry := {
    brokerHost := values .brokerHost
    brokerPort := values .brokerPort
    deviceId := values .deviceId
    topic := values .topic
    keepAlive := values .keepAlive
    uploadEnabled := values .uploadEnabled }

theorem of_ofValues (values : (setting : Setting) -> setting.kind.Value) (setting : Setting) :
    setting.of (ofValues values) = values setting := by
  cases setting <;> rfl

theorem ofValues_of (settings : Settings) : ofValues (Setting.of settings) = settings :=
  rfl

end Settings

/-! ## Values behind keys -/

namespace Node

/-- A value that can have entries. -/
def IsTable (node : Node) : Prop :=
  exists entries origin, node = .table entries origin

/-- The value that some keys lead to. -/
def at? (node : Node) : List String -> Option Node
  | [] => some node
  | key :: path => (node.get? key).bind fun inner => inner.at? path

theorem at?_single (node : Node) (key : String) : node.at? [key] = node.get? key := by
  rw [at?]
  exact Option.bind_fun_some (node.get? key)

theorem at?_path_main {setting : Setting} (main : setting.part? = none) (node : Node) :
    node.at? setting.path = node.get? setting.key := by
  rw [Setting.path, main]
  exact node.at?_single setting.key

theorem at?_path_part {setting : Setting} {part : SettingsPart}
    (inside : setting.part? = some part) (node : Node) :
    node.at? setting.path = (node.get? part.key).bind fun inner => inner.get? setting.key := by
  rw [Setting.path, inside]
  change (node.get? part.key).bind _ = _
  congr 1
  funext inner
  exact inner.at?_single setting.key

end Node

/-! ## Reading settings one by one -/

/-- Whether a setting has this value, given what is there for it. -/
def Setting.Shown (setting : Setting) (value : setting.kind.Value) : Option Node -> Prop
  | none => value = setting.of {}
  | some node => forall key, setting.kind.read key node = .ok value

/-- Whether the entries of a section show the values of its settings. -/
def SettingsPart.Shows (part : SettingsPart) (entries : List (String × Node))
    (values : (setting : Setting) -> setting.kind.Value) : Prop :=
  forall setting : Setting, setting.part? = some part ->
    setting.Shown (values setting) (entries.lookup setting.key)

/-- A table whose sections are tables. -/
structure Node.Sectioned (node : Node) : Prop where
  table : node.IsTable
  parts : forall (part : SettingsPart) (inner : Node), node.get? part.key = some inner ->
    inner.IsTable

/-- Whether a table shows the values of all settings. -/
structure Node.Shows (node : Node) (values : (setting : Setting) -> setting.kind.Value) : Prop
    extends node.Sectioned where
  shown : forall setting : Setting, setting.Shown (values setting) (node.at? setting.path)

theorem bind_eq_ok {α β : Type} {step : Except LoadError α} {next : α -> Except LoadError β}
    {value : α} {result : β} (read : step = .ok value) (behind : next value = .ok result) :
    (step >>= next) = .ok result := by
  rw [read]
  exact behind

theorem Setting.Shown.read_named {setting : Setting} {value : setting.kind.Value}
    {entries : List (String × Node)} (shown : setting.Shown value (entries.lookup setting.key))
    (key : String) (place : Nat) :
    SettingsSection.setting { key, source := .named entries } place setting.key
      setting.kind.read (setting.of {}) = .ok value := by
  unfold SettingsSection.setting
  dsimp only
  cases held : entries.lookup setting.key with
  | none =>
      rw [held] at shown
      exact congrArg Except.ok shown.symm
  | some node =>
      rw [held] at shown
      exact shown _

section Sections

variable {entries : List (String × Node)} {values : (setting : Setting) -> setting.kind.Value}

theorem SerialSettings.ofNode_table (shows : SettingsPart.serial.Shows entries values)
    (key : String) (origin : Origin) :
    SerialSettings.ofNode key (.table entries origin) = .ok (Settings.ofValues values).serial := by
  unfold SerialSettings.ofNode
  refine bind_eq_ok rfl ?_
  refine bind_eq_ok ((shows .device rfl).read_named key 0) ?_
  refine bind_eq_ok ((shows .baudRate rfl).read_named key 1) ?_
  refine bind_eq_ok ((shows .readChunk rfl).read_named key 2) ?_
  refine bind_eq_ok ((shows .echo rfl).read_named key 3) ?_
  rfl

theorem ScanRules.ofNode_table (shows : SettingsPart.scan.Shows entries values)
    (key : String) (origin : Origin) :
    ScanRules.ofNode key (.table entries origin) = .ok (Settings.ofValues values).scan := by
  unfold ScanRules.ofNode
  refine bind_eq_ok rfl ?_
  refine bind_eq_ok ((shows .minFill rfl).read_named key 0) ?_
  refine bind_eq_ok ((shows .window rfl).read_named key 1) ?_
  rfl

theorem TelemetrySettings.ofNode_table (shows : SettingsPart.telemetry.Shows entries values)
    (key : String) (origin : Origin) :
    TelemetrySettings.ofNode key (.table entries origin) =
      .ok (Settings.ofValues values).telemetry := by
  unfold TelemetrySettings.ofNode
  refine bind_eq_ok rfl ?_
  refine bind_eq_ok ((shows .brokerHost rfl).read_named key 0) ?_
  refine bind_eq_ok ((shows .brokerPort rfl).read_named key 1) ?_
  refine bind_eq_ok ((shows .deviceId rfl).read_named key 2) ?_
  refine bind_eq_ok ((shows .topic rfl).read_named key 3) ?_
  refine bind_eq_ok ((shows .keepAlive rfl).read_named key 4) ?_
  refine bind_eq_ok ((shows .uploadEnabled rfl).read_named key 5) ?_
  rfl

/-- A section is read by its name.  One that is not there reads like one that
is empty. -/
theorem Node.Shows.read_part {origin : Origin} (shows : (Node.table entries origin).Shows values)
    {α : Type} {part : SettingsPart} {ofNode : String -> Node -> Except LoadError α}
    {standard result : α}
    (reads : forall inner, part.Shows inner values -> forall key origin,
      ofNode key (.table inner origin) = .ok result)
    (empty : ofNode part.key (.table [] .unnamed) = .ok standard) (key : String) (place : Nat) :
    SettingsSection.setting { key, source := .named entries } place part.key ofNode standard =
      .ok result := by
  unfold SettingsSection.setting
  dsimp only
  have held : forall setting : Setting, setting.part? = some part ->
      setting.Shown (values setting)
        ((entries.lookup part.key).bind fun inner => inner.get? setting.key) := by
    intro setting inside
    have shown := shows.shown setting
    rwa [Node.at?_path_part inside] at shown
  cases found : entries.lookup part.key with
  | none =>
      rw [found] at held
      exact empty.symm.trans (reads [] held part.key .unnamed)
  | some node =>
      obtain ⟨inner, innerOrigin, rfl⟩ := shows.parts part node found
      rw [found] at held
      exact reads inner held _ innerOrigin

end Sections

/-- A table is read as the values that it shows. -/
theorem Node.Shows.ofNode_eq {node : Node} {values : (setting : Setting) -> setting.kind.Value}
    (shows : node.Shows values) : Settings.ofNode node = .ok (Settings.ofValues values) := by
  obtain ⟨entries, origin, rfl⟩ := shows.table
  have main (setting : Setting) (outside : setting.part? = none) :
      setting.Shown (values setting) (entries.lookup setting.key) := by
    have shown := shows.shown setting
    rwa [Node.at?_path_main outside] at shown
  unfold Settings.ofNode
  refine bind_eq_ok rfl ?_
  refine bind_eq_ok ((main .byteCapacity rfl).read_named "" 0) ?_
  refine bind_eq_ok ((main .recordCapacity rfl).read_named "" 1) ?_
  refine bind_eq_ok ((main .extractInterval rfl).read_named "" 2) ?_
  refine bind_eq_ok ((main .uploadInterval rfl).read_named "" 3) ?_
  refine bind_eq_ok ((main .logLevel rfl).read_named "" 4) ?_
  refine bind_eq_ok ((main .logJson rfl).read_named "" 5) ?_
  refine bind_eq_ok ((main .metricsAddress rfl).read_named "" 6) ?_
  refine bind_eq_ok (shows.read_part (fun _ => SerialSettings.ofNode_table) rfl "" 7) ?_
  refine bind_eq_ok (shows.read_part (fun _ => ScanRules.ofNode_table) rfl "" 8) ?_
  refine bind_eq_ok (shows.read_part (fun _ => TelemetrySettings.ofNode_table) rfl "" 9) ?_
  rfl

end TelemetryRelay
