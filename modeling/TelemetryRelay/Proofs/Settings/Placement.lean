import Mathlib.Data.List.Nodup
import TelemetryRelay.Proofs.Settings.Fields
import TelemetryRelay.Settings.Environment
import TelemetryRelay.Settings.Path

/-!
# Putting single settings in their places

Every setting has a path of its own: its key, or the key of its section and its
key.  A value that is put where one path leads is found there afterwards, and
what is found where the other paths lead stays as it was.
-/

namespace TelemetryRelay

/-! ## Paths of settings -/

namespace SettingsPart

def all : List SettingsPart :=
  [serial, scan, telemetry]

theorem mem_all (part : SettingsPart) : part ∈ all := by
  cases part <;> decide

theorem nodup_key : (all.map key).Nodup := by
  decide

theorem key_injective {part other : SettingsPart} (same : part.key = other.key) : part = other :=
  List.inj_on_of_nodup_map nodup_key part.mem_all other.mem_all same

end SettingsPart

namespace Setting

def all : List Setting :=
  [byteCapacity, recordCapacity, extractInterval, uploadInterval, logLevel, logJson,
    metricsAddress, device, baudRate, readChunk, echo, minFill, window, brokerHost, brokerPort,
    deviceId, topic, keepAlive, uploadEnabled]

theorem mem_all (setting : Setting) : setting ∈ all := by
  cases setting <;> decide

theorem nodup_path : (all.map path).Nodup := by
  decide

theorem path_injective {setting other : Setting} (same : setting.path = other.path) :
    setting = other :=
  List.inj_on_of_nodup_map nodup_path setting.mem_all other.mem_all same

/-- Settings with the same key are the same if they are in the same section. -/
theorem key_injective {setting other : Setting} (part : setting.part? = other.part?)
    (same : setting.key = other.key) : setting = other :=
  path_injective (by rw [path, path, part, same])

theorem key_ne_part (setting : Setting) (part : SettingsPart) :
    setting.key ≠ part.key := by
  cases setting <;> cases part <;> decide

def variableName (setting : Setting) : String :=
  String.intercalate "__" ("UART_TELEMETRY" :: setting.path.map String.toUpper)

def dotted (setting : Setting) : String :=
  String.intercalate "." setting.path

theorem toList_variableName (setting : Setting) :
    setting.variableName.toList =
      "__".toList.intercalate
        ("UART_TELEMETRY".toList :: setting.path.map fun key => key.toList.map Char.toUpper) := by
  rw [variableName, String.toList_intercalate, List.map_cons, List.map_map]
  simp only [Function.comp_def, String.toUpper, String.toList_map]

theorem pathOfName_variableName (setting : Setting) :
    Environment.pathOfName? setting.variableName = some setting.dotted := by
  -- A name in capitals does not compute before its letters are listed.
  rw [Environment.pathOfName?, Lowercase.ofText, String.toList_ofList, toList_variableName]
  cases setting <;> decide

theorem ofKey_dotted (setting : Setting) :
    PathStep.ofKey setting.dotted = setting.path.map PathStep.name := by
  cases setting <;> decide

theorem ofKey_key (setting : Setting) : PathStep.ofKey setting.key = [.name setting.key] := by
  cases setting <;> decide

theorem lowercase_key (setting : Setting) : Lowercase.ofText setting.key = setting.key := by
  cases setting <;> decide

theorem isBare_key (setting : Setting) : Toml.IsBare setting.key := by
  cases setting <;> decide

end Setting

namespace SettingsPart

theorem ofKey_key (part : SettingsPart) : PathStep.ofKey part.key = [.name part.key] := by
  cases part <;> decide

theorem lowercase_key (part : SettingsPart) : Lowercase.ofText part.key = part.key := by
  cases part <;> decide

theorem isBare_key (part : SettingsPart) : Toml.IsBare part.key := by
  cases part <;> decide

end SettingsPart

/-! ## Entries of tables -/

theorem lookup_putEntry_same {α : Type} (key : String) (value : α)
    (entries : List (String × α)) : (putEntry key value entries).lookup key = some value := by
  induction entries with
  | nil => exact List.lookup_cons_self
  | cons entry entries inductionHypothesis =>
      rw [putEntry]
      split
      · exact List.lookup_cons_self
      · rename_i apart
        rw [List.lookup_cons, beq_false_of_ne (Ne.symm apart)]
        exact inductionHypothesis

theorem lookup_putEntry_other {α : Type} {key other : String} (apart : other ≠ key) (value : α)
    (entries : List (String × α)) :
    (putEntry key value entries).lookup other = entries.lookup other := by
  induction entries with
  | nil => rw [putEntry, List.lookup_cons, beq_false_of_ne apart]
  | cons entry entries inductionHypothesis =>
      rw [putEntry]
      split
      · rename_i same
        rw [List.lookup_cons, List.lookup_cons, same, beq_false_of_ne apart]
      · rw [List.lookup_cons, List.lookup_cons, inductionHypothesis]

namespace Node

theorem get?_put_same (node : Node) (key : String) (value : Node) :
    (node.put key value).get? key = some value := by
  cases node with
  | table entries origin => exact lookup_putEntry_same key value entries
  | _ => exact List.lookup_cons_self

theorem get?_put_other {key other : String} (apart : other ≠ key) (node value : Node) :
    (node.put key value).get? other = node.get? other := by
  cases node with
  | table entries origin => exact lookup_putEntry_other apart value entries
  | _ => exact (List.lookup_cons ..).trans (by rw [beq_false_of_ne apart]; rfl)

theorem isTable_put (node : Node) (key : String) (value : Node) : (node.put key value).IsTable := by
  cases node <;> exact ⟨_, _, rfl⟩

theorem mergedInto_scalar (target : Option Node) (value : Scalar) (origin : Origin) :
    mergedInto target (.scalar value origin) = .scalar value origin := by
  rw [mergedInto]

/-! ## Values at the end of a path -/

theorem placeAt_single {key : String} (small : Lowercase.ofText key = key) (value node : Node) :
    placeAt value [.name key] node = node.put key (mergedInto (node.get? key) value) := by
  rw [placeAt, small]

theorem placeAt_pair {part key : String} (small : Lowercase.ofText part = part)
    (value node : Node) :
    placeAt value [.name part, .name key] node =
      node.put part (placeAt value [.name key] ((node.get? part).getD (.absent .unnamed))) := by
  have unfolded : placeAt value [.name part, .name key] node =
      node.put (Lowercase.ofText part) (placeAt value [.name key]
        ((node.get? (Lowercase.ofText part)).getD (.absent .unnamed))) := rfl
  rw [unfolded, small]

theorem placeAt_path (setting : Setting) (value node : Node) :
    placeAt value (setting.path.map .name) node =
      match setting.part? with
      | none => node.put setting.key (mergedInto (node.get? setting.key) value)
      | some part =>
          node.put part.key (placeAt value [.name setting.key]
            ((node.get? part.key).getD (.absent .unnamed))) := by
  rw [Setting.path]
  cases setting.part? with
  | none => exact placeAt_single setting.lowercase_key value node
  | some part => exact placeAt_pair part.lowercase_key value node

theorem get?_getD_absent (held : Option Node) (key : String) :
    (held.getD (.absent .unnamed)).get? key = held.bind fun inner => inner.get? key := by
  cases held <;> rfl

theorem at?_placeAt_same (setting : Setting) (value : Scalar) (origin : Origin) (node : Node) :
    (placeAt (.scalar value origin) (setting.path.map .name) node).at? setting.path =
      some (.scalar value origin) := by
  rw [placeAt_path]
  cases inside : setting.part? with
  | none => rw [at?_path_main inside, get?_put_same, mergedInto_scalar]
  | some part =>
      rw [at?_path_part inside, get?_put_same, Option.bind_some,
        placeAt_single setting.lowercase_key, get?_put_same, mergedInto_scalar]

/-- Two settings do not get in each other's way. -/
theorem at?_placeAt_other {setting other : Setting} (apart : other ≠ setting) (value : Scalar)
    (origin : Origin) (node : Node) :
    (placeAt (.scalar value origin) (setting.path.map .name) node).at? other.path =
      node.at? other.path := by
  rw [placeAt_path]
  cases inside : setting.part? with
  | none =>
      cases otherInside : other.part? with
      | none =>
          have keys : other.key ≠ setting.key := by
            intro same
            exact apart (Setting.key_injective (otherInside.trans inside.symm) same)
          rw [at?_path_main otherInside, at?_path_main otherInside, get?_put_other keys]
      | some otherPart =>
          rw [at?_path_part otherInside, at?_path_part otherInside,
            get?_put_other (setting.key_ne_part otherPart).symm]
  | some part =>
      cases otherInside : other.part? with
      | none =>
          rw [at?_path_main otherInside, at?_path_main otherInside,
            get?_put_other (other.key_ne_part part)]
      | some otherPart =>
          rw [at?_path_part otherInside, at?_path_part otherInside]
          by_cases same : otherPart = part
          · subst same
            have keys : other.key ≠ setting.key := by
              intro same
              exact apart (Setting.key_injective (otherInside.trans inside.symm) same)
            rw [get?_put_same, Option.bind_some, placeAt_single setting.lowercase_key,
              get?_put_other keys, get?_getD_absent]
          · rw [get?_put_other fun keys => same (SettingsPart.key_injective keys)]

theorem at?_emptyTable (setting : Setting) : emptyTable.at? setting.path = none := by
  cases setting <;> rfl

/-! ## Tables for sections -/

theorem sectioned_emptyTable : emptyTable.Sectioned where
  table := ⟨_, _, rfl⟩
  parts := by
    intro part inner held
    cases held

/-- What is put in the place of a section has to be a table. -/
theorem Sectioned.put {node : Node} (sectioned : node.Sectioned) {key : String} {value : Node}
    (table : forall part : SettingsPart, part.key = key -> value.IsTable) :
    (node.put key value).Sectioned where
  table := node.isTable_put key value
  parts := by
    intro part inner held
    by_cases same : part.key = key
    · rw [same, get?_put_same] at held
      cases held
      exact table part same
    · rw [get?_put_other same] at held
      exact sectioned.parts part inner held

/-- Sections stay tables when a setting is put in its place. -/
theorem Sectioned.placeAt_path {node : Node} (sectioned : node.Sectioned) (setting : Setting)
    (value : Node) : (Node.placeAt value (setting.path.map .name) node).Sectioned := by
  rw [Node.placeAt_path]
  cases setting.part? with
  | none => exact sectioned.put fun part same => absurd same.symm (setting.key_ne_part part)
  | some part =>
      refine sectioned.put fun _ _ => ?_
      rw [placeAt_single setting.lowercase_key]
      exact isTable_put _ _ _

end Node

end TelemetryRelay
