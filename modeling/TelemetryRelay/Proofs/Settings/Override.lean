import TelemetryRelay.Proofs.Settings.Layers
import TelemetryRelay.Proofs.Settings.StandardFile
import TelemetryRelay.Proofs.Text.Encoding
import TelemetryRelay.Proofs.Toml.Document

/-!
# Layers override setting by setting

A setting has the value that the environment gives it, or else the one that the
file gives it, or else its standard value.  This holds for each setting by
itself: a section of which a layer mentions some settings keeps the others.
Loading fails only because the settings that come out are rejected.
-/

namespace TelemetryRelay

/-- What the value of a variable is to be for a literal. -/
def Literal.spelling : Literal -> String
  | whole number => toString (number : Int)
  | truth value => toString value
  | text value => value

/-- A number and a truth value are spelled by their usual forms. -/
theorem Literal.spelledBy_spelling {literal : Literal}
    (noText : forall text, literal ≠ .text text) : literal.SpelledBy literal.spelling := by
  cases literal with
  | whole number => exact Decimal.spellsWhole_toString number
  | truth value =>
      change Lowercase.ofText (toString value) = toString value
      cases value <;> decide
  | text value => exact absurd rfl (noText value)

namespace Assignment

def value? (assignment : Assignment) (setting : Setting) : Option setting.kind.Value :=
  (assignment.literal? setting).bind setting.kind.value?

/-- The value of a setting if a file and the environment give these values. -/
def overridden (inFile inEnvironment : Assignment) (setting : Setting) : setting.kind.Value :=
  ((inEnvironment.value? setting).or (inFile.value? setting)).getD (setting.of {})

/-! ## What layers amount to -/

variable {assignment inFile inEnvironment : Assignment}

theorem value_eq_none {setting : Setting} (absent : assignment.literal? setting = none) :
    assignment.value? setting = none := by
  rw [value?, absent]
  rfl

theorem exists_value {setting : Setting} {literal : Literal}
    (given : assignment.literal? setting = some literal) :
    exists value, assignment.value? setting = some value ∧ forall origin,
      setting.Shown value (some (.scalar literal.scalar origin)) := by
  obtain ⟨value, stands⟩ := Option.isSome_iff_exists.mp (assignment.typed setting literal given)
  refine ⟨value, ?_, fun origin key => SettingKind.read_scalar stands key origin⟩
  rw [value?, given]
  exact stands

/-- What is there for a setting behind two layers shows the value of the later
one, or else of the earlier one, or else the standard value. -/
theorem shown_overridden {setting : Setting} {first second : Option Node}
    (file : Replaced (inFile.literal? setting) none first)
    (environment : Replaced (inEnvironment.literal? setting) first second) :
    setting.Shown (overridden inFile inEnvironment setting) second := by
  unfold overridden
  cases above : inEnvironment.literal? setting with
  | some literal =>
      obtain ⟨value, stands, shown⟩ := exists_value above
      rw [above] at environment
      obtain ⟨origin, rfl⟩ := environment
      rw [stands, Option.some_or, Option.getD_some]
      exact shown origin
  | none =>
      rw [above] at environment
      rw [value_eq_none above, Option.none_or]
      obtain rfl : second = first := environment
      cases below : inFile.literal? setting with
      | some literal =>
          obtain ⟨value, stands, shown⟩ := exists_value below
          rw [below] at file
          obtain ⟨origin, rfl⟩ := file
          rw [stands, Option.getD_some]
          exact shown origin
      | none =>
          rw [below] at file
          obtain rfl : second = none := file
          rw [value_eq_none below]
          rfl

/-- The layers of a document and of the environment amount to the settings that
they give, one over the other. -/
theorem ofLayers_eq {entries : List (String × Datum)} (held : inFile.HeldBy entries)
    {environment : List (String × String)} (exported : inEnvironment.ExportedIn environment)
    (origin : Origin) :
    Settings.ofLayers [Node.ofEntries origin entries, Environment.layer environment] =
      .ok (Settings.ofValues (overridden inFile inEnvironment)) := by
  have sectioned := exported.sectioned (held.sectioned origin Node.sectioned_emptyTable)
  have shows : Node.Shows (([Node.ofEntries origin entries, Environment.layer environment]).foldl
      Node.withLayer Node.emptyTable) (overridden inFile inEnvironment) := by
    refine ⟨sectioned, fun setting => ?_⟩
    have file := held.replaced origin Node.emptyTable setting
    rw [Node.at?_emptyTable] at file
    exact shown_overridden file (exported.replaced _ setting)
  exact shows.ofNode_eq

/-! ## Files -/

/-- Whether the file that a path leads to holds an assignment.  Without a path
there need not be a file, if there is nothing to hold. -/
inductive WrittenIn (assignment : Assignment) (files : Files) (path : Option String) : Prop where
  | written {name : String} {content : List UInt8} {entries : List (String × Datum)}
      (found : Settings.findFile files (path.getD standardFileName) = .ok (name, content))
      (format : Format.ofName? name = some .toml)
      (read : Toml.contentOf? (Utf8.decodeLossy content) = some entries)
      (held : assignment.HeldBy entries) : WrittenIn assignment files path
  | absent (unasked : path = none)
      (missing : forall name, name ∈ Settings.candidates standardFileName -> files name = none)
      (nothing : forall setting, assignment.literal? setting = none) :
      WrittenIn assignment files path

variable {files : Files} {path : Option String}

theorem heldBy_nil (nothing : forall setting, assignment.literal? setting = none) :
    assignment.HeldBy [] where
  sound := by
    intro entry impossible
    cases impossible
  main := by
    intro setting literal given
    rw [nothing] at given
    cases given
  inside := by
    intro setting literal given
    rw [nothing] at given
    cases given

theorem WrittenIn.fileLayer_eq (written : assignment.WrittenIn files path) :
    exists origin entries, assignment.HeldBy entries ∧
      Settings.fileLayer files path = .ok (Node.ofEntries origin entries) := by
  cases written with
  | @written name content entries found format read held =>
      refine ⟨.file name, entries, held, ?_⟩
      rw [Settings.fileLayer, found]
      dsimp only
      rw [Settings.contentLayer, format]
      dsimp only
      rw [Settings.documentLayer, Format.contentOf?, read]
  | absent unasked missing nothing =>
      refine ⟨.unnamed, [], heldBy_nil nothing, ?_⟩
      rw [unasked]
      exact Settings.fileLayer_missing missing

/-- What a file and the environment amount to. -/
theorem WrittenIn.combined_eq (written : inFile.WrittenIn files path)
    {environment : List (String × String)} (exported : inEnvironment.ExportedIn environment) :
    Settings.combined files environment path =
      .ok (Settings.ofValues (overridden inFile inEnvironment)) := by
  obtain ⟨origin, entries, held, layer⟩ := written.fileLayer_eq
  rw [Settings.combined, layer]
  exact ofLayers_eq held exported origin

/-! ## Every assignment can be written -/

/-- The leaves of a document for the settings of a section. -/
def leaves (assignment : Assignment) (part? : Option SettingsPart) : List (String × Literal) :=
  Setting.all.filterMap fun setting =>
    if setting.part? = part? then
      (assignment.literal? setting).map fun literal => (setting.key, literal)
    else none

/-- A document with a line for each setting of an assignment. -/
def outline (assignment : Assignment) : Toml.Outline where
  main := assignment.leaves none
  parts := SettingsPart.all.map fun part => (part.key, assignment.leaves (some part))

theorem mem_leaves {part? : Option SettingsPart} {leaf : String × Literal} :
    leaf ∈ assignment.leaves part? ↔
      exists setting literal, setting.part? = part? ∧
        assignment.literal? setting = some literal ∧ leaf = (setting.key, literal) := by
  rw [leaves, List.mem_filterMap]
  constructor
  · rintro ⟨setting, _, held⟩
    split at held
    · rename_i inside
      obtain ⟨literal, given, equal⟩ := Option.map_eq_some_iff.mp held
      exact ⟨setting, literal, inside, given, equal.symm⟩
    · cases held
  · rintro ⟨setting, literal, inside, given, rfl⟩
    refine ⟨setting, setting.mem_all, ?_⟩
    rw [if_pos inside, given]
    rfl

theorem nodup_leaves (assignment : Assignment) (part? : Option SettingsPart) :
    ((assignment.leaves part?).map Prod.fst).Nodup := by
  have nodup : Setting.all.Nodup := List.Nodup.of_map _ Setting.nodup_path
  rw [leaves, List.map_filterMap]
  refine nodup.filterMap ?_
  intro setting other key held heldToo
  rw [Option.mem_def, Option.map_eq_some_iff] at held heldToo
  obtain ⟨leaf, held, rfl⟩ := held
  obtain ⟨otherLeaf, heldToo, same⟩ := heldToo
  split at held
  · split at heldToo
    · rename_i inside otherInside
      obtain ⟨_, _, rfl⟩ := Option.map_eq_some_iff.mp held
      obtain ⟨_, _, rfl⟩ := Option.map_eq_some_iff.mp heldToo
      exact Setting.key_injective (inside.trans otherInside.symm) same.symm
    · cases heldToo
  · cases held

theorem writable_leaves (assignment : Assignment) (part? : Option SettingsPart) :
    Toml.Writable (assignment.leaves part?) where
  bare := by
    intro leaf member
    obtain ⟨setting, literal, _, _, rfl⟩ := mem_leaves.mp member
    exact setting.isBare_key
  fits := by
    intro leaf member
    obtain ⟨setting, literal, _, given, rfl⟩ := mem_leaves.mp member
    exact assignment.fits given
  distinct := nodup_leaves assignment part?

theorem nodup_outline (assignment : Assignment) :
    (assignment.outline.main.map Prod.fst ++ assignment.outline.parts.map Prod.fst).Nodup := by
  have parts : assignment.outline.parts.map Prod.fst = SettingsPart.all.map SettingsPart.key :=
    List.map_map
  rw [parts, List.nodup_append]
  refine ⟨nodup_leaves assignment none, SettingsPart.nodup_key, ?_⟩
  intro key leaf other part same
  obtain ⟨_, member, rfl⟩ := List.mem_map.mp leaf
  obtain ⟨setting, literal, _, _, rfl⟩ := mem_leaves.mp member
  obtain ⟨inside, _, rfl⟩ := List.mem_map.mp part
  exact setting.key_ne_part inside same

theorem sound_outline (assignment : Assignment) : assignment.outline.Sound where
  main := writable_leaves assignment none
  bare := by
    intro _ member
    obtain ⟨part, _, rfl⟩ := List.mem_map.mp member
    exact part.isBare_key
  parts := by
    intro _ member
    obtain ⟨part, _, rfl⟩ := List.mem_map.mp member
    exact writable_leaves assignment (some part)
  distinct := nodup_outline assignment

theorem mem_data {part? : Option SettingsPart} {entry : String × Datum} :
    entry ∈ (assignment.leaves part?).map Toml.leafDatum ↔
      assignment.IsLeaf part? entry := by
  rw [List.mem_map]
  constructor
  · rintro ⟨leaf, member, rfl⟩
    obtain ⟨setting, literal, inside, given, rfl⟩ := mem_leaves.mp member
    exact ⟨setting, literal, inside, given, rfl⟩
  · rintro ⟨setting, literal, inside, given, rfl⟩
    exact ⟨_, mem_leaves.mpr ⟨setting, literal, inside, given, rfl⟩, rfl⟩

/-- The document with a line for each setting holds the assignment. -/
theorem heldBy_outline (assignment : Assignment) :
    assignment.HeldBy assignment.outline.content where
  sound := by
    intro entry member
    obtain leaf | part := List.mem_append.mp member
    · exact .inl (mem_data.mp leaf)
    · rw [outline, List.map_map] at part
      obtain ⟨inside, _, rfl⟩ := List.mem_map.mp part
      exact .inr ⟨inside, _, rfl, fun leaf member => mem_data.mp member⟩
  main := by
    intro setting literal given main
    exact List.mem_append_left _ (mem_data.mpr ⟨setting, literal, main, given, rfl⟩)
  inside := by
    intro setting literal given part inside
    refine ⟨_, List.mem_append_right _ ?_, mem_data.mpr ⟨setting, literal, inside, given, rfl⟩⟩
    rw [outline, List.map_map]
    exact List.mem_map_of_mem part.mem_all

def document (assignment : Assignment) : String :=
  String.ofList assignment.outline.written

/-- An assignment is in the standard file if this is a document for it. -/
theorem writtenIn_document (assignment : Assignment) {files : Files}
    (held : files standardFileName = some (Utf8.encode assignment.document))
    {path : Option String} (standard : path.getD standardFileName = standardFileName) :
    assignment.WrittenIn files path := by
  have read : Toml.contentOf? (Utf8.decodeLossy (Utf8.encode assignment.document)) =
      some assignment.outline.content := by
    rw [Utf8.decodeLossy_encode]
    exact Toml.Outline.contentOf_written (sound_outline assignment)
  refine .written ?_ Settings.ofName_standardFileName read (heldBy_outline assignment)
  rw [standard]
  exact Settings.findFile_standardFileName held

/-- Every assignment can be in the standard file, asked for or not. -/
theorem exists_writtenIn (assignment : Assignment) :
    exists files, assignment.WrittenIn files none ∧
      assignment.WrittenIn files (some standardFileName) := by
  let files : Files := fun _ => some (Utf8.encode assignment.document)
  have held : files standardFileName = some (Utf8.encode assignment.document) := rfl
  exact ⟨files, assignment.writtenIn_document held rfl, assignment.writtenIn_document held rfl⟩

/-- Whether only settings that are numbers or truth values are given. -/
def Numeric (assignment : Assignment) : Prop :=
  forall setting literal, assignment.literal? setting = some literal ->
    setting.kind.isText = false

theorem Numeric.ne_text (numeric : assignment.Numeric) {setting : Setting} {literal : Literal}
    (given : assignment.literal? setting = some literal) (text : String) :
    literal ≠ .text text := by
  rintro rfl
  have isText := SettingKind.isText_of_value (assignment.typed setting _ given)
  exact absurd (numeric setting _ given) (Bool.not_eq_false _ ▸ isText)

def exports (assignment : Assignment) : List (String × String) :=
  Setting.all.filterMap fun setting =>
    (assignment.literal? setting).map fun literal => (setting.variableName, literal.spelling)

theorem mem_exports {entry : String × String} :
    entry ∈ assignment.exports ↔
      exists setting literal, assignment.literal? setting = some literal ∧
        entry = (setting.variableName, literal.spelling) := by
  rw [exports, List.mem_filterMap]
  constructor
  · rintro ⟨setting, _, held⟩
    obtain ⟨literal, given, equal⟩ := Option.map_eq_some_iff.mp held
    exact ⟨setting, literal, given, equal.symm⟩
  · rintro ⟨setting, literal, given, rfl⟩
    refine ⟨setting, setting.mem_all, ?_⟩
    rw [given]
    rfl

theorem exportedIn_exports (numeric : assignment.Numeric) :
    assignment.ExportedIn assignment.exports where
  sound := by
    intro name text member _
    obtain ⟨setting, literal, given, equal⟩ := mem_exports.mp member
    cases equal
    exact ⟨setting, literal, given, rfl, Literal.spelledBy_spelling (numeric.ne_text given)⟩
  complete := by
    intro setting literal given
    exact ⟨_, _, mem_exports.mpr ⟨setting, literal, given, rfl⟩, rfl,
      Literal.spelledBy_spelling (numeric.ne_text given)⟩

/-- The order of the variables does not matter. -/
theorem ExportedIn.perm {environment reordered : List (String × String)}
    (exported : assignment.ExportedIn environment) (permuted : reordered.Perm environment) :
    assignment.ExportedIn reordered where
  sound name text member := exported.sound name text (permuted.mem_iff.mp member)
  complete setting literal given := by
    obtain ⟨name, text, member, spelled⟩ := exported.complete setting literal given
    exact ⟨name, text, permuted.mem_iff.mpr member, spelled⟩

end Assignment

namespace Settings

/-- Loading succeeds exactly if the settings that are put together are
accepted. -/
theorem load_of_combined {files : Files} {environment : List (String × String)}
    {path : Option String} {settings : Settings}
    (combined : Settings.combined files environment path = .ok settings) :
    load files environment path = checked settings ∧
      ((exists loaded, load files environment path = .ok loaded) ↔ settings.validate = .ok ()) := by
  have loads : load files environment path = checked settings := by
    rw [load, combined]
    rfl
  refine ⟨loads, ?_⟩
  rw [loads, checked]
  cases accepted : settings.validate with
  | ok _ => exact ⟨fun _ => rfl, fun _ => ⟨settings, rfl⟩⟩
  | error fault =>
      constructor
      · rintro ⟨_, impossible⟩
        cases impossible
      · intro impossible
        cases impossible

/-- Layers override setting by setting.  Any assignment can be in the standard
file, and any one of numbers and truth values in the environment.  Wherever the
file and the environment hold two assignments, the settings that are put
together have, each by itself, the value from the environment, or else the one
from the file, or else the standard value.  The order of the variables does not
matter, and loading yields these settings unless they are rejected. -/
theorem layers_override_each_setting (inFile inEnvironment : Assignment)
    (numeric : inEnvironment.Numeric) :
    (exists files, inFile.WrittenIn files none ∧
      inFile.WrittenIn files (some standardFileName)) ∧
    (exists environment, inEnvironment.ExportedIn environment) ∧
    forall files path environment, inFile.WrittenIn files path ->
      inEnvironment.ExportedIn environment ->
      exists settings, combined files environment path = .ok settings ∧
        (forall setting : Setting, setting.of settings =
          ((inEnvironment.value? setting).or (inFile.value? setting)).getD (setting.of {})) ∧
        (forall reordered, reordered.Perm environment ->
          combined files reordered path = .ok settings) ∧
        load files environment path = checked settings ∧
        ((exists loaded, load files environment path = .ok loaded) ↔
          settings.validate = .ok ()) := by
  refine ⟨inFile.exists_writtenIn, ⟨inEnvironment.exports, Assignment.exportedIn_exports numeric⟩,
    ?_⟩
  intro files path environment written exported
  have combined := written.combined_eq exported
  exact ⟨_, combined, fun setting => of_ofValues _ setting,
    fun reordered permuted => written.combined_eq (exported.perm permuted),
    load_of_combined combined⟩

def partialFile : Assignment where
  literal?
    | .byteCapacity => some (.whole 512)
    | .device => some (.text "/dev/ttyS1")
    | .echo => some (.truth true)
    | .deviceId => some (.text "lab")
    | _ => none
  typed := by
    intro setting literal given
    cases setting <;> cases given <;> decide

/-- What an environment gives that mentions one of these sections, too. -/
def partialEnvironment : Assignment where
  literal?
    | .baudRate => some (.whole 9600)
    | .echo => some (.truth false)
    | _ => none
  typed := by
    intro setting literal given
    cases setting <;> cases given <;> decide

def partialText : String :=
  "byte_capacity = 512\n[serial]\ndevice = \"/dev/ttyS1\"\necho = true\n[extractor]\n" ++
    "[telemetry]\ndevice_id = \"lab\"\n"

def partialVariables : List (String × String) :=
  [("HOME", "/root"), ("UART_TELEMETRY__SERIAL__ECHO", "False"),
    ("UART_TELEMETRY__SERIAL__BAUD_RATE", "9600")]

def partialFiles : Files := fun name =>
  if name = standardFileName then some (Utf8.encode partialText) else none

theorem writtenIn_partialFiles : partialFile.WrittenIn partialFiles none := by
  have document : partialFile.document = partialText := by decide
  refine partialFile.writtenIn_document ?_ rfl
  rw [document]
  exact if_pos rfl

theorem exportedIn_partialVariables : partialEnvironment.ExportedIn partialVariables := by
  have echo : "UART_TELEMETRY__SERIAL__ECHO" = Setting.echo.variableName := by decide +kernel
  have baudRate : "UART_TELEMETRY__SERIAL__BAUD_RATE" = Setting.baudRate.variableName := by
    decide +kernel
  have echoOff : (Literal.truth false).SpelledBy "False" := by
    change Lowercase.ofText "False" = "false"
    decide
  have baud : (Literal.whole 9600).SpelledBy "9600" :=
    Decimal.integerOfText_eq_some_iff.mp (by decide)
  constructor
  · intro name text member isSetting
    simp only [partialVariables, List.mem_cons, Prod.mk.injEq, List.not_mem_nil,
      or_false] at member
    obtain ⟨rfl, rfl⟩ | ⟨rfl, rfl⟩ | ⟨rfl, rfl⟩ := member
    · exact absurd isSetting (by decide)
    · exact ⟨.echo, .truth false, rfl, congrArg Lowercase.ofText echo, echoOff⟩
    · exact ⟨.baudRate, .whole 9600, rfl, congrArg Lowercase.ofText baudRate, baud⟩
  · intro setting literal given
    cases setting <;> cases given
    · exact ⟨_, _, .tail _ (.tail _ (.head _)), congrArg Lowercase.ofText baudRate, baud⟩
    · exact ⟨_, _, .tail _ (.head _), congrArg Lowercase.ofText echo, echoOff⟩

/-- Sections that the layers mention in part keep their other settings. -/
theorem partial_sections_kept :
    load partialFiles partialVariables none =
      .ok { byteCapacity := 512,
            serial := { device := "/dev/ttyS1", baudRate := 9600, echo := false },
            telemetry := { deviceId := "lab" } } := by
  have numeric : partialEnvironment.Numeric := by
    intro setting literal given
    cases setting <;> cases given <;> rfl
  obtain ⟨_, _, override⟩ := layers_override_each_setting partialFile partialEnvironment numeric
  obtain ⟨settings, _, each, _, loads, _⟩ :=
    override partialFiles none partialVariables writtenIn_partialFiles exportedIn_partialVariables
  have same : settings = _ := (ofValues_of settings).symm.trans (congrArg ofValues (funext each))
  rw [loads, same]
  decide +kernel

end Settings

end TelemetryRelay
