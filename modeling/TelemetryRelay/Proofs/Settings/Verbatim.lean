import TelemetryRelay.Proofs.Settings.Layers
import TelemetryRelay.Proofs.Settings.StandardFile

/-!
# Texts from the environment

Four settings are texts.  One that only a variable of the environment gives is
loaded as the text that the variable's value becomes, and so the settings are
those of a document that gives this text in quotes.
-/

namespace TelemetryRelay

/-- The settings that are texts. -/
inductive TextSetting where
  | device
  | brokerHost
  | deviceId
  | topic
deriving DecidableEq, Repr

namespace TextSetting

def setting : TextSetting -> Setting
  | device => .device
  | brokerHost => .brokerHost
  | deviceId => .deviceId
  | topic => .topic

def part (which : TextSetting) : SettingsPart :=
  which.setting.part?.getD .serial

def variableName (which : TextSetting) : String :=
  which.setting.variableName

/-- A document that gives the setting as a text and nothing else. -/
def document (which : TextSetting) (text : String) : String :=
  Toml.assignmentLine which.part.key which.setting.key text

/-- Standard settings but for one, which is the given text. -/
def given (text : String) : TextSetting -> Settings
  | device => { serial := { device := text } }
  | brokerHost => { telemetry := { brokerHost := text } }
  | deviceId => { telemetry := { deviceId := text } }
  | topic => { telemetry := { topic := some text } }

theorem part?_setting (which : TextSetting) : which.setting.part? = some which.part := by
  cases which <;> rfl

/-! ## One setting and nothing else -/

/-- What the layers amount to if they hold one setting. -/
def node (which : TextSetting) (value : Scalar) (origin : Origin) : Node :=
  Node.placeAt (.scalar value origin) (which.setting.path.map .name) Node.emptyTable

theorem of_given_other {which : TextSetting} {other : Setting} (apart : other ≠ which.setting)
    (text : String) : other.of (which.given text) = other.of {} := by
  cases which <;> cases other <;> first | rfl | exact absurd rfl apart

theorem shown_given (which : TextSetting) (value : Scalar) (origin : Origin) :
    which.setting.Shown (which.setting.of (which.given value.asText))
      (some (.scalar value origin)) := by
  intro key
  cases which <;> rfl

theorem shows_node (which : TextSetting) (value : Scalar) (origin : Origin) :
    (which.node value origin).Shows (Setting.of (which.given value.asText)) where
  toSectioned := Node.sectioned_emptyTable.placeAt_path which.setting _
  shown := by
    intro other
    by_cases same : other = which.setting
    · rw [same, node, Node.at?_placeAt_same]
      exact which.shown_given value origin
    · rw [node, Node.at?_placeAt_other same, Node.at?_emptyTable]
      exact of_given_other same _

theorem ofNode_node (which : TextSetting) (value : Scalar) (origin : Origin) :
    Settings.ofNode (which.node value origin) = .ok (which.given value.asText) :=
  (which.shows_node value origin).ofNode_eq

/-- No text is rejected but the empty one. -/
theorem checked_given (which : TextSetting) {text : String} (nonempty : text ≠ "") :
    Settings.checked (which.given text) = .ok (which.given text) := by
  have standard : Settings.Acceptable {} := (Settings.validate_eq_ok_iff _).mp (by decide +kernel)
  have acceptable : (which.given text).Acceptable := by
    cases which with
    | device => exact { standard with serial_accepted := if_neg nonempty }
    | brokerHost => exact { standard with }
    | deviceId => exact { standard with device_named := fun unnamed => nonempty unnamed.2 }
    | topic => exact { standard with }
  rw [Settings.checked, (Settings.validate_eq_ok_iff _).mpr acceptable]

/-! ## The environment -/

/-- Variables that are no settings do not count. -/
theorem layer_eq {environment : List (String × String)} {which : TextSetting} {text : String}
    (only : environment.filter (fun entry => (Environment.pathOfName? entry.1).isSome) =
      [(which.variableName, text)]) :
    Environment.layer environment =
      [(which.setting.dotted, .scalar (Environment.scalarOfText text) .environment)] := by
  have settings : Environment.layer environment = Environment.layer
      (environment.filter fun entry => (Environment.pathOfName? entry.1).isSome) := by
    rw [Environment.layer, Environment.layer, List.filterMap_filter]
    refine List.filterMap_congr ?_
    rintro ⟨name, value⟩ _
    dsimp only
    cases Environment.pathOfName? name <;> rfl
  rw [settings, only]
  change [(which.variableName, text)].filterMap _ = _
  rw [List.filterMap_cons]
  dsimp only
  rw [variableName, Setting.pathOfName_variableName]
  rfl

/-- Without a file and other variables there is this setting and nothing else. -/
theorem combined_variable {files : Files} {environment : List (String × String)}
    {which : TextSetting} {text : String}
    (absent : forall name, name ∈ Settings.candidates standardFileName -> files name = none)
    (only : environment.filter (fun entry => (Environment.pathOfName? entry.1).isSome) =
      [(which.variableName, text)]) :
    Settings.combined files environment none =
      .ok (which.given (Environment.scalarOfText text).asText) := by
  rw [Settings.combined, Settings.fileLayer_missing absent, layer_eq only]
  change Settings.ofNode (Node.placeAt _ (PathStep.ofKey which.setting.dotted) _) = _
  rw [Setting.ofKey_dotted]
  exact which.ofNode_node _ _

/-! ## A document -/

/-- The section of a document is a table that is merged, and not a step of a
path. -/
theorem withLayer_part (which : TextSetting) (value : Scalar) (origin : Origin) :
    Node.emptyTable.withLayer
        [(which.part.key, .table [(which.setting.key, .scalar value origin)] origin)] =
      which.node value origin := by
  change Node.placeAt _ (PathStep.ofKey which.part.key) _ = _
  rw [node, Node.placeAt_path, which.part?_setting, SettingsPart.ofKey_key,
    Node.placeAt_single which.part.lowercase_key, Node.mergedInto,
    Node.mergeEntries_eq_foldl]
  dsimp only [List.foldl_cons, List.foldl_nil]
  rw [Node.placeAt_single which.setting.lowercase_key,
    Node.placeAt_single which.setting.lowercase_key]
  rfl

/-- A document that gives a setting as a text has this setting. -/
theorem ofDocument_document (which : TextSetting) {text : String} (nonempty : text ≠ "") :
    Settings.ofDocument (which.document text) = .ok (which.given text) := by
  have read := Toml.contentOf_assignmentLine which.part.isBare_key which.setting.isBare_key text
  have layer : Settings.documentLayer .toml .unnamed (which.document text) =
      .ok [(which.part.key,
        .table [(which.setting.key, .scalar (.text text) .unnamed)] .unnamed)] := by
    rw [Settings.documentLayer, Format.contentOf?, document, read]
    rfl
  rw [Settings.ofDocument, layer]
  change Settings.ofNode (Node.emptyTable.withLayer _) >>= Settings.checked = _
  rw [withLayer_part, ofNode_node]
  exact which.checked_given nonempty

end TextSetting

namespace Settings

/-- A text setting that only a variable gives is loaded as the text that the
value of the variable becomes, and the settings are those of a document that
gives this text. -/
theorem text_variable_loaded_as_spelled (which : TextSetting) {text : String}
    (nonempty : text ≠ "") {files : Files}
    (absent : forall name, name ∈ candidates standardFileName -> files name = none)
    {environment : List (String × String)}
    (only : environment.filter (fun entry => (Environment.pathOfName? entry.1).isSome) =
      [(which.variableName, text)]) :
    exists arriving, (forall other, Arrives text other ↔ other = arriving) ∧
      load files environment none = .ok (which.given arriving) ∧
      ofDocument (which.document arriving) = .ok (which.given arriving) := by
  have arrives : Arrives text (Environment.scalarOfText text).asText := arrives_iff.mpr rfl
  have arrivingNonempty := arrives.ne_empty nonempty
  refine ⟨(Environment.scalarOfText text).asText, fun other => arrives_iff, ?_,
    which.ofDocument_document arrivingNonempty⟩
  rw [load, TextSetting.combined_variable absent only]
  exact which.checked_given arrivingNonempty

/-- An identifier that spells a number loses its plus sign and its zero. -/
theorem signed_identifier_loaded_as_spelled :
    load (fun _ => none) [("HOME", "/root"), (TextSetting.deviceId.variableName, "+042")] none =
        .ok (TextSetting.deviceId.given "42") ∧
      ofDocument (TextSetting.deviceId.document "42") = .ok (TextSetting.deviceId.given "42") := by
  have only : [("HOME", "/root"), (TextSetting.deviceId.variableName, "+042")].filter
      (fun entry => (Environment.pathOfName? entry.1).isSome) =
        [(TextSetting.deviceId.variableName, "+042")] := by
    decide +kernel
  obtain ⟨arriving, determined, loaded, written⟩ :=
    text_variable_loaded_as_spelled .deviceId (by decide) (fun _ _ => rfl) only
  have spelled : Decimal.SpellsWhole "+042".toList 42 :=
    Decimal.integerOfText_eq_some_iff.mp (by decide)
  have same : "42" = arriving := (determined "42").mp (.whole spelled (by decide))
  rw [same]
  exact ⟨loaded, written⟩

/-- Not every text is loaded as it is: an identifier with zeros in front loses
them. -/
theorem padded_identifier_shortened :
    ¬ forall (which : TextSetting) (text : String), text ≠ "" -> '\x00' ∉ text.toList ->
      load (fun _ => none) [(which.variableName, text)] none = .ok (which.given text) ∧
        load (fun _ => none) [(which.variableName, text)] none =
          ofDocument (which.document text) := by
  intro verbatim
  have loaded := (verbatim .deviceId "007" (by decide) (by decide)).1
  have arriving : (Environment.scalarOfText "007").asText = "7" := by decide +kernel
  have only : [(TextSetting.deviceId.variableName, "007")].filter
      (fun entry => (Environment.pathOfName? entry.1).isSome) =
        [(TextSetting.deviceId.variableName, "007")] := by
    decide +kernel
  rw [load, TextSetting.combined_variable (fun _ _ => rfl) only, arriving] at loaded
  change checked (TextSetting.deviceId.given "7") = _ at loaded
  rw [TextSetting.checked_given _ (by decide)] at loaded
  injection loaded with same
  exact absurd same (by decide)

end Settings
end TelemetryRelay
