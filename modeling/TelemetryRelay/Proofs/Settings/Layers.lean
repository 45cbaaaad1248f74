import TelemetryRelay.Proofs.Settings.Placement
import TelemetryRelay.Proofs.Settings.Spelling

/-!
# What a layer does to single settings

An assignment gives literals to some of the settings.  A document or the
variables of the environment hold an assignment if every entry is a setting of
it and every setting of it has an entry.  Such a layer gives the settings of
the assignment their literals and leaves the others alone, in whatever order
the entries come: each entry gives the setting that it mentions the one literal
that the assignment has for it.
-/

namespace TelemetryRelay

/-- Literals for some of the settings, each one standing for a value of its
setting. -/
structure Assignment where
  literal? : Setting -> Option Literal
  typed : forall setting literal, literal? setting = some literal ->
    (setting.kind.value? literal).isSome = true

/-! ## Giving settings their literals -/

/-- What happens to a setting: if it is mentioned, it gets the literal that it
has to have, and else it stays as it was. -/
structure Gives (literal? : Option Literal) (mentioned : Prop) (before after : Option Node) :
    Prop where
  given : mentioned -> exists literal origin,
    literal? = some literal ∧ after = some (.scalar literal.scalar origin)
  kept : ¬mentioned -> after = before

namespace Gives

variable {literal? : Option Literal} {mentioned : Prop} {before after : Option Node}

theorem congr {other : Prop} (gives : Gives literal? mentioned before after)
    (same : other ↔ mentioned) : Gives literal? other before after where
  given isMentioned := gives.given (same.mp isMentioned)
  kept notMentioned := gives.kept fun isMentioned => notMentioned (same.mpr isMentioned)

theorem foldl {ε : Type} (look : Node -> Option Node) (mentions : ε -> Prop)
    {place : Node -> ε -> Node} {entries : List ε}
    (step : forall entry, entry ∈ entries -> forall node,
      Gives literal? (mentions entry) (look node) (look (place node entry))) (node : Node) :
    Gives literal? (exists entry, entry ∈ entries ∧ mentions entry) (look node)
      (look (entries.foldl place node)) := by
  induction entries generalizing node with
  | nil =>
      refine ⟨?_, fun _ => rfl⟩
      rintro ⟨_, impossible, _⟩
      cases impossible
  | cons entry entries inductionHypothesis =>
      have first := step entry List.mem_cons_self node
      have others := inductionHypothesis
        (fun other member => step other (List.mem_cons_of_mem entry member)) (place node entry)
      rw [List.foldl_cons]
      constructor
      · rintro ⟨other, member, isMentioned⟩
        by_cases later : exists entry, entry ∈ entries ∧ mentions entry
        · exact others.given later
        · obtain rfl | member := List.mem_cons.mp member
          · rw [others.kept later]
            exact first.given isMentioned
          · exact absurd ⟨other, member, isMentioned⟩ later
      · intro notMentioned
        rw [others.kept fun ⟨other, member, isMentioned⟩ =>
          notMentioned ⟨other, List.mem_cons_of_mem entry member, isMentioned⟩]
        exact first.kept fun isMentioned => notMentioned ⟨entry, List.mem_cons_self, isMentioned⟩

end Gives

/-- What a layer does to a setting that has this literal in it, or none. -/
def Replaced (literal? : Option Literal) (before after : Option Node) : Prop :=
  match literal? with
  | none => after = before
  | some literal => exists origin, after = some (.scalar literal.scalar origin)

/-- If every setting that has a literal is mentioned, exactly these are
replaced. -/
theorem Gives.replaced {literal? : Option Literal} {mentioned : Prop}
    {before after : Option Node} (gives : Gives literal? mentioned before after)
    (complete : forall literal, literal? = some literal -> mentioned) :
    Replaced literal? before after := by
  by_cases isMentioned : mentioned
  · obtain ⟨literal, origin, rfl, given⟩ := gives.given isMentioned
    exact ⟨origin, given⟩
  · cases literal? with
    | none => exact gives.kept isMentioned
    | some literal => exact absurd (complete literal rfl) isMentioned

/-- A literal in the place of one setting is given to this setting only. -/
theorem gives_placeAt_path {setting given : Setting} {literal? : Setting -> Option Literal}
    {literal : Literal} (held : literal? given = some literal) (origin : Origin) (node : Node) :
    Gives (literal? setting) (setting = given) (node.at? setting.path)
      ((Node.placeAt (.scalar literal.scalar origin) (given.path.map .name) node).at?
        setting.path) where
  given := by
    rintro rfl
    exact ⟨literal, origin, held, Node.at?_placeAt_same setting literal.scalar origin node⟩
  kept apart := Node.at?_placeAt_other apart literal.scalar origin node

/-! ## Documents -/

theorem Node.ofDatum_literal (origin : Origin) (literal : Literal) :
    Node.ofDatum origin literal.datum = .scalar literal.scalar origin := by
  cases literal <;> rw [Literal.datum, Node.ofDatum] <;> rfl

theorem Node.ofEntries_eq_map (origin : Origin) (entries : List (String × Datum)) :
    Node.ofEntries origin entries =
      entries.map fun entry => (entry.1, Node.ofDatum origin entry.2) := by
  induction entries with
  | nil => rw [Node.ofEntries, List.map_nil]
  | cons entry entries inductionHypothesis =>
      rw [Node.ofEntries, List.map_cons, inductionHypothesis]

/-- The entries of a document are put in their places one after the other. -/
theorem Node.withLayer_ofEntries (node : Node) (origin : Origin)
    (entries : List (String × Datum)) :
    node.withLayer (Node.ofEntries origin entries) =
      entries.foldl (fun merged entry =>
        Node.placeAt (Node.ofDatum origin entry.2) (PathStep.ofKey entry.1) merged) node := by
  rw [Node.withLayer, Node.ofEntries_eq_map, List.foldl_map]

/-- Merging entries puts them in their places, too. -/
theorem Node.mergeEntries_eq_foldl (target : Node) (entries : List (String × Node)) :
    Node.mergeEntries target entries =
      entries.foldl (fun merged entry => Node.placeAt entry.2 [.name entry.1] merged) target := by
  induction entries generalizing target with
  | nil => rw [Node.mergeEntries, List.foldl_nil]
  | cons entry entries inductionHypothesis =>
      rw [Node.mergeEntries, List.foldl_cons]
      exact inductionHypothesis _

namespace Assignment

/-- Whether an entry gives a setting of this section its literal. -/
def IsLeaf (assignment : Assignment) (part? : Option SettingsPart) (entry : String × Datum) :
    Prop :=
  exists setting literal, setting.part? = part? ∧ assignment.literal? setting = some literal ∧
    entry = (setting.key, literal.datum)

/-- Whether an entry is a table that gives settings of its section their
literals. -/
def IsPart (assignment : Assignment) (entry : String × Datum) : Prop :=
  exists part inner, entry = (SettingsPart.key part, .table inner) ∧
    forall leaf, leaf ∈ inner -> assignment.IsLeaf (some part) leaf

/-- Whether a document holds an assignment and nothing else: literals for the
keys of settings outside of the sections, and for the others in tables under
the keys of their sections. -/
structure HeldBy (assignment : Assignment) (entries : List (String × Datum)) : Prop where
  sound : forall entry, entry ∈ entries -> assignment.IsLeaf none entry ∨ assignment.IsPart entry
  main : forall setting literal, assignment.literal? setting = some literal ->
    setting.part? = none -> (setting.key, literal.datum) ∈ entries
  inside : forall setting literal, assignment.literal? setting = some literal ->
    forall part, setting.part? = some part ->
      exists inner, (part.key, .table inner) ∈ entries ∧ (setting.key, literal.datum) ∈ inner

def MentionedBy (setting : Setting) (entry : String × Datum) : Prop :=
  match setting.part? with
  | none => entry.1 = setting.key
  | some part => exists inner, entry = (part.key, .table inner) ∧
      exists leaf, leaf ∈ inner ∧ leaf.1 = setting.key

variable {assignment : Assignment} {setting : Setting}

theorem mentionedBy_main_iff {given : Setting} (main : given.part? = none) (datum : Datum) :
    MentionedBy setting (given.key, datum) ↔ setting = given := by
  unfold MentionedBy
  cases inside : setting.part? with
  | none =>
      constructor
      · intro same
        exact Setting.key_injective (inside.trans main.symm) same.symm
      · rintro rfl
        rfl
  | some part =>
      constructor
      · rintro ⟨inner, same, _⟩
        exact absurd (Prod.ext_iff.mp same).1 (given.key_ne_part part)
      · rintro rfl
        rw [main] at inside
        cases inside

theorem gives_main {entry : String × Datum} (leaf : assignment.IsLeaf none entry)
    (origin : Origin) (node : Node) :
    Gives (assignment.literal? setting) (MentionedBy setting entry) (node.at? setting.path)
      ((Node.placeAt (Node.ofDatum origin entry.2) (PathStep.ofKey entry.1) node).at?
        setting.path) := by
  obtain ⟨given, literal, main, held, rfl⟩ := leaf
  have steps : PathStep.ofKey given.key = given.path.map .name := by
    rw [given.ofKey_key, Setting.path, main]
    rfl
  rw [Node.ofDatum_literal, steps]
  exact (gives_placeAt_path held origin node).congr (mentionedBy_main_iff main literal.datum)

/-- Entries of a section that are merged into it are given to settings of this
section. -/
theorem gives_merged {part : SettingsPart} (inside : setting.part? = some part)
    {inner : List (String × Datum)}
    (leaves : forall leaf, leaf ∈ inner -> assignment.IsLeaf (some part) leaf) (origin : Origin)
    (target : Node) :
    Gives (assignment.literal? setting) (exists leaf, leaf ∈ inner ∧ leaf.1 = setting.key)
      (target.get? setting.key)
      ((Node.mergeEntries target (Node.ofEntries origin inner)).get? setting.key) := by
  rw [Node.mergeEntries_eq_foldl, Node.ofEntries_eq_map, List.foldl_map]
  refine Gives.foldl (fun node => node.get? setting.key)
    (fun (leaf : String × Datum) => leaf.1 = setting.key) ?_ target
  intro leaf member node
  obtain ⟨given, literal, givenInside, held, rfl⟩ := leaves leaf member
  dsimp only
  rw [Node.ofDatum_literal, Node.placeAt_single given.lowercase_key, Node.mergedInto_scalar]
  constructor
  · intro same
    have equal := Setting.key_injective (givenInside.trans inside.symm) same
    rw [← equal]
    exact ⟨literal, origin, held, Node.get?_put_same node given.key _⟩
  · intro apart
    exact Node.get?_put_other (Ne.symm apart) node _

theorem get?_getD_emptyTable (held : Option Node) (key : String) :
    (held.getD Node.emptyTable).get? key = held.bind fun inner => inner.get? key := by
  cases held <;> rfl

theorem placeAt_part (part : SettingsPart) (inner : List (String × Datum)) (origin : Origin)
    (node : Node) :
    Node.placeAt (Node.ofDatum origin (.table inner)) (PathStep.ofKey part.key) node =
      node.put part.key (Node.mergeEntries ((node.get? part.key).getD Node.emptyTable)
        (Node.ofEntries origin inner)) := by
  rw [part.ofKey_key, Node.placeAt_single part.lowercase_key, Node.ofDatum, Node.mergedInto]

/-- A section gives its settings to this section and to no other place. -/
theorem gives_part {part : SettingsPart} {inner : List (String × Datum)}
    (leaves : forall leaf, leaf ∈ inner -> assignment.IsLeaf (some part) leaf) (origin : Origin)
    (node : Node) :
    Gives (assignment.literal? setting) (MentionedBy setting (part.key, .table inner))
      (node.at? setting.path)
      ((Node.placeAt (Node.ofDatum origin (.table inner)) (PathStep.ofKey part.key) node).at?
        setting.path) := by
  rw [placeAt_part]
  unfold MentionedBy
  cases inside : setting.part? with
  | none =>
      have apart := setting.key_ne_part part
      rw [Node.at?_path_main inside, Node.at?_path_main inside, Node.get?_put_other apart]
      exact ⟨fun same => absurd same.symm apart, fun _ => rfl⟩
  | some other =>
      rw [Node.at?_path_part inside, Node.at?_path_part inside]
      by_cases same : other = part
      · subst same
        have merged := gives_merged inside leaves origin
          ((node.get? other.key).getD Node.emptyTable)
        rw [get?_getD_emptyTable] at merged
        rw [Node.get?_put_same, Option.bind_some]
        refine merged.congr ⟨?_, fun mentioned => ⟨inner, rfl, mentioned⟩⟩
        rintro ⟨_, equal, mentioned⟩
        cases equal
        exact mentioned
      · have apart : other.key ≠ part.key := fun keys => same (SettingsPart.key_injective keys)
        rw [Node.get?_put_other apart]
        refine ⟨?_, fun _ => rfl⟩
        rintro ⟨_, equal, _⟩
        exact absurd (Prod.ext_iff.mp equal).1.symm apart

variable {entries : List (String × Datum)}

theorem HeldBy.mentioned (held : assignment.HeldBy entries) {literal : Literal}
    (given : assignment.literal? setting = some literal) :
    exists entry, entry ∈ entries ∧ MentionedBy setting entry := by
  unfold MentionedBy
  cases inside : setting.part? with
  | none => exact ⟨_, held.main setting literal given inside, rfl⟩
  | some part =>
      obtain ⟨inner, member, leaf⟩ := held.inside setting literal given part inside
      exact ⟨_, member, inner, rfl, _, leaf, rfl⟩

/-- The layer of a document that holds an assignment replaces the settings of
this assignment. -/
theorem HeldBy.replaced (held : assignment.HeldBy entries) (origin : Origin) (node : Node)
    (setting : Setting) :
    Replaced (assignment.literal? setting) (node.at? setting.path)
      ((node.withLayer (Node.ofEntries origin entries)).at? setting.path) := by
  rw [Node.withLayer_ofEntries]
  refine (Gives.foldl (fun node => node.at? setting.path) (MentionedBy setting) ?_ node).replaced
    fun literal given => held.mentioned given
  intro entry member merged
  obtain leaf | ⟨part, inner, rfl, leaves⟩ := held.sound entry member
  · exact gives_main leaf origin merged
  · exact gives_part leaves origin merged

theorem isTable_mergeEntries {target : Node} (table : target.IsTable)
    (entries : List (String × Node)) : (Node.mergeEntries target entries).IsTable := by
  induction entries generalizing target with
  | nil =>
      rw [Node.mergeEntries]
      exact table
  | cons entry entries inductionHypothesis =>
      rw [Node.mergeEntries]
      exact inductionHypothesis (Node.isTable_put _ _ _)

theorem HeldBy.sectioned (held : assignment.HeldBy entries) (origin : Origin) {node : Node}
    (sectioned : node.Sectioned) :
    (node.withLayer (Node.ofEntries origin entries)).Sectioned := by
  rw [Node.withLayer_ofEntries]
  refine List.foldlRecOn entries _ sectioned ?_
  intro merged sectioned entry member
  obtain ⟨given, literal, main, _, rfl⟩ | ⟨part, inner, rfl, leaves⟩ := held.sound entry member
  · have steps : PathStep.ofKey given.key = given.path.map .name := by
      rw [given.ofKey_key, Setting.path, main]
      rfl
    rw [steps]
    exact sectioned.placeAt_path given _
  · rw [placeAt_part]
    refine sectioned.put fun _ _ => isTable_mergeEntries ?_ _
    cases inside : merged.get? part.key with
    | none => exact ⟨_, _, rfl⟩
    | some inner => exact sectioned.parts part inner inside

end Assignment

/-! ## Variables of the environment -/

/-- Whether the value of a variable spells a literal.  A text in a variable has
no form of its own. -/
def Literal.SpelledBy (text : String) : Literal -> Prop
  | .whole number => Decimal.SpellsWhole text.toList number
  | .truth value => Lowercase.ofText text = toString value
  | .text _ => False

/-- The value of a variable is taken as the literal that it spells. -/
theorem Literal.SpelledBy.scalarOfText_eq {text : String} {literal : Literal}
    (spelled : literal.SpelledBy text) (fits : literal.Fits) :
    Environment.scalarOfText text = literal.scalar := by
  cases literal with
  | whole number =>
      obtain ⟨real, spelledReal⟩ := Decimal.SpellsWhole.real spelled
      have signed : FitsSigned number := by
        change Int64.minValue.toInt ≤ (number : Int) ∧ (number : Int) ≤ Int64.maxValue.toInt
        have bound : number < 2 ^ 63 := fits
        have least : Int64.minValue.toInt = -2 ^ 63 := rfl
        have greatest : Int64.maxValue.toInt = 2 ^ 63 - 1 := rfl
        omega
      rw [scalarOfText_of_no_truth (Lowercase.ofText_ne_truth_of_number spelledReal),
        fittingWhole_eq_some_iff.mpr ⟨spelled, signed⟩]
      rfl
  | truth value =>
      unfold Environment.scalarOfText
      dsimp only
      rw [show Lowercase.ofText text = toString value from spelled]
      cases value <;> rfl
  | text value => exact absurd spelled id

theorem Environment.pathOfName_congr {name other : String}
    (same : Lowercase.ofText name = Lowercase.ofText other) :
    pathOfName? name = pathOfName? other := by
  rw [pathOfName?, pathOfName?, same]

/-- Different settings have different variables, whatever the case. -/
theorem Setting.variableName_injective {setting other : Setting}
    (same : Lowercase.ofText setting.variableName = Lowercase.ofText other.variableName) :
    setting = other := by
  have dotted := Environment.pathOfName_congr same
  rw [setting.pathOfName_variableName, other.pathOfName_variableName] at dotted
  have steps := congrArg PathStep.ofKey (Option.some.inj dotted)
  rw [setting.ofKey_dotted, other.ofKey_dotted] at steps
  exact Setting.path_injective (List.map_injective_iff.mpr (fun _ _ => PathStep.name.inj) steps)

/-- What a variable does to the settings that earlier layers have left. -/
def Environment.placeVariable (merged : Node) (entry : String × String) : Node :=
  match pathOfName? entry.1 with
  | some path =>
      Node.placeAt (.scalar (scalarOfText entry.2) .environment) (PathStep.ofKey path) merged
  | none => merged

/-- The variables of the environment are put in their places one after the
other. -/
theorem Node.withLayer_environment (node : Node) (environment : List (String × String)) :
    node.withLayer (Environment.layer environment) =
      environment.foldl Environment.placeVariable node := by
  rw [Node.withLayer, Environment.layer, List.foldl_filterMap]
  congr 1
  funext merged entry
  unfold Environment.placeVariable
  dsimp only
  cases Environment.pathOfName? entry.1 <;> rfl

namespace Assignment

/-- Whether the environment holds an assignment: every variable that is a
setting spells the literal of this setting, and every setting of the assignment
has a variable. -/
structure ExportedIn (assignment : Assignment) (environment : List (String × String)) : Prop where
  sound : forall name text, (name, text) ∈ environment ->
    (Environment.pathOfName? name).isSome = true ->
      exists setting literal, assignment.literal? setting = some literal ∧
        Lowercase.ofText name = Lowercase.ofText setting.variableName ∧ literal.SpelledBy text
  complete : forall setting literal, assignment.literal? setting = some literal ->
    exists name text, (name, text) ∈ environment ∧
      Lowercase.ofText name = Lowercase.ofText setting.variableName ∧ literal.SpelledBy text

def NamedBy (setting : Setting) (entry : String × String) : Prop :=
  Lowercase.ofText entry.1 = Lowercase.ofText setting.variableName

variable {assignment : Assignment} {environment : List (String × String)}

theorem fits (assignment : Assignment) {setting : Setting} {literal : Literal}
    (given : assignment.literal? setting = some literal) : literal.Fits := by
  obtain ⟨value, stands⟩ := Option.isSome_iff_exists.mp (assignment.typed setting literal given)
  exact SettingKind.fits_of_value stands

/-- A variable that is the setting of an assignment is put in the place of this
setting. -/
theorem ExportedIn.placeVariable_eq (exported : assignment.ExportedIn environment)
    {name text path : String} (member : (name, text) ∈ environment)
    (found : Environment.pathOfName? name = some path) (merged : Node) :
    exists setting literal, assignment.literal? setting = some literal ∧
      Lowercase.ofText name = Lowercase.ofText setting.variableName ∧
      Environment.placeVariable merged (name, text) =
        Node.placeAt (.scalar literal.scalar .environment) (setting.path.map .name) merged := by
  obtain ⟨setting, literal, given, named, spelled⟩ :=
    exported.sound name text member (Option.isSome_iff_exists.mpr ⟨path, found⟩)
  have same : path = setting.dotted := by
    rw [Environment.pathOfName_congr named, setting.pathOfName_variableName] at found
    exact (Option.some.inj found).symm
  refine ⟨setting, literal, given, named, ?_⟩
  unfold Environment.placeVariable
  dsimp only
  rw [found]
  dsimp only
  rw [same, setting.ofKey_dotted, spelled.scalarOfText_eq (assignment.fits given)]

/-- The layer of an environment that holds an assignment replaces the settings
of this assignment. -/
theorem ExportedIn.replaced (exported : assignment.ExportedIn environment) (node : Node)
    (setting : Setting) :
    Replaced (assignment.literal? setting) (node.at? setting.path)
      ((node.withLayer (Environment.layer environment)).at? setting.path) := by
  rw [Node.withLayer_environment]
  refine (Gives.foldl (fun node => node.at? setting.path) (NamedBy setting) ?_ node).replaced ?_
  · rintro ⟨name, text⟩ member merged
    cases found : Environment.pathOfName? name with
    | none =>
        have kept : Environment.placeVariable merged (name, text) = merged := by
          unfold Environment.placeVariable
          dsimp only
          rw [found]
        rw [kept]
        refine ⟨fun named => ?_, fun _ => rfl⟩
        rw [Environment.pathOfName_congr named, setting.pathOfName_variableName] at found
        cases found
    | some path =>
        obtain ⟨owner, literal, given, named, placed⟩ :=
          exported.placeVariable_eq member found merged
        rw [placed]
        refine (gives_placeAt_path given .environment merged).congr ⟨?_, ?_⟩
        · intro namedToo
          exact Setting.variableName_injective (namedToo.symm.trans named)
        · rintro rfl
          exact named
  · intro literal given
    obtain ⟨name, text, member, named, _⟩ := exported.complete setting literal given
    exact ⟨(name, text), member, named⟩

theorem ExportedIn.sectioned (exported : assignment.ExportedIn environment) {node : Node}
    (sectioned : node.Sectioned) : (node.withLayer (Environment.layer environment)).Sectioned := by
  rw [Node.withLayer_environment]
  refine List.foldlRecOn environment _ sectioned ?_
  rintro merged sectioned ⟨name, text⟩ member
  cases found : Environment.pathOfName? name with
  | none =>
      unfold Environment.placeVariable
      dsimp only
      rw [found]
      exact sectioned
  | some path =>
      obtain ⟨owner, literal, _, _, placed⟩ := exported.placeVariable_eq member found merged
      rw [placed]
      exact sectioned.placeAt_path owner _

end Assignment

end TelemetryRelay
