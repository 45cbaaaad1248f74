import Mathlib.Data.List.Nodup
import TelemetryRelay.Proofs.Toml.Literal

/-!
# Documents with sections are read back

A document may give literals to keys line by line, at first outside of every
section and then section by section behind their headers.  If the keys need no
quotes and each is given once, the document holds these literals and nothing
else.
-/

namespace TelemetryRelay
namespace Toml

/-! ## Lines -/

def leafLine (leaf : String × Literal) : List Char :=
  leaf.1.toList ++ ' ' :: '=' :: ' ' :: (writtenLiteral leaf.2 ++ ['\n'])

def headerLine (part : String) : List Char :=
  '[' :: (part.toList ++ [']', '\n'])

/-- Literals for keys outside of the sections, and then for keys of each
section. -/
structure Outline where
  main : List (String × Literal)
  parts : List (String × List (String × Literal))

def partLines (part : String × List (String × Literal)) : List Char :=
  headerLine part.1 ++ part.2.flatMap leafLine

def Outline.written (outline : Outline) : List Char :=
  outline.main.flatMap leafLine ++ outline.parts.flatMap partLines

/-- What a literal is in the content of a document, under its key. -/
def leafDatum (leaf : String × Literal) : String × Datum :=
  (leaf.1, leaf.2.datum)

def Outline.content (outline : Outline) : List (String × Datum) :=
  outline.main.map leafDatum ++
    outline.parts.map fun part => (part.1, .table (part.2.map leafDatum))

/-- Leaves that can be written: their keys need no quotes and differ, and their
numbers fit. -/
structure Writable (leaves : List (String × Literal)) : Prop where
  bare : forall leaf, leaf ∈ leaves -> IsBare leaf.1
  fits : forall leaf, leaf ∈ leaves -> leaf.2.Fits
  distinct : (leaves.map Prod.fst).Nodup

/-- An outline that can be written. -/
structure Outline.Sound (outline : Outline) : Prop where
  main : Writable outline.main
  bare : forall part, part ∈ outline.parts -> IsBare part.1
  parts : forall part, part ∈ outline.parts -> Writable part.2
  distinct : (outline.main.map Prod.fst ++ outline.parts.map Prod.fst).Nodup

/-! ## Adding to tables -/

theorem lookup_eq_none {entries : Entries} {key : String}
    (fresh : key ∉ entries.map Prod.fst) : entries.lookup key = none := by
  rw [List.lookup_eq_none_iff]
  rintro ⟨other, value⟩ member
  refine bne_iff_ne.mpr ?_
  rintro rfl
  exact fresh (List.mem_map_of_mem member)

theorem lookup_last {before : Entries} {key : String} (fresh : key ∉ before.map Prod.fst)
    (value : Value) : (before ++ [(key, value)]).lookup key = some value := by
  rw [List.lookup_append, lookup_eq_none fresh, List.lookup_cons_self]
  rfl

theorem put_last {before : Entries} {key : String} (fresh : key ∉ before.map Prod.fst)
    (value held : Value) :
    Entries.put key value (before ++ [(key, held)]) = before ++ [(key, value)] := by
  rw [Entries.put]
  induction before with
  | nil => exact if_pos rfl
  | cons entry before inductionHypothesis =>
      rw [List.map_cons, List.mem_cons, not_or] at fresh
      rw [List.cons_append, putEntry, if_neg (Ne.symm fresh.1), inductionHypothesis fresh.2]
      rfl

/-- A way to keep entries from which a new key can be assigned to. -/
def Adds (current : List String) (store : Entries -> Entries) : Prop :=
  forall inner key value, key ∉ inner.map Prod.fst ->
    assignWithin current [] key value (store inner) = some (store (inner ++ [(key, value)]))

/-- Outside of the sections an assignment adds to the document itself. -/
theorem adds_main : Adds [] id := by
  intro inner key value fresh
  change addValue key value inner = _
  rw [addValue, lookup_eq_none fresh]
  rfl

/-- Behind a header an assignment adds to the section. -/
theorem adds_part {before : Entries} {part : String} (fresh : part ∉ before.map Prod.fst) :
    Adds [part] fun inner => before ++ [(part, .table .header inner)] := by
  intro inner key value keyFresh
  have added : assign [] key value inner = some (inner ++ [(key, value)]) := by
    change addValue key value inner = _
    rw [addValue, lookup_eq_none keyFresh]
  rw [assignWithin, within, lookup_last fresh]
  dsimp only
  rw [if_neg (by decide), within, added, Option.map_some, put_last fresh]

/-- A header with a new name introduces an empty section. -/
theorem openTable_fresh {entries : Entries} {part : String}
    (fresh : part ∉ entries.map Prod.fst) :
    openTable [] part entries = some (entries ++ [(part, .table .header [])]) := by
  rw [openTable, within, lookup_eq_none fresh]

/-! ## Reading lines -/

/-- Whether lines are read into a result, with budget for every character. -/
def Reads (current : List String) (entries : Entries) (chars : List Char) (result : Entries) :
    Prop :=
  forall budget, chars.length < budget -> lines budget current entries chars = some result

theorem Reads.nil (current : List String) (entries : Entries) :
    Reads current entries [] entries := by
  intro budget enough
  obtain ⟨budget, rfl⟩ := Nat.exists_eq_succ_of_ne_zero (Nat.ne_zero_of_lt enough)
  rfl

theorem keys_leaf {key : String} (bare : IsBare key) (rest : List Char) :
    keys (key.toList ++ ' ' :: '=' :: rest) = some (([], key), '=' :: rest) :=
  keysWithin_bare bare rfl rfl (by decide) 78

theorem keys_header {part : String} (bare : IsBare part) (rest : List Char) :
    keys (part.toList ++ ']' :: rest) = some (([], part), ']' :: rest) :=
  keysWithin_bare bare rfl rfl (by decide) 78

theorem leafLine_append (leaf : String × Literal) (rest : List Char) :
    leafLine leaf ++ rest =
      leaf.1.toList ++ ' ' :: '=' :: ' ' :: (writtenLiteral leaf.2 ++ '\n' :: rest) := by
  simp only [leafLine, List.append_assoc, List.cons_append, List.nil_append]

theorem headerLine_append (part : String) (rest : List Char) :
    headerLine part ++ rest = '[' :: (part.toList ++ ']' :: '\n' :: rest) := by
  simp only [headerLine, List.append_assoc, List.cons_append, List.nil_append]

theorem skipSpaces_writtenLiteral (literal : Literal) (rest : List Char) :
    skipSpaces (' ' :: (writtenLiteral literal ++ rest)) = writtenLiteral literal ++ rest := by
  cases literal with
  | whole number =>
      have decimal := all_isDigit_toDigits number
      rw [writtenLiteral]
      obtain ⟨first, later, digits⟩ := List.exists_cons_of_ne_nil (Nat.toDigits_ne_nil (b := 10))
      rw [digits, List.all_cons, Bool.and_eq_true] at decimal
      have opens : isWordChar first = true := by
        rw [isWordChar, Char.isAlphanum, decimal.1, Bool.or_true]
        rfl
      rw [digits, List.cons_append, skipSpaces, List.dropWhile_cons_of_pos (by decide)]
      exact skipSpaces_word opens _
  | truth value => cases value <;> rfl
  | text value => rfl

theorem assignment_leafLine {leaf : String × Literal} (bare : IsBare leaf.1)
    (fits : leaf.2.Fits) (rest : List Char) :
    assignment (leafLine leaf ++ rest) =
      some ((([], leaf.1), literalValue leaf.2), '\n' :: rest) := by
  have read := value_writtenLiteral fits rest
  rw [leafLine_append, assignment, keys_leaf bare]
  change (value nestingLimit (skipSpaces (' ' :: (writtenLiteral leaf.2 ++ '\n' :: rest)))).bind _
    = _
  rw [skipSpaces_writtenLiteral, read]
  rfl

theorem Reads.leafLine {current : List String} {entries changed result : Entries}
    {leaf : String × Literal} {rest : List Char} (bare : IsBare leaf.1) (fits : leaf.2.Fits)
    (added : assignWithin current [] leaf.1 (literalValue leaf.2) entries = some changed)
    (later : Reads current changed rest result) :
    Reads current entries (leafLine leaf ++ rest) result := by
  intro budget enough
  obtain ⟨first, behind, chars, opens, letters⟩ := bare.toList_eq
  have given := assignment_leafLine bare fits rest
  rw [leafLine_append, List.length_append] at enough
  obtain ⟨budget, rfl⟩ := Nat.exists_eq_succ_of_ne_zero (Nat.ne_zero_of_lt enough)
  have shorter : rest.length < budget := by
    simp only [List.length_cons, List.length_append] at enough
    omega
  rw [leafLine_append, chars, List.cons_append] at given ⊢
  rw [lines_assignment opens, given]
  change (assignWithin current [] leaf.1 (literalValue leaf.2) entries).bind _ = _
  rw [added]
  exact later budget shorter

/-- A header opens a section. -/
theorem Reads.headerLine {current : List String} {entries changed result : Entries}
    {part : String} {rest : List Char} (bare : IsBare part)
    (opened : openTable [] part entries = some changed)
    (later : Reads [part] changed rest result) :
    Reads current entries (headerLine part ++ rest) result := by
  intro budget enough
  obtain ⟨first, behind, chars, opens, letters⟩ := bare.toList_eq
  have name := keys_header bare ('\n' :: rest)
  rw [headerLine_append] at enough ⊢
  obtain ⟨budget, rfl⟩ := Nat.exists_eq_succ_of_ne_zero (Nat.ne_zero_of_lt enough)
  have shorter : rest.length < budget := by
    simp only [List.length_cons, List.length_append] at enough
    omega
  rw [chars, List.cons_append] at name ⊢
  have single : first ≠ '[' := by
    rintro rfl
    exact absurd opens (by decide)
  have noBlank : skipSpaces ('[' :: first :: (behind ++ ']' :: '\n' :: rest)) =
      '[' :: first :: (behind ++ ']' :: '\n' :: rest) := rfl
  rw [lines, noBlank]
  split
  · rename_i equal
    cases equal
  · rename_i equal
    injection equal with _ equal
    injection equal with bracket
    exact absurd bracket single
  · rename_i equal
    cases equal
    rw [name]
    change (openTable [] part entries).bind _ = _
    rw [opened]
    exact later budget shorter
  · rename_i noBracket equal
    exact absurd (List.cons.inj equal).1.symm noBracket

/-! ## Reading a whole document -/

def leafEntry (leaf : String × Literal) : String × Value :=
  (leaf.1, literalValue leaf.2)

def partEntry (part : String × List (String × Literal)) : String × Value :=
  (part.1, .table .header (part.2.map leafEntry))

theorem fst_leafEntry (leaves : List (String × Literal)) :
    (leaves.map leafEntry).map Prod.fst = leaves.map Prod.fst :=
  List.map_map

theorem fst_partEntry (parts : List (String × List (String × Literal))) :
    (parts.map partEntry).map Prod.fst = parts.map Prod.fst :=
  List.map_map

/-- Lines that give literals to new keys add these. -/
theorem Reads.leaves {current : List String} {store : Entries -> Entries}
    (adds : Adds current store) {leaves : List (String × Literal)} {inner result : Entries}
    {rest : List Char} (bare : forall leaf, leaf ∈ leaves -> IsBare leaf.1)
    (fits : forall leaf, leaf ∈ leaves -> leaf.2.Fits)
    (distinct : (inner.map Prod.fst ++ leaves.map Prod.fst).Nodup)
    (later : Reads current (store (inner ++ leaves.map leafEntry)) rest result) :
    Reads current (store inner) (leaves.flatMap Toml.leafLine ++ rest) result := by
  induction leaves generalizing inner with
  | nil =>
      rw [List.map_nil, List.append_nil] at later
      exact later
  | cons leaf leaves inductionHypothesis =>
      rw [List.flatMap_cons, List.append_assoc]
      have fresh : leaf.1 ∉ inner.map Prod.fst := by
        intro held
        exact (List.nodup_append.mp distinct).2.2 _ held _ List.mem_cons_self rfl
      refine Reads.leafLine (bare leaf List.mem_cons_self) (fits leaf List.mem_cons_self)
        (adds inner leaf.1 (literalValue leaf.2) fresh) ?_
      refine inductionHypothesis (fun other member => bare other (List.mem_cons_of_mem _ member))
        (fun other member => fits other (List.mem_cons_of_mem _ member)) ?_ ?_
      · rw [List.map_append, List.append_assoc]
        exact distinct
      · rw [List.append_assoc]
        exact later

/-- Sections with new names are added one after the other. -/
theorem Reads.parts {current : List String} {entries : Entries}
    {parts : List (String × List (String × Literal))}
    (bare : forall part, part ∈ parts -> IsBare part.1)
    (writable : forall part, part ∈ parts -> Writable part.2)
    (distinct : (entries.map Prod.fst ++ parts.map Prod.fst).Nodup) :
    Reads current entries (parts.flatMap partLines) (entries ++ parts.map partEntry) := by
  induction parts generalizing current entries with
  | nil =>
      rw [List.map_nil, List.append_nil]
      exact Reads.nil current entries
  | cons part parts inductionHypothesis =>
      have fresh : part.1 ∉ entries.map Prod.fst := by
        intro held
        exact (List.nodup_append.mp distinct).2.2 _ held _ List.mem_cons_self rfl
      have held := writable part List.mem_cons_self
      have remaining : Reads [part.1] (entries ++ [partEntry part]) (parts.flatMap partLines)
          (entries ++ [partEntry part] ++ parts.map partEntry) := by
        refine inductionHypothesis
          (fun other member => bare other (List.mem_cons_of_mem _ member))
          (fun other member => writable other (List.mem_cons_of_mem _ member)) ?_
        rw [List.map_append, List.append_assoc]
        exact distinct
      rw [List.flatMap_cons, partLines, List.append_assoc, List.map_cons, List.append_cons]
      exact Reads.headerLine (bare part List.mem_cons_self) (openTable_fresh fresh)
        (Reads.leaves (adds_part fresh) held.bare held.fits held.distinct remaining)

/-! ## What a document holds -/

theorem entriesContent_map {α : Type} {items : List α} {entry : α -> String × Value}
    {datum : α -> Datum}
    (content : forall item, item ∈ items -> (entry item).2.content? = some (datum item)) :
    entriesContent? (items.map entry) =
      some (items.map fun item => ((entry item).1, datum item)) := by
  induction items with
  | nil => rfl
  | cons item items inductionHypothesis =>
      have later := inductionHypothesis fun other member =>
        content other (List.mem_cons_of_mem item member)
      rw [List.map_cons, entriesContent?, content item List.mem_cons_self, later]
      rfl

theorem entriesContent_cons {key : String} {value : Value} {entries : Entries}
    {data : List (String × Datum)} :
    entriesContent? ((key, value) :: entries) = some data ↔
      exists first later, value.content? = some first ∧ entriesContent? entries = some later ∧
        data = (key, first) :: later := by
  rw [entriesContent?]
  simp only [Option.bind_eq_bind, Option.bind_eq_some_iff, Option.pure_def, Option.some.injEq]
  constructor
  · rintro ⟨first, content, later, held, parts⟩
    exact ⟨first, later, content, held, parts.symm⟩
  · rintro ⟨first, later, content, held, parts⟩
    exact ⟨first, content, later, held, parts.symm⟩

theorem entriesContent_append {front back : Entries} {first second : List (String × Datum)}
    (held : entriesContent? front = some first) (behind : entriesContent? back = some second) :
    entriesContent? (front ++ back) = some (first ++ second) := by
  induction front generalizing first with
  | nil =>
      cases held
      exact behind
  | cons entry front inductionHypothesis =>
      obtain ⟨datum, later, content, rest, rfl⟩ := entriesContent_cons.mp held
      exact entriesContent_cons.mpr ⟨datum, _, content, inductionHypothesis rest, rfl⟩

/-- A table without the reserved key is its entries. -/
theorem tableContent_bare {entries : Entries} {data : List (String × Datum)}
    (bare : forall key, key ∈ entries.map Prod.fst -> IsBare key)
    (held : entriesContent? entries = some data) : tableContent? entries = some (.table data) := by
  cases entries with
  | nil =>
      cases held
      rfl
  | cons entry entries =>
      obtain ⟨datum, later, content, rest, rfl⟩ := entriesContent_cons.mp held
      rw [tableContent?, if_neg (bare entry.1 List.mem_cons_self).ne_dateTimeKey, content, rest]
      rfl

theorem content_literalValue (literal : Literal) :
    (literalValue literal).content? = some literal.datum := by
  cases literal <;> rw [literalValue, Value.content?] <;> rfl

theorem entriesContent_leaves (leaves : List (String × Literal)) :
    entriesContent? (leaves.map leafEntry) = some (leaves.map leafDatum) :=
  entriesContent_map fun leaf _ => content_literalValue leaf.2

theorem content_partEntry {part : String × List (String × Literal)}
    (bare : forall leaf, leaf ∈ part.2 -> IsBare leaf.1) :
    (partEntry part).2.content? = some (.table (part.2.map leafDatum)) := by
  rw [partEntry, Value.content?]
  refine tableContent_bare ?_ (entriesContent_leaves part.2)
  intro key member
  rw [fst_leafEntry, List.mem_map] at member
  obtain ⟨leaf, held, rfl⟩ := member
  exact bare leaf held

namespace Outline

variable {outline : Outline}

theorem dropMark_written (sound : outline.Sound) : dropMark outline.written = outline.written := by
  unfold Outline.written
  cases leaves : outline.main with
  | nil =>
      cases outline.parts with
      | nil => rfl
      | cons part parts => rfl
  | cons leaf rest =>
      have bare := sound.main.bare leaf (leaves ▸ List.mem_cons_self)
      obtain ⟨first, behind, chars, opens, letters⟩ := bare.toList_eq
      rw [List.flatMap_cons, leafLine, chars]
      exact dropMark_cons opens _

theorem entriesOf_written (sound : outline.Sound) :
    entriesOf (String.ofList outline.written) =
      some (outline.main.map leafEntry ++ outline.parts.map partEntry) := by
  have distinct : ((outline.main.map leafEntry).map Prod.fst ++
      outline.parts.map Prod.fst).Nodup := by
    rw [fst_leafEntry]
    exact sound.distinct
  have reads : Reads [] [] outline.written
      (outline.main.map leafEntry ++ outline.parts.map partEntry) :=
    Reads.leaves adds_main sound.main.bare sound.main.fits sound.main.distinct
      (Reads.parts sound.bare sound.parts distinct)
  rw [entriesOf, String.toList_ofList, dropMark_written sound]
  exact reads _ (Nat.lt_succ_self _)

theorem contentOf_written (sound : outline.Sound) :
    contentOf? (String.ofList outline.written) = some outline.content := by
  have parts : entriesContent? (outline.parts.map partEntry) =
      some (outline.parts.map fun part => (part.1, .table (part.2.map leafDatum))) :=
    entriesContent_map fun part member => content_partEntry (sound.parts part member).bare
  have bare : forall key,
      key ∈ (outline.main.map leafEntry ++ outline.parts.map partEntry).map Prod.fst ->
        IsBare key := by
    intro key member
    rw [List.map_append, fst_leafEntry, fst_partEntry, List.mem_append, List.mem_map,
      List.mem_map] at member
    obtain ⟨leaf, held, rfl⟩ | ⟨part, held, rfl⟩ := member
    · exact sound.main.bare leaf held
    · exact sound.bare part held
  rw [contentOf?, entriesOf_written sound]
  change (tableContent? (outline.main.map leafEntry ++ outline.parts.map partEntry)).bind _ = _
  rw [tableContent_bare bare (entriesContent_append (entriesContent_leaves outline.main) parts)]
  rfl

end Outline

end Toml
end TelemetryRelay
