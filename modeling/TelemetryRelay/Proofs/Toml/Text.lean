import TelemetryRelay.Proofs.Message.Identifier
import TelemetryRelay.Toml.Content

/-!
# Texts of a document are read back

Between double quotes every text can be written: a quote and a backslash behind
a backslash, and a control as an escape with its code point.  A document of one
line that gives such a text to a key of a section holds this text and nothing
else.
-/

namespace TelemetryRelay
namespace Toml

/-! ## Characters -/

def writtenChar (char : Char) : List Char :=
  if char = '"' ∨ char = '\\' then ['\\', char]
  else if isPlain char then [char]
  else ['\\', 'u', '0', '0', Nat.digitChar (char.toNat / 16), Nat.digitChar (char.toNat % 16)]

/-- The kind of text that stands between single double quotes. -/
def lineStyle : Style :=
  { quote := '"', escapes := true, multiLine := false }

/-- Put a character in front of a text that has been read. -/
def gainChar (char : Char) (read : List Char × List Char) : List Char × List Char :=
  (char :: read.1, read.2)

theorem read_silent {phase : Phase} {char : Char} (next : Phase)
    (move : lineStyle.move phase char = .goOn [] next) (rest : List Char) :
    lineStyle.read phase (char :: rest) = lineStyle.read next rest := by
  rw [Style.read, move]
  exact Option.map_id'

theorem read_gaining {phase next : Phase} {char gained : Char}
    (move : lineStyle.move phase char = .goOn [gained] next) (rest : List Char) :
    lineStyle.read phase (char :: rest) = (lineStyle.read next rest).map (gainChar gained) := by
  rw [Style.read, move]
  rfl

/-- A quote or a backslash behind a backslash stands for itself. -/
theorem read_escaped {char : Char} (special : char = '"' ∨ char = '\\') (rest : List Char) :
    lineStyle.read .plain ('\\' :: char :: rest) =
      (lineStyle.read .plain rest).map (gainChar char) := by
  rw [read_silent .escaped rfl]
  obtain rfl | rfl := special
  · exact read_gaining rfl rest
  · exact read_gaining rfl rest

/-- Any other character that is no control stands for itself without one. -/
theorem read_verbatim {char : Char} (special : ¬(char = '"' ∨ char = '\\'))
    (plain : isPlain char = true) (rest : List Char) :
    lineStyle.read .plain (char :: rest) = (lineStyle.read .plain rest).map (gainChar char) := by
  obtain ⟨noQuote, noBackslash⟩ := not_or.mp special
  refine read_gaining ?_ rest
  simp [Style.move, Style.plainMove, lineStyle, noQuote, noBackslash, plain]

theorem move_digit {digit left value : Nat} (small : digit < 16) (more : 1 < left) :
    lineStyle.move (.code left value) (Nat.digitChar digit) =
      .goOn [] (.code (left - 1) (value * 16 + digit)) := by
  simp only [Style.move, Uuid.hexValue_digitChar digit small, more, if_true]

theorem move_lastDigit {digit value : Nat} {char : Char} (small : digit < 16)
    (code : value * 16 + digit = char.toNat) :
    lineStyle.move (.code 1 value) (Nat.digitChar digit) = .goOn [char] .plain := by
  have valid : char.toNat.isValidChar := char.valid
  simp only [Style.move, Uuid.hexValue_digitChar digit small, code, Nat.lt_irrefl, if_false,
    charOfCode?, valid, if_true, Char.ofNat_toNat]

/-- The code point of a control has two hexadecimal digits. -/
theorem toNat_lt_of_not_isPlain {char : Char} (control : isPlain char = false) :
    char.toNat < 128 := by
  simp only [isPlain, Bool.or_eq_false_iff, Bool.and_eq_false_iff,
    decide_eq_false_iff_not] at control
  omega

theorem read_control {char : Char} (control : isPlain char = false) (rest : List Char) :
    lineStyle.read .plain ('\\' :: 'u' :: '0' :: '0' :: Nat.digitChar (char.toNat / 16) ::
        Nat.digitChar (char.toNat % 16) :: rest) =
      (lineStyle.read .plain rest).map (gainChar char) := by
  have bound := toNat_lt_of_not_isPlain control
  have code : char.toNat / 16 * 16 + char.toNat % 16 = char.toNat := Nat.div_add_mod' _ _
  -- The backslash, the letter and two zeros, then the two digits that count.
  rw [read_silent .escaped rfl, read_silent (.code 4 0) rfl,
    read_silent (.code 3 0) rfl, read_silent (.code 2 0) rfl,
    read_silent _ (move_digit (by omega) (by decide))]
  exact read_gaining (move_lastDigit (by omega) (by omega)) rest

theorem read_writtenChar (char : Char) (rest : List Char) :
    lineStyle.read .plain (writtenChar char ++ rest) =
      (lineStyle.read .plain rest).map (gainChar char) := by
  unfold writtenChar
  split
  · exact read_escaped ‹_› rest
  · split
    · exact read_verbatim ‹_› ‹_› rest
    · exact read_control (Bool.eq_false_iff.mpr ‹_›) rest

/-! ## Texts -/

def writtenText (text : String) : List Char :=
  '"' :: (text.toList.flatMap writtenChar ++ ['"'])

theorem read_written (chars rest : List Char) :
    lineStyle.read .plain (chars.flatMap writtenChar ++ '"' :: rest) = some (chars, rest) := by
  induction chars with
  | nil =>
      change (lineStyle.read .closed rest).map _ = _
      cases rest <;> rfl
  | cons char chars inductionHypothesis =>
      rw [List.flatMap_cons, List.append_assoc, read_writtenChar, inductionHypothesis]
      rfl

/-- No written character begins with a quote, so that a text never begins with
three quotes unless one more follows it. -/
theorem take_writtenText (text : String) {rest : List Char} (ends : rest.head? ≠ some '"') :
    (writtenText text ++ rest).take 3 ≠ ['"', '"', '"'] := by
  intro quotes
  unfold writtenText at quotes
  cases chars : text.toList with
  | nil =>
      rw [chars] at quotes
      cases rest with
      | nil => simp at quotes
      | cons char rest =>
          simp at quotes
          exact ends (congrArg some quotes)
  | cons char later =>
      rw [chars, List.flatMap_cons] at quotes
      unfold writtenChar at quotes
      split at quotes
      · simp at quotes
      · split at quotes
        · rename_i special _
          simp only [List.cons_append, List.nil_append, List.take_succ_cons,
            List.cons.injEq] at quotes
          exact special (.inl quotes.2.1)
        · simp at quotes

/-- A text is read back, if what follows it is no quote. -/
theorem anyText_writtenText (text : String) {rest : List Char} (ends : rest.head? ≠ some '"') :
    anyText '"' (writtenText text ++ rest) = some (text, rest) := by
  rw [anyText, if_neg (take_writtenText text ends)]
  have back := read_written text.toList rest
  unfold writtenText
  rw [List.cons_append, List.append_assoc, lineText, if_pos rfl]
  change (lineStyle.read .plain _).map _ = _
  rw [List.singleton_append, back]
  exact congrArg (fun read => some (read, rest)) (String.ofList_toList)

theorem value_writtenText (text : String) {rest : List Char} (ends : rest.head? ≠ some '"') :
    value nestingLimit (writtenText text ++ rest) = some (.text text, rest) := by
  have read := anyText_writtenText text ends
  change (anyText '"' (writtenText text ++ rest)).map _ = _
  rw [read]
  rfl

/-! ## A document of one line -/

/-- Keys that need no quotes. -/
def IsBare (key : String) : Prop :=
  key ≠ "" ∧ key.toList.all isWordChar = true

instance isBareDecidable (key : String) : Decidable (IsBare key) :=
  inferInstanceAs (Decidable (_ ∧ _))

def assignmentLine (part key text : String) : String :=
  String.ofList
    (part.toList ++ '.' :: (key.toList ++ ' ' :: '=' :: ' ' :: (writtenText text ++ ['\n'])))

/-- A bare key begins with a character of keys. -/
theorem IsBare.toList_eq {key : String} (bare : IsBare key) :
    exists first later, key.toList = first :: later ∧ isWordChar first = true ∧
      later.all isWordChar = true := by
  obtain ⟨nonempty, letters⟩ := bare
  cases chars : key.toList with
  | nil => exact absurd (String.toList_eq_nil_iff.mp chars) nonempty
  | cons first later =>
      rw [chars, List.all_cons, Bool.and_eq_true] at letters
      exact ⟨first, later, rfl, letters⟩

/-- A bare key is read up to the first character that cannot belong to it. -/
theorem simpleKey_bare {key : String} (bare : IsBare key) {next : Char}
    (ends : isWordChar next = false) (rest : List Char) :
    simpleKey (key.toList ++ next :: rest) = some (key, next :: rest) := by
  obtain ⟨first, later, chars, opens, letters⟩ := bare.toList_eq
  have taken : (key.toList ++ next :: rest).takeWhile isWordChar = key.toList := by
    rw [List.takeWhile_append_of_pos (List.all_eq_true.mp bare.2),
      List.takeWhile_cons_of_neg (Bool.eq_false_iff.mp ends), List.append_nil]
  have left : (key.toList ++ next :: rest).dropWhile isWordChar = next :: rest := by
    rw [List.dropWhile_append_of_pos (List.all_eq_true.mp bare.2),
      List.dropWhile_cons_of_neg (Bool.eq_false_iff.mp ends)]
  unfold simpleKey
  split
  · rename_i quoted
    rw [chars] at quoted
    cases quoted
    exact absurd opens (by decide)
  · rename_i quoted
    rw [chars] at quoted
    cases quoted
    exact absurd opens (by decide)
  · dsimp only
    rw [taken, left, String.ofList_toList, chars]
    rfl

theorem isLineSpace_of_isWordChar {char : Char} (opens : isWordChar char = true) :
    isLineSpace char = false := by
  rw [Bool.eq_false_iff]
  intro space
  rw [isLineSpace, Bool.or_eq_true, beq_iff_eq, beq_iff_eq] at space
  obtain rfl | rfl := space
  · exact absurd opens (by decide)
  · exact absurd opens (by decide)

/-- No blanks stand in front of what begins like a word. -/
theorem skipSpaces_word {first : Char} (opens : isWordChar first = true) (later : List Char) :
    skipSpaces (first :: later) = first :: later :=
  List.dropWhile_cons_of_neg (Bool.eq_false_iff.mp (isLineSpace_of_isWordChar opens))

theorem skipSpaces_bare {key : String} (bare : IsBare key) (rest : List Char) :
    skipSpaces (key.toList ++ rest) = key.toList ++ rest := by
  obtain ⟨first, later, chars, opens, letters⟩ := bare.toList_eq
  rw [chars, List.cons_append, skipSpaces_word opens]

theorem keysWithin_bare {key : String} (bare : IsBare key) {next : Char}
    (ends : isWordChar next = false) {rest later : List Char} {mark : Char}
    (behind : skipSpaces (next :: rest) = mark :: later) (noPoint : mark ≠ '.') (budget : Nat) :
    keysWithin (budget + 1) (key.toList ++ next :: rest) = some (([], key), mark :: later) := by
  rw [keysWithin, skipSpaces_bare bare, simpleKey_bare bare ends]
  dsimp only
  rw [behind]
  split
  · rename_i equal
    cases equal
    exact absurd rfl noPoint
  · rfl

theorem keys_bare {part key : String} (partBare : IsBare part) (keyBare : IsBare key)
    (rest : List Char) :
    keys (part.toList ++ '.' :: (key.toList ++ ' ' :: '=' :: rest)) =
      some (([part], key), '=' :: rest) := by
  rw [keys, nestingLimit, keysWithin, skipSpaces_bare partBare,
    simpleKey_bare partBare (by decide)]
  change (keysWithin _ _).map _ = _
  rw [keysWithin_bare keyBare (by decide) rfl (by decide)]
  rfl

theorem IsBare.ne_dateTimeKey {key : String} (bare : IsBare key) : key ≠ dateTimeKey := by
  rintro rfl
  exact absurd bare (by decide)

theorem assignment_line {part key : String} (partBare : IsBare part) (keyBare : IsBare key)
    (text : String) {rest : List Char} (ends : rest.head? ≠ some '"') :
    assignment (part.toList ++ '.' :: (key.toList ++ ' ' :: '=' :: ' ' ::
        (writtenText text ++ rest))) =
      some ((([part], key), .text text), rest) := by
  rw [assignment, keys_bare partBare keyBare]
  change (value nestingLimit (writtenText text ++ rest)).bind _ = _
  rw [value_writtenText text ends]
  rfl

theorem dropMark_cons {first : Char} (opens : isWordChar first = true) (later : List Char) :
    dropMark (first :: later) = first :: later := by
  unfold dropMark
  split
  · rename_i equal
    cases equal
    exact absurd opens (by decide)
  · rfl

/-- A line that begins with a character of keys is an assignment. -/
theorem lines_assignment {budget : Nat} {current : List String} {entries : Entries} {first : Char}
    {later : List Char} (opens : isWordChar first = true) :
    lines (budget + 1) current entries (first :: later) = (do
      let (((path, key), read), afterValue) <- assignment (first :: later)
      let behind <- endLine afterValue
      lines budget current (<- assignWithin current path key read entries) behind) := by
  have apart (other : Char) (foreign : isWordChar other = false) : first ≠ other := by
    rintro rfl
    exact absurd (opens.symm.trans foreign) (by decide)
  rw [lines, skipSpaces_word opens]
  split
  · rename_i equal
    cases equal
  · rename_i equal
    injection equal with bracket
    exact absurd bracket (apart '[' (by decide))
  · rename_i equal
    injection equal with bracket
    exact absurd bracket (apart '[' (by decide))
  · rename_i equal
    cases equal
    simp [apart '#' (by decide), apart '\n' (by decide), apart '\r' (by decide)]

/-- A document of one line that gives a text to a key of a section. -/
theorem contentOf_assignmentLine {part key : String} (partBare : IsBare part)
    (keyBare : IsBare key) (text : String) :
    contentOf? (assignmentLine part key text) =
      some [(part, .table [(key, .text text)])] := by
  have ends : ['\n'].head? ≠ some '"' := by decide
  have given := assignment_line partBare keyBare text ends
  obtain ⟨first, later, chars, opens, letters⟩ := partBare.toList_eq
  have entries : entriesOf (assignmentLine part key text) =
      some [(part, .table .dotted [(key, .text text)])] := by
    rw [entriesOf, assignmentLine, String.toList_ofList]
    rw [chars, List.cons_append] at given ⊢
    rw [dropMark_cons opens, lines_assignment opens, given]
    rfl
  rw [contentOf?, entries]
  change (tableContent? [(part, .table .dotted [(key, .text text)])]).bind _ = _
  rw [tableContent?, if_neg partBare.ne_dateTimeKey, Value.content?, tableContent?,
    if_neg keyBare.ne_dateTimeKey]
  rfl

end Toml
end TelemetryRelay
