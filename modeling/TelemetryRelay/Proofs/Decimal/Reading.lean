import Mathlib.Data.String.Basic
import TelemetryRelay.Decimal.Reading
import TelemetryRelay.Proofs.Decimal.Nearest
import TelemetryRelay.Proofs.Json.Number
import TelemetryRelay.Proofs.Text.Digit

/-!
# The numbers that a text spells

The forms of whole numbers and of floating-point numbers are said by the parts
of a text: a sign or none, digits, a point, an exponent, or a word for infinity
or for no number.  The readers accept exactly these forms.
-/

namespace TelemetryRelay
namespace Decimal

/-! ## Forms -/

/-- A sign, if there is one, and whether it is a minus sign. -/
inductive IsSign : List Char -> Bool -> Prop where
  | absent : IsSign [] false
  | plus : IsSign ['+'] false
  | minus : IsSign ['-'] true

/-- At least one digit, with a sign in front or not. -/
inductive SpellsWhole : List Char -> Int -> Prop where
  | digits {sign digits : List Char} {negative : Bool} (signed : IsSign sign negative)
      (nonempty : digits ≠ []) (decimal : digits.all Char.isDigit = true) :
      SpellsWhole (sign ++ digits)
        (if negative then -(Nat.ofDigitChars 10 digits 0 : Int) else Nat.ofDigitChars 10 digits 0)

/-- A power of ten behind an `e`, or nothing. -/
inductive SpellsExponent : List Char -> Int -> Prop where
  | absent : SpellsExponent [] 0
  | power {mark : Char} {chars : List Char} {exponent : Int} (marked : mark = 'e' ∨ mark = 'E')
      (spelled : SpellsWhole chars exponent) : SpellsExponent (mark :: chars) exponent

/-- A floating-point number without a sign: a word, or a decimal fraction with a
digit on one side of the point at least, which is rounded to the number. -/
inductive SpellsMagnitude : List Char -> Float -> Prop where
  | infinite {word : List Char}
      (spelled : word.map Char.toLower = "inf".toList ∨
        word.map Char.toLower = "infinity".toList) :
      SpellsMagnitude word (1.0 / 0.0)
  | undefined {word : List Char} (spelled : word.map Char.toLower = "nan".toList) :
      SpellsMagnitude word (0.0 / 0.0)
  | decimal {whole point fraction behind : List Char} {exponent : Int} {size : Float}
      (wholeDecimal : whole.all Char.isDigit = true)
      (fractionDecimal : fraction.all Char.isDigit = true)
      (nonempty : whole ++ fraction ≠ [])
      (separated : point = ['.'] ∨ point = [] ∧ fraction = [])
      (powered : SpellsExponent behind exponent)
      (rounded : Rounded
        (Nat.ofDigitChars 10 (whole ++ fraction) 0 * 10 ^ (exponent - fraction.length)) size) :
      SpellsMagnitude (whole ++ (point ++ (fraction ++ behind))) size

/-- A floating-point number, with a sign in front or not. -/
inductive SpellsReal : List Char -> Float -> Prop where
  | magnitude {sign chars : List Char} {negative : Bool} {size : Float}
      (signed : IsSign sign negative) (spelled : SpellsMagnitude chars size) :
      SpellsReal (sign ++ chars) (if negative then -size else size)

/-! ## Digits and signs -/

theorem signPart_of_isSign {sign rest : List Char} {negative : Bool}
    (signed : IsSign sign negative)
    (unsigned : rest.head? ≠ some '+' ∧ rest.head? ≠ some '-') :
    signPart (sign ++ rest) = (negative, rest) := by
  cases signed with
  | plus => rfl
  | minus => rfl
  | absent =>
      rw [List.nil_append]
      unfold signPart
      split
      · exact absurd rfl unsigned.1
      · exact absurd rfl unsigned.2
      · rfl

theorem isSign_signPart (chars : List Char) :
    exists sign, IsSign sign (signPart chars).1 ∧ chars = sign ++ (signPart chars).2 := by
  unfold signPart
  split
  · exact ⟨_, .plus, rfl⟩
  · exact ⟨_, .minus, rfl⟩
  · exact ⟨_, .absent, rfl⟩

/-! ## Whole numbers -/

theorem signedDigits_eq_some_iff {chars : List Char} {value : Int} :
    (if (signPart chars).2.isEmpty || !(signPart chars).2.all Char.isDigit then none
      else some (if (signPart chars).1 then -(valueInBase 10 (signPart chars).2 : Int)
        else valueInBase 10 (signPart chars).2)) = some value ↔
      SpellsWhole chars value := by
  constructor
  · intro read
    obtain ⟨sign, signed, parts⟩ := isSign_signPart chars
    split at read
    · cases read
    · rename_i accepted
      rw [Bool.or_eq_true, not_or, Bool.not_eq_true', List.isEmpty_iff] at accepted
      obtain ⟨nonempty, decimal⟩ := accepted
      rw [Bool.not_eq_false] at decimal
      cases read
      rw [valueInBase_ten decimal]
      conv => arg 1; rw [parts]
      exact .digits signed nonempty decimal
  · rintro ⟨signed, nonempty, decimal⟩
    rename_i sign digits negative
    have unsigned : digits.head? ≠ some '+' ∧ digits.head? ≠ some '-' := by
      cases digits with
      | nil => exact absurd rfl nonempty
      | cons digit digits =>
          rw [List.all_cons, Bool.and_eq_true] at decimal
          constructor
          · rintro equal
            cases equal
            exact absurd decimal.1 (by decide)
          · rintro equal
            cases equal
            exact absurd decimal.1 (by decide)
    rw [signPart_of_isSign signed unsigned]
    dsimp only
    rw [decimal, valueInBase_ten decimal, List.isEmpty_eq_false_iff.mpr nonempty]
    rfl

/-- A text is read as a whole number exactly if it spells this number. -/
theorem integerOfText_eq_some_iff {text : String} {value : Int} :
    integerOfText? text = some value ↔ SpellsWhole text.toList value :=
  signedDigits_eq_some_iff

/-! ## Floating-point numbers -/

theorem exponentOfChars_eq_some_iff {chars : List Char} {exponent : Int} :
    exponentOfChars? chars = some exponent ↔ SpellsExponent chars exponent := by
  cases chars with
  | nil =>
      constructor
      · intro read
        cases read
        exact .absent
      · rintro ⟨⟩
        rfl
  | cons mark chars =>
      rw [exponentOfChars?]
      constructor
      · intro read
        split at read
        · exact .power ‹_› (signedDigits_eq_some_iff.mp read)
        · cases read
      · rintro (_ | ⟨marked, spelled⟩)
        rw [if_pos marked]
        exact signedDigits_eq_some_iff.mpr spelled

theorem span_digits {digits rest : List Char} (decimal : digits.all Char.isDigit = true)
    (ends : forall char, rest.head? = some char -> char.isDigit = false) :
    (digits ++ rest).takeWhile Char.isDigit = digits ∧
      (digits ++ rest).dropWhile Char.isDigit = rest := by
  rw [List.takeWhile_append_of_pos (List.all_eq_true.mp decimal),
    List.dropWhile_append_of_pos (List.all_eq_true.mp decimal)]
  cases rest with
  | nil => exact ⟨List.append_nil digits, rfl⟩
  | cons char rest =>
      have noDigit := Bool.eq_false_iff.mp (ends char rfl)
      rw [List.takeWhile_cons_of_neg noDigit, List.dropWhile_cons_of_neg noDigit]
      exact ⟨List.append_nil digits, rfl⟩

theorem SpellsExponent.head_eq {chars : List Char} {exponent : Int}
    (spelled : SpellsExponent chars exponent) {char : Char} (head : chars.head? = some char) :
    char = 'e' ∨ char = 'E' := by
  cases spelled with
  | absent => cases head
  | power marked _ =>
      cases head
      exact marked

/-- The digits behind a point, if there is one, and what follows them. -/
def fractionPart : List Char -> List Char × List Char
  | '.' :: behind => (behind.takeWhile Char.isDigit, behind.dropWhile Char.isDigit)
  | behind => ([], behind)

/-- Words for infinity and for no number, in any case. -/
def IsWord (chars : List Char) : Prop :=
  chars.map Char.toLower = "inf".toList ∨ chars.map Char.toLower = "infinity".toList ∨
    chars.map Char.toLower = "nan".toList

/-- A text that is no word is read as a decimal fraction. -/
theorem magnitudeOfChars_eq {chars : List Char} (noWord : ¬IsWord chars) :
    magnitudeOfChars? chars =
      if (chars.takeWhile Char.isDigit).isEmpty &&
          (fractionPart (chars.dropWhile Char.isDigit)).1.isEmpty then none
      else
        (exponentOfChars? (fractionPart (chars.dropWhile Char.isDigit)).2).map fun exponent =>
          nearest (valueInBase 10 (chars.takeWhile Char.isDigit ++
              (fractionPart (chars.dropWhile Char.isDigit)).1))
            (exponent - (fractionPart (chars.dropWhile Char.isDigit)).1.length) := by
  obtain ⟨noInf, noInfinity, noNan⟩ : chars.map Char.toLower ≠ "inf".toList ∧
      chars.map Char.toLower ≠ "infinity".toList ∧ chars.map Char.toLower ≠ "nan".toList := by
    rwa [IsWord, not_or, not_or] at noWord
  unfold magnitudeOfChars?
  simp only [String.ofList_eq, noInf, noInfinity, noNan, or_self, if_false]
  rfl

theorem exists_fractionPart (chars : List Char) :
    exists point, chars = point ++ ((fractionPart chars).1 ++ (fractionPart chars).2) ∧
      (fractionPart chars).1.all Char.isDigit = true ∧
      (point = ['.'] ∨ point = [] ∧ (fractionPart chars).1 = []) := by
  unfold fractionPart
  split
  · rename_i behind
    exact ⟨['.'], by rw [List.takeWhile_append_dropWhile]; rfl, List.all_takeWhile, .inl rfl⟩
  · exact ⟨[], rfl, rfl, .inr ⟨rfl, rfl⟩⟩

theorem fractionPart_append {point fraction behind : List Char} {exponent : Int}
    (decimal : fraction.all Char.isDigit = true)
    (separated : point = ['.'] ∨ point = [] ∧ fraction = [])
    (powered : SpellsExponent behind exponent) :
    fractionPart (point ++ (fraction ++ behind)) = (fraction, behind) := by
  obtain rfl | ⟨rfl, rfl⟩ := separated
  · have ends : forall char, behind.head? = some char -> char.isDigit = false := by
      intro char head
      obtain rfl | rfl := powered.head_eq head <;> rfl
    obtain ⟨taken, left⟩ := span_digits decimal ends
    change ((fraction ++ behind).takeWhile _, (fraction ++ behind).dropWhile _) = _
    rw [taken, left]
  · cases powered with
    | absent => rfl
    | power marked _ =>
        obtain rfl | rfl := marked
        · rfl
        · rfl

/-- A digit is no letter, so that its case is not changed. -/
theorem toLower_of_isDigit {char : Char} (digit : char.isDigit = true) : char.toLower = char := by
  rw [Char.isDigit, Bool.and_eq_true, decide_eq_true_iff, decide_eq_true_iff] at digit
  refine dif_neg ?_
  rintro ⟨letter, _⟩
  exact absurd (UInt32.le_trans letter digit.2) (by decide)

def OpensMagnitude (char : Char) : Prop :=
  char.isDigit = true ∨ char = '.' ∨ char.toLower = 'i' ∨ char.toLower = 'n'

theorem head_map_toLower {word : List Char} {letter : Char} {letters : List Char}
    (spelled : word.map Char.toLower = letter :: letters) :
    exists char later, word = char :: later ∧ char.toLower = letter := by
  obtain ⟨char, later, equal, lower, _⟩ := List.map_eq_cons_iff.mp spelled
  exact ⟨char, later, equal, lower⟩

theorem head_decimal {whole point fraction : List Char} (behind : List Char)
    (wholeDecimal : whole.all Char.isDigit = true) (nonempty : whole ++ fraction ≠ [])
    (separated : point = ['.'] ∨ point = [] ∧ fraction = []) :
    exists char later, whole ++ (point ++ (fraction ++ behind)) = char :: later ∧
      (char.isDigit = true ∨ char = '.') := by
  cases whole with
  | cons digit whole =>
      rw [List.all_cons, Bool.and_eq_true] at wholeDecimal
      exact ⟨digit, _, rfl, .inl wholeDecimal.1⟩
  | nil =>
      obtain rfl | ⟨rfl, rfl⟩ := separated
      · exact ⟨'.', _, rfl, .inr rfl⟩
      · exact absurd rfl nonempty

theorem SpellsMagnitude.opens {chars : List Char} {size : Float}
    (spelled : SpellsMagnitude chars size) :
    exists char later, chars = char :: later ∧ OpensMagnitude char := by
  cases spelled with
  | infinite spelled =>
      obtain spelled | spelled := spelled
      · obtain ⟨char, later, equal, lower⟩ := head_map_toLower spelled
        exact ⟨char, later, equal, .inr (.inr (.inl lower))⟩
      · obtain ⟨char, later, equal, lower⟩ := head_map_toLower spelled
        exact ⟨char, later, equal, .inr (.inr (.inl lower))⟩
  | undefined spelled =>
      obtain ⟨char, later, equal, lower⟩ := head_map_toLower spelled
      exact ⟨char, later, equal, .inr (.inr (.inr lower))⟩
  | decimal wholeDecimal _ nonempty separated _ _ =>
      obtain ⟨char, later, equal, opens⟩ := head_decimal _ wholeDecimal nonempty separated
      exact ⟨char, later, equal, opens.imp_right .inl⟩

theorem not_isWord_of_head {char : Char} {later : List Char}
    (opens : char.isDigit = true ∨ char = '.') : ¬IsWord (char :: later) := by
  have noLetter (letter : Char) (letters : List Char)
      (apart : letter.isDigit = false ∧ letter ≠ '.') :
      (char :: later).map Char.toLower ≠ letter :: letters := by
    intro spelled
    obtain ⟨head, rest, equal, lower⟩ := head_map_toLower spelled
    cases equal
    obtain digit | rfl := opens
    · rw [toLower_of_isDigit digit] at lower
      rw [lower, apart.1] at digit
      cases digit
    · exact apart.2 lower.symm
  rintro (word | word | word)
  · exact noLetter 'i' _ (by decide) word
  · exact noLetter 'i' _ (by decide) word
  · exact noLetter 'n' _ (by decide) word

theorem magnitudeOfChars_infinite {word : List Char}
    (spelled : word.map Char.toLower = "inf".toList ∨
      word.map Char.toLower = "infinity".toList) :
    magnitudeOfChars? word = some (1.0 / 0.0) := by
  rw [magnitudeOfChars?]
  simp only [String.ofList_eq, spelled, if_true]

theorem magnitudeOfChars_undefined {word : List Char}
    (spelled : word.map Char.toLower = "nan".toList) :
    magnitudeOfChars? word = some (0.0 / 0.0) := by
  have finite : ¬("nan".toList = "inf".toList ∨ "nan".toList = "infinity".toList) := by decide
  rw [magnitudeOfChars?]
  simp only [String.ofList_eq, spelled, finite, if_false, if_true]

theorem magnitudeOfChars_decimal {whole point fraction behind : List Char} {exponent : Int}
    (wholeDecimal : whole.all Char.isDigit = true)
    (fractionDecimal : fraction.all Char.isDigit = true) (nonempty : whole ++ fraction ≠ [])
    (separated : point = ['.'] ∨ point = [] ∧ fraction = [])
    (powered : SpellsExponent behind exponent) :
    magnitudeOfChars? (whole ++ (point ++ (fraction ++ behind))) =
      some (nearest (Nat.ofDigitChars 10 (whole ++ fraction) 0) (exponent - fraction.length)) := by
  have noWord : ¬IsWord (whole ++ (point ++ (fraction ++ behind))) := by
    obtain ⟨char, later, equal, opens⟩ :=
      head_decimal behind wholeDecimal nonempty separated
    rw [equal]
    exact not_isWord_of_head opens
  have ends : forall char, (point ++ (fraction ++ behind)).head? = some char ->
      char.isDigit = false := by
    intro char head
    obtain rfl | ⟨rfl, rfl⟩ := separated
    · cases head
      rfl
    · obtain rfl | rfl := powered.head_eq head <;> rfl
  obtain ⟨taken, left⟩ := span_digits wholeDecimal ends
  have digits : ¬(whole.isEmpty && fraction.isEmpty) = true := by
    rwa [Bool.and_eq_true, List.isEmpty_iff, List.isEmpty_iff, ← List.append_eq_nil_iff]
  rw [magnitudeOfChars_eq noWord, taken, left,
    fractionPart_append fractionDecimal separated powered, if_neg digits,
    exponentOfChars_eq_some_iff.mpr powered,
    valueInBase_ten (by rw [List.all_append, wholeDecimal, fractionDecimal]; rfl)]
  rfl

/-- A text without a sign is read as a floating-point number exactly if it
spells this number. -/
theorem magnitudeOfChars_eq_some_iff {chars : List Char} {size : Float} :
    magnitudeOfChars? chars = some size ↔ SpellsMagnitude chars size := by
  constructor
  · intro read
    -- The words come first, because none of them has a digit or a point.
    by_cases word : IsWord chars
    · obtain infinite | infinite | undefined := word
      · rw [magnitudeOfChars_infinite (.inl infinite)] at read
        cases read
        exact .infinite (.inl infinite)
      · rw [magnitudeOfChars_infinite (.inr infinite)] at read
        cases read
        exact .infinite (.inr infinite)
      · rw [magnitudeOfChars_undefined undefined] at read
        cases read
        exact .undefined undefined
    · rw [magnitudeOfChars_eq word] at read
      split at read
      · cases read
      · rename_i nonempty
        rw [Bool.and_eq_true, List.isEmpty_iff, List.isEmpty_iff,
          ← List.append_eq_nil_iff] at nonempty
        obtain ⟨point, parts, fractionDecimal, separated⟩ :=
          exists_fractionPart (chars.dropWhile Char.isDigit)
        obtain ⟨exponent, powered, equal⟩ := Option.map_eq_some_iff.mp read
        have wholeDecimal : (chars.takeWhile Char.isDigit).all Char.isDigit = true :=
          List.all_takeWhile
        have spelled := SpellsMagnitude.decimal wholeDecimal fractionDecimal nonempty separated
          (exponentOfChars_eq_some_iff.mp powered) (rounded_nearest _ _)
        rw [← parts, List.takeWhile_append_dropWhile] at spelled
        rwa [← equal, valueInBase_ten
          (by rw [List.all_append, wholeDecimal, fractionDecimal]; rfl)]
  · intro spelled
    cases spelled with
    | infinite spelled => exact magnitudeOfChars_infinite spelled
    | undefined spelled => exact magnitudeOfChars_undefined spelled
    | decimal wholeDecimal fractionDecimal nonempty separated powered rounded =>
        rw [rounded.unique (rounded_nearest _ _)]
        exact magnitudeOfChars_decimal wholeDecimal fractionDecimal nonempty separated powered

/-- A text is read as a floating-point number exactly if it spells this number. -/
theorem realOfText_eq_some_iff {text : String} {value : Float} :
    realOfText? text = some value ↔ SpellsReal text.toList value := by
  unfold realOfText?
  constructor
  · intro read
    obtain ⟨sign, signed, parts⟩ := isSign_signPart text.toList
    obtain ⟨size, spelled, equal⟩ := Option.map_eq_some_iff.mp read
    rw [parts, ← equal]
    exact .magnitude signed (magnitudeOfChars_eq_some_iff.mp spelled)
  · generalize text.toList = chars
    rintro ⟨signed, spelled⟩
    rename_i sign chars negative size
    obtain ⟨char, later, equal, opens⟩ := spelled.opens
    have unsigned : chars.head? ≠ some '+' ∧ chars.head? ≠ some '-' := by
      rw [equal]
      constructor
      · intro plus
        cases plus
        exact absurd opens (by unfold OpensMagnitude; decide)
      · intro minus
        cases minus
        exact absurd opens (by unfold OpensMagnitude; decide)
    rw [signPart_of_isSign signed unsigned]
    dsimp only
    rw [magnitudeOfChars_eq_some_iff.mpr spelled]
    rfl

/-- A text of digits also spells a floating-point number. -/
theorem SpellsWhole.real {chars : List Char} {value : Int} (spelled : SpellsWhole chars value) :
    exists number, SpellsReal chars number := by
  obtain @⟨sign, digits, negative, signed, nonempty, decimal⟩ := spelled
  have whole : SpellsMagnitude (digits ++ ([] ++ ([] ++ []))) _ :=
    .decimal decimal rfl (by rwa [List.append_nil]) (.inr ⟨rfl, rfl⟩) .absent (rounded_nearest _ _)
  rw [List.append_nil, List.append_nil, List.append_nil] at whole
  exact ⟨_, .magnitude signed whole⟩

/-! ## First characters -/

def OpensNumber (char : Char) : Prop :=
  char = '+' ∨ char = '-' ∨ OpensMagnitude char

theorem SpellsReal.opens {chars : List Char} {value : Float} (spelled : SpellsReal chars value) :
    exists char later, chars = char :: later ∧ OpensNumber char := by
  obtain ⟨signed, spelled⟩ := spelled
  cases signed with
  | plus => exact ⟨'+', _, rfl, .inl rfl⟩
  | minus => exact ⟨'-', _, rfl, .inr (.inl rfl)⟩
  | absent =>
      obtain ⟨char, later, equal, opens⟩ := spelled.opens
      exact ⟨char, later, equal, .inr (.inr opens)⟩

/-- A character whose small letter has a code point below 128 has one itself. -/
theorem toNat_lt_of_toLower {char letter : Char} (lower : char.toLower = letter)
    (ascii : letter.toNat < 0x80) : char.toNat < 0x80 := by
  unfold Char.toLower at lower
  split at lower
  · rename_i capital
    exact Nat.lt_of_le_of_lt (UInt32.le_iff_toNat_le.mp capital.2) (by decide)
  · rwa [lower]

theorem OpensNumber.toNat_lt {char : Char} (opens : OpensNumber char) : char.toNat < 0x80 := by
  obtain rfl | rfl | digit | rfl | lower | lower := opens
  · decide
  · decide
  · have bounds := toNat_of_isDigit digit
    omega
  · decide
  · exact toNat_lt_of_toLower lower (by decide)
  · exact toNat_lt_of_toLower lower (by decide)

/-- A number begins neither like `true` nor like `false`. -/
theorem OpensNumber.toLower_ne {char : Char} (opens : OpensNumber char) :
    char.toLower ≠ 't' ∧ char.toLower ≠ 'f' := by
  obtain rfl | rfl | digit | rfl | lower | lower := opens
  · decide
  · decide
  · rw [toLower_of_isDigit digit]
    constructor
    · rintro rfl
      exact absurd digit (by decide)
    · rintro rfl
      exact absurd digit (by decide)
  · decide
  · rw [lower]
    decide
  · rw [lower]
    decide

/-! ## Written numbers -/

theorem spellsWhole_toString (value : Int) : SpellsWhole (toString value).toList value := by
  have back (number : Nat) : Nat.ofDigitChars 10 (Nat.toDigits 10 number) 0 = number :=
    Nat.ofDigitChars_ten_toDigits
  rw [Json.toList_toString]
  split
  · have decimal := all_isDigit_toDigits value.toNat
    have spelled := SpellsWhole.digits .absent Nat.toDigits_ne_nil decimal
    rw [back] at spelled
    have whole : (value.toNat : Int) = value := by omega
    rwa [if_neg Bool.false_ne_true, whole] at spelled
  · have decimal := all_isDigit_toDigits (-value).toNat
    have spelled := SpellsWhole.digits .minus Nat.toDigits_ne_nil decimal
    rw [back] at spelled
    have whole : -((-value).toNat : Int) = value := by omega
    rwa [if_pos rfl, whole] at spelled

end Decimal
end TelemetryRelay
