import TelemetryRelay.Proofs.Decimal.Notation
import TelemetryRelay.Proofs.Decimal.Reading
import TelemetryRelay.Settings.Environment
import TelemetryRelay.Settings.Reading

/-!
# What a text of the environment becomes

A variable of the environment is taken as a truth value or a number if it
spells one, and where a text is wanted it becomes a text again.  So a text that
spells neither arrives as it is, and any other in the normal form of what it
spells.
-/

namespace TelemetryRelay

open Decimal (SpellsReal SpellsWhole)

def FitsSigned (value : Int) : Prop :=
  Int64.minValue.toInt ≤ value ∧ value ≤ Int64.maxValue.toInt

instance fitsSignedDecidable (value : Int) : Decidable (FitsSigned value) :=
  inferInstanceAs (Decidable (_ ∧ _))

/-- What a text in the environment becomes where a text is wanted.  A number
without a point or an exponent counts as a whole one if it fits. -/
inductive Arrives (text : String) : String -> Prop where
  | truth {value : Bool} (spelled : Lowercase.ofText text = toString value) :
      Arrives text (toString value)
  | whole {value : Int} (spelled : SpellsWhole text.toList value) (fits : FitsSigned value) :
      Arrives text (toString value)
  | real {value : Float} {arriving : String} (spelled : SpellsReal text.toList value)
      (notWhole : forall whole, SpellsWhole text.toList whole -> ¬FitsSigned whole)
      (plain : Decimal.PlainText value arriving) : Arrives text arriving
  | verbatim (noTruth : forall value : Bool, Lowercase.ofText text ≠ toString value)
      (noNumber : forall value, ¬SpellsReal text.toList value) :
      Arrives text text

/-! ## Truth values -/

namespace Lowercase

theorem head_ofText {text : String} {char : Char} {later : List Char}
    (chars : text.toList = char :: later) (ascii : char.toNat < 0x80) :
    (ofText text).toList.head? = some char.toLower := by
  have noSigma : char ≠ 'Σ' := by
    rintro rfl
    exact absurd ascii (by decide)
  rw [ofText, String.toList_ofList, chars, ofChars, if_neg noSigma, ofChar, if_pos ascii]
  rfl

/-- A text that begins like no truth value is none. -/
theorem ofText_ne_truth {text : String} {char : Char} {later : List Char}
    (chars : text.toList = char :: later) (ascii : char.toNat < 0x80)
    (apart : char.toLower ≠ 't' ∧ char.toLower ≠ 'f') (value : Bool) :
    ofText text ≠ toString value := by
  intro truth
  have head := head_ofText chars ascii
  rw [truth] at head
  cases value with
  | true => exact apart.1 (Option.some.inj head).symm
  | false => exact apart.2 (Option.some.inj head).symm

/-- No number is a truth value. -/
theorem ofText_ne_truth_of_number {text : String} {number : Float}
    (spelled : SpellsReal text.toList number) (value : Bool) : ofText text ≠ toString value := by
  obtain ⟨char, later, chars, opens⟩ := spelled.opens
  exact ofText_ne_truth chars opens.toNat_lt opens.toLower_ne value

end Lowercase

/-! ## The text that arrives -/

def fittingWhole? (text : String) : Option Int :=
  (Decimal.integerOfText? text).filter fun value =>
    Int64.minValue.toInt ≤ value && value ≤ Int64.maxValue.toInt

theorem fittingWhole_eq_some_iff {text : String} {value : Int} :
    fittingWhole? text = some value ↔ SpellsWhole text.toList value ∧ FitsSigned value := by
  rw [fittingWhole?, Option.filter_eq_some_iff, Decimal.integerOfText_eq_some_iff,
    Bool.and_eq_true, decide_eq_true_iff, decide_eq_true_iff]
  rfl

theorem fittingWhole_eq_none {text : String}
    (notWhole : forall whole, SpellsWhole text.toList whole -> ¬FitsSigned whole) :
    fittingWhole? text = none := by
  rw [Option.eq_none_iff_forall_not_mem]
  intro whole read
  obtain ⟨spelled, fits⟩ := fittingWhole_eq_some_iff.mp read
  exact notWhole whole spelled fits

/-- A text that is no truth value is tried as a whole number and then as a
floating-point number. -/
theorem scalarOfText_of_no_truth {text : String}
    (noTruth : forall value : Bool, Lowercase.ofText text ≠ toString value) :
    Environment.scalarOfText text =
      match fittingWhole? text with
      | some value => .integer value
      | none =>
          match Decimal.realOfText? text with
          | some value => .real value
          | none => .text text := by
  have noTrue : Lowercase.ofText text ≠ "true" := noTruth true
  have noFalse : Lowercase.ofText text ≠ "false" := noTruth false
  unfold Environment.scalarOfText
  dsimp only
  rw [if_neg noTrue, if_neg noFalse]
  rfl

/-- A text becomes what it spells, as a text. -/
theorem Arrives.eq_asText {text arriving : String} (arrives : Arrives text arriving) :
    arriving = (Environment.scalarOfText text).asText := by
  cases arrives with
  | @truth value spelled =>
      unfold Environment.scalarOfText
      dsimp only
      rw [spelled]
      cases value <;> rfl
  | whole spelled fits =>
      obtain ⟨number, real⟩ := spelled.real
      rw [scalarOfText_of_no_truth (Lowercase.ofText_ne_truth_of_number real),
        fittingWhole_eq_some_iff.mpr ⟨spelled, fits⟩]
      rfl
  | real spelled notWhole plain =>
      rw [scalarOfText_of_no_truth (Lowercase.ofText_ne_truth_of_number spelled),
        fittingWhole_eq_none notWhole]
      dsimp only
      rw [Decimal.realOfText_eq_some_iff.mpr spelled]
      exact (Decimal.plainText_iff.mp plain).symm
  | verbatim noTruth noNumber =>
      have notWhole : forall whole, SpellsWhole text.toList whole -> ¬FitsSigned whole := by
        intro whole spelled
        obtain ⟨number, real⟩ := spelled.real
        exact absurd real (noNumber number)
      have notReal : Decimal.realOfText? text = none := by
        rw [Option.eq_none_iff_forall_not_mem]
        intro number read
        exact noNumber number (Decimal.realOfText_eq_some_iff.mp read)
      rw [scalarOfText_of_no_truth noTruth, fittingWhole_eq_none notWhole]
      dsimp only
      rw [notReal]
      rfl

theorem exists_arrives (text : String) : exists arriving, Arrives text arriving := by
  -- One case for each constructor, so that no text is left without a form.
  by_cases truth : exists value : Bool, Lowercase.ofText text = toString value
  · obtain ⟨value, spelled⟩ := truth
    exact ⟨_, .truth spelled⟩
  · by_cases whole : exists value, SpellsWhole text.toList value ∧ FitsSigned value
    · obtain ⟨value, spelled, fits⟩ := whole
      exact ⟨_, .whole spelled fits⟩
    · by_cases real : exists value, SpellsReal text.toList value
      · obtain ⟨value, spelled⟩ := real
        exact ⟨_, .real spelled (fun value spelled fits => whole ⟨value, spelled, fits⟩)
          (Decimal.plainText_render value)⟩
      · exact ⟨_, .verbatim (not_exists.mp truth) (not_exists.mp real)⟩

theorem arrives_iff {text arriving : String} :
    Arrives text arriving ↔ arriving = (Environment.scalarOfText text).asText := by
  constructor
  · exact Arrives.eq_asText
  · rintro rfl
    obtain ⟨arriving, arrives⟩ := exists_arrives text
    rwa [← arrives.eq_asText]

/-! ## No text becomes empty -/

theorem toString_ne_empty (value : Int) : toString value ≠ "" := by
  intro empty
  obtain ⟨number, spelled⟩ := (Decimal.spellsWhole_toString value).real
  obtain ⟨char, later, chars, _⟩ := spelled.opens
  rw [empty] at chars
  cases chars

theorem Arrives.ne_empty {text arriving : String} (arrives : Arrives text arriving)
    (nonempty : text ≠ "") : arriving ≠ "" := by
  cases arrives with
  | @truth value _ => cases value <;> decide
  | whole _ _ => exact toString_ne_empty _
  | real _ _ plain => exact plain.ne_empty
  | verbatim _ _ => exact nonempty

end TelemetryRelay
