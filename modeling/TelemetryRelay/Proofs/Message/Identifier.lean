import TelemetryRelay.Uuid

/-!
# Identifiers are read back

The written form is as long as no other than the hyphenated one, and its
hyphens stand where the reader looks for them.
-/

namespace TelemetryRelay
namespace Uuid

/-! ## Digits of bytes -/

theorem hexValue_digitChar : forall digit, digit < 16 ->
    hexValue? (Nat.digitChar digit) = some digit := by
  decide

theorem length_byteDigits (bytes : List UInt8) :
    (bytes.flatMap byteDigits).length = 2 * bytes.length := by
  induction bytes with
  | nil => rfl
  | cons byte bytes inductionHypothesis =>
      rw [List.flatMap_cons, List.length_append, inductionHypothesis, List.length_cons]
      change 2 + 2 * bytes.length = _
      omega

theorem ofDigits_byteDigits (bytes : List UInt8) :
    ofDigits? (bytes.flatMap byteDigits) = some bytes := by
  induction bytes with
  | nil => rfl
  | cons byte bytes inductionHypothesis =>
      have bound := byte.toNat_lt
      have whole : (byte.toNat / 16 * 16 + byte.toNat % 16).toUInt8 = byte := by
        rw [Nat.div_add_mod']
        exact UInt8.ofNat_toNat
      change ofDigits? (Nat.digitChar (byte.toNat / 16) :: Nat.digitChar (byte.toNat % 16) ::
        bytes.flatMap byteDigits) = _
      rw [ofDigits?, hexValue_digitChar _ (by omega), hexValue_digitChar _ (by omega),
        inductionHypothesis]
      dsimp only
      rw [whole]

/-! ## Groups -/

/-- Five groups of the right lengths, joined by hyphens, are taken apart. -/
theorem ofGroups_joined {first second third fourth fifth : List Char} (eight : first.length = 8)
    (four : second.length = 4) (fourAgain : third.length = 4) (fourLast : fourth.length = 4) :
    ofGroups? (first ++ '-' :: (second ++ '-' :: (third ++ '-' :: (fourth ++ '-' :: fifth)))) =
      some (first ++ (second ++ (third ++ (fourth ++ fifth)))) := by
  have hyphens : forall index, index = 8 ∨ index = 13 ∨ index = 18 ∨ index = 23 ->
      (first ++ '-' :: (second ++ '-' :: (third ++ '-' :: (fourth ++ '-' :: fifth))))[index]? =
        some '-' := by
    rintro index (rfl | rfl | rfl | rfl) <;>
      simp [List.getElem?_append, eight, four, fourAgain, fourLast]
  rw [ofGroups?, if_pos ⟨hyphens 8 (by simp), hyphens 13 (by simp), hyphens 18 (by simp),
    hyphens 23 (by simp)⟩]
  simp [List.drop_append, List.drop_eq_nil_of_le, eight, four, fourAgain, fourLast]

/-- The first groups of 32 digits, and what is left of them. -/
theorem groups_append (digits : List Char) :
    digits.take 8 ++ ((digits.drop 8).take 4 ++ ((digits.drop 12).take 4 ++
      ((digits.drop 16).take 4 ++ digits.drop 20))) = digits := by
  have split (start width : Nat) :
      (digits.drop start).take width ++ digits.drop (start + width) = digits.drop start := by
    rw [← List.drop_drop, List.take_append_drop]
  rw [split 16 4, split 12 4, split 8 4, List.take_append_drop]

theorem ofText_text (id : Uuid) : ofText id.text = .ok id := by
  obtain ⟨bytes, sixteen⟩ := id
  have bytesBack := ofDigits_byteDigits bytes
  have length : (bytes.flatMap byteDigits).length = 32 := by
    rw [length_byteDigits, sixteen]
  unfold ofText text
  dsimp only
  rw [String.toList_ofList]
  generalize bytes.flatMap byteDigits = digits at bytesBack length
  have groups := @ofGroups_joined (digits.take 8) ((digits.drop 8).take 4)
    ((digits.drop 12).take 4) ((digits.drop 16).take 4) (digits.drop 20)
    (by simp [length]) (by simp [length]) (by simp [length]) (by simp [length])
  rw [groups_append] at groups
  have hyphenated : (digits.take 8 ++ '-' :: ((digits.drop 8).take 4 ++ '-' ::
      ((digits.drop 12).take 4 ++ '-' :: ((digits.drop 16).take 4 ++ '-' ::
        digits.drop 20)))).length = hyphenatedLength := by
    simp [length, hyphenatedLength]
  have notSimple : hyphenatedLength ≠ simpleLength := by decide
  rw [digits?, hyphenated, if_neg notSimple, if_pos rfl, groups, Option.bind_some, bytesBack,
    Option.bind_some, ofBytes?, dif_pos sixteen]

end Uuid
end TelemetryRelay
