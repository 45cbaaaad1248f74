import Mathlib.Tactic.SplitIfs
import TelemetryRelay.Text.Utf8

/-!
# Text as bytes, and back

Every text is read back from its bytes.  A character is split off the front of
its own bytes whatever follows them, since the first byte says how many belong
to it; the text follows by induction on its characters.
-/

namespace TelemetryRelay
namespace Utf8

/-! ## Bytes of a text -/

def encodeChars (chars : List Char) : List UInt8 :=
  chars.flatMap String.utf8EncodeChar

theorem encode_ofList (chars : List Char) : encode (String.ofList chars) = encodeChars chars := by
  rw [encode, String.toList_ofList, encodeChars]

theorem encodeChars_cons (char : Char) (chars : List Char) :
    encodeChars (char :: chars) = String.utf8EncodeChar char ++ encodeChars chars :=
  List.flatMap_cons

theorem encodeChars_append (chars later : List Char) :
    encodeChars (chars ++ later) = encodeChars chars ++ encodeChars later :=
  List.flatMap_append

theorem encodeChar_of_lt {char : Char} (small : char.toNat < 0x80) :
    String.utf8EncodeChar char = [char.toNat.toUInt8] := by
  unfold String.utf8EncodeChar
  dsimp only
  rw [Char.toNat_val, if_pos (by omega)]

theorem toNat_toUInt8 {code : Nat} (small : code < 0x100) : code.toUInt8.toNat = code :=
  UInt8.toNat_ofNat_of_lt' small

/-- Any other character consists of bytes from 128 on. -/
theorem encodeChar_of_le {char : Char} (large : 0x80 ≤ char.toNat) {byte : UInt8}
    (member : byte ∈ String.utf8EncodeChar char) : 0x80 ≤ byte.toNat := by
  unfold String.utf8EncodeChar at member
  dsimp only at member
  rw [Char.toNat_val] at member
  split_ifs at member
  · omega
  all_goals
    simp only [List.mem_cons, List.not_mem_nil, or_false] at member
    rcases member with rfl | rfl | rfl | rfl <;> rw [UInt8.toNat_ofNat'] <;> omega

/-! ## The front of the bytes of a character -/

theorem front_of_lead {byte second : UInt8} {lead : Lead} (promised : Lead.of? byte = some lead)
    (least : lead.least ≤ second) (greatest : second ≤ lead.greatest) (rest : List UInt8) :
    front byte (second :: rest) =
      continuation (lead.bits * 64 + second.toNat % 64) 2 (lead.following - 1) rest := by
  have several : ¬ byte < 0x80 := by
    intro single
    rw [UInt8.lt_iff_toNat_lt] at single
    have bound : byte.toNat < 0xC2 := Nat.lt_trans single (by decide)
    rw [Lead.of?, if_pos bound] at promised
    cases promised
  unfold front
  rw [if_neg several, promised]
  dsimp only
  rw [if_pos ⟨least, greatest⟩]

theorem continuation_cons {bits : Nat} (six : bits < 64) (value length missing : Nat)
    (rest : List UInt8) :
    continuation value length (missing + 1) (UInt8.ofNat (bits + 128) :: rest) =
      continuation (value * 64 + bits) (length + 1) missing rest := by
  have code : (UInt8.ofNat (bits + 128)).toNat = bits + 128 := by
    rw [UInt8.toNat_ofNat']
    omega
  have inRange : 0x80 ≤ UInt8.ofNat (bits + 128) ∧ UInt8.ofNat (bits + 128) ≤ 0xBF := by
    rw [UInt8.le_iff_toNat_le, UInt8.le_iff_toNat_le, code]
    change 128 ≤ bits + 128 ∧ bits + 128 ≤ 191
    omega
  have sixBits : (bits + 128) % 64 = bits := by omega
  rw [continuation, if_pos inRange, code, sixBits]

theorem toNat_ofNat_add {bits least : Nat} (fits : bits + least < 256) :
    (UInt8.ofNat (bits + least)).toNat = bits + least := by
  rw [UInt8.toNat_ofNat']
  omega

theorem lead_two {code : Nat} (least : 0x7F < code) (greatest : code ≤ 0x7FF) :
    Lead.of? (UInt8.ofNat (code / 64 % 32 + 192)) = some ⟨1, 0x80, 0xBF, code / 64⟩ := by
  have bits : (UInt8.ofNat (code / 64 % 32 + 192)).toNat = code / 64 + 192 := by
    rw [toNat_ofNat_add (by omega)]
    omega
  unfold Lead.of?
  dsimp only
  rw [bits, if_neg (by omega), if_pos (by omega), Nat.add_sub_cancel]

/-- The first of three bytes; it limits the second so that no surrogate can be
written. -/
theorem lead_three {code : Nat} (least : 0x7FF < code) (greatest : code ≤ 0xFFFF)
    (scalar : code < 0xD800 ∨ 0xDFFF < code) :
    exists low high : UInt8,
      Lead.of? (UInt8.ofNat (code / 4096 % 16 + 224)) = some ⟨2, low, high, code / 4096⟩ ∧
        low ≤ UInt8.ofNat (code / 64 % 64 + 128) ∧
        UInt8.ofNat (code / 64 % 64 + 128) ≤ high := by
  have bits : (UInt8.ofNat (code / 4096 % 16 + 224)).toNat = code / 4096 + 224 := by
    rw [toNat_ofNat_add (by omega)]
    omega
  have second : (UInt8.ofNat (code / 64 % 64 + 128)).toNat = code / 64 % 64 + 128 :=
    toNat_ofNat_add (by omega)
  unfold Lead.of?
  dsimp only
  rw [bits, if_neg (by omega), if_neg (by omega)]
  simp only [UInt8.le_iff_toNat_le, second]
  by_cases first : code / 4096 + 224 = 0xE0
  · rw [if_pos first]
    have none : code / 4096 = 0 := by omega
    refine ⟨0xA0, 0xBF, by rw [none], ?_, ?_⟩
    · change 160 ≤ _
      omega
    · change _ ≤ 191
      omega
  · rw [if_neg first]
    by_cases surrogates : code / 4096 + 224 = 0xED
    · rw [if_pos surrogates]
      have thirteen : code / 4096 = 0xD := by omega
      refine ⟨0x80, 0x9F, by rw [thirteen], ?_, ?_⟩
      · change 128 ≤ _
        omega
      · change _ ≤ 159
        omega
    · rw [if_neg surrogates, if_pos (by omega), Nat.add_sub_cancel]
      refine ⟨0x80, 0xBF, rfl, ?_, ?_⟩
      · change 128 ≤ _
        omega
      · change _ ≤ 191
        omega

/-- The first of four bytes; it limits the second so that the last code point
is not exceeded. -/
theorem lead_four {code : Nat} (least : 0xFFFF < code) (greatest : code < 0x110000) :
    exists low high : UInt8,
      Lead.of? (UInt8.ofNat (code / 262144 % 8 + 240)) = some ⟨3, low, high, code / 262144⟩ ∧
        low ≤ UInt8.ofNat (code / 4096 % 64 + 128) ∧
        UInt8.ofNat (code / 4096 % 64 + 128) ≤ high := by
  have bits : (UInt8.ofNat (code / 262144 % 8 + 240)).toNat = code / 262144 + 240 := by
    rw [toNat_ofNat_add (by omega)]
    omega
  have second : (UInt8.ofNat (code / 4096 % 64 + 128)).toNat = code / 4096 % 64 + 128 :=
    toNat_ofNat_add (by omega)
  unfold Lead.of?
  dsimp only
  rw [bits, if_neg (by omega), if_neg (by omega), if_neg (by omega), if_neg (by omega),
    if_neg (by omega)]
  simp only [UInt8.le_iff_toNat_le, second]
  by_cases first : code / 262144 + 240 = 0xF0
  · rw [if_pos first]
    have none : code / 262144 = 0 := by omega
    refine ⟨0x90, 0xBF, by rw [none], ?_, ?_⟩
    · change 144 ≤ _
      omega
    · change _ ≤ 191
      omega
  · rw [if_neg first]
    by_cases inside : code / 262144 + 240 < 0xF4
    · rw [if_pos inside, Nat.add_sub_cancel]
      refine ⟨0x80, 0xBF, rfl, ?_, ?_⟩
      · change 128 ≤ _
        omega
      · change _ ≤ 191
        omega
    · have four : code / 262144 = 4 := by omega
      rw [if_neg inside, if_pos (by omega)]
      refine ⟨0x80, 0x8F, by rw [four], ?_, ?_⟩
      · change 128 ≤ _
        omega
      · change _ ≤ 143
        omega

/-- A character is split off the front of its bytes, whatever follows. -/
theorem front_encodeChar (char : Char) :
    exists byte bytes, String.utf8EncodeChar char = byte :: bytes ∧
      forall rest, front byte (bytes ++ rest) = .character char rest := by
  have scalar : char.toNat < 0xD800 ∨ 0xDFFF < char.toNat ∧ char.toNat < 0x110000 := char.valid
  unfold String.utf8EncodeChar
  dsimp only
  rw [Char.toNat_val]
  generalize code_eq : char.toNat = code at scalar
  have restored : Char.ofNat code = char := code_eq ▸ Char.ofNat_toNat char
  split_ifs with one two three
  · refine ⟨_, _, rfl, fun rest => ?_⟩
    have byte : (UInt8.ofNat code).toNat = code := toNat_toUInt8 (by omega)
    have single : UInt8.ofNat code < 0x80 := by
      rw [UInt8.lt_iff_toNat_lt, byte]
      exact Nat.lt_succ_of_le one
    unfold front
    rw [if_pos single, byte, restored]
    rfl
  · refine ⟨_, _, rfl, fun rest => ?_⟩
    have second : (UInt8.ofNat (code % 64 + 128)).toNat = code % 64 + 128 :=
      toNat_ofNat_add (by omega)
    have value : code / 64 * 64 + (code % 64 + 128) % 64 = code := by omega
    rw [List.cons_append, front_of_lead (lead_two (by omega) two), second]
    · dsimp only
      rw [value, continuation, restored]
      rfl
    · rw [UInt8.le_iff_toNat_le, second]
      change 128 ≤ _
      omega
    · rw [UInt8.le_iff_toNat_le, second]
      change _ ≤ 191
      omega
  · obtain ⟨low, high, promised, least, greatest⟩ := lead_three (by omega) three (by omega)
    refine ⟨_, _, rfl, fun rest => ?_⟩
    have value : (code / 4096 * 64 + (code / 64 % 64 + 128) % 64) * 64 + code % 64 = code := by
      omega
    rw [List.cons_append, front_of_lead promised least greatest, toNat_ofNat_add (by omega)]
    dsimp only
    rw [List.cons_append, continuation_cons (by omega), value, continuation, restored]
    rfl
  · obtain ⟨low, high, promised, least, greatest⟩ := @lead_four code (by omega) (by omega)
    refine ⟨_, _, rfl, fun rest => ?_⟩
    have value : ((code / 262144 * 64 + (code / 4096 % 64 + 128) % 64) * 64 +
        code / 64 % 64) * 64 + code % 64 = code := by omega
    rw [List.cons_append, front_of_lead promised least greatest, toNat_ofNat_add (by omega)]
    dsimp only
    rw [List.cons_append, continuation_cons (by omega), List.cons_append,
      continuation_cons (by omega), value, continuation, restored]
    rfl

/-! ## The whole text -/

theorem decodeFrom_encode (chars : List Char) (offset : Nat) :
    decodeFrom offset (encodeChars chars) = .ok chars := by
  induction chars generalizing offset with
  | nil => rw [encodeChars, List.flatMap_nil, decodeFrom]
  | cons char chars inductionHypothesis =>
      obtain ⟨byte, bytes, encoded, front_eq⟩ := front_encodeChar char
      rw [encodeChars_cons, encoded, List.cons_append, decodeFrom]
      split
      · rename_i found rest split_off
        rw [front_eq] at split_off
        cases split_off
        rw [inductionHypothesis]
        rfl
      · rename_i impossible
        rw [front_eq] at impossible
        cases impossible
      · rename_i impossible
        rw [front_eq] at impossible
        cases impossible

theorem decode_encodeChars (text : String) : decode (encodeChars text.toList) = .ok text := by
  rw [decode, decodeFrom_encode]
  change Except.ok (String.ofList text.toList) = _
  rw [String.ofList_toList]

theorem decodeLossyChars_encode (chars : List Char) :
    decodeLossyChars (encodeChars chars) = chars := by
  induction chars with
  | nil => rw [encodeChars, List.flatMap_nil, decodeLossyChars]
  | cons char chars inductionHypothesis =>
      obtain ⟨byte, bytes, encoded, front_eq⟩ := front_encodeChar char
      rw [encodeChars_cons, encoded, List.cons_append, decodeLossyChars]
      split
      · rename_i found rest split_off
        rw [front_eq] at split_off
        cases split_off
        rw [inductionHypothesis]
      · rename_i impossible
        rw [front_eq] at impossible
        cases impossible
      · rename_i impossible
        rw [front_eq] at impossible
        cases impossible

/-- Nothing is replaced in the bytes of a text. -/
theorem decodeLossy_encode (text : String) : decodeLossy (encode text) = text := by
  rw [decodeLossy, encode, ← encodeChars, decodeLossyChars_encode, String.ofList_toList]

end Utf8
end TelemetryRelay
