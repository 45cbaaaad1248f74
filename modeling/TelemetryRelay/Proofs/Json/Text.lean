import Mathlib.Tactic.SplitIfs
import TelemetryRelay.Json.Reader
import TelemetryRelay.Json.Writer
import TelemetryRelay.Proofs.Text.Encoding

/-!
# Texts of a document are read back

Each character is written so that reading it back yields its bytes: by an
escape, or by bytes that are neither a quote nor a backslash nor a control
character.  The closing quote is therefore the first quote that reading meets,
and what it has collected by then are the bytes of the text.
-/

namespace TelemetryRelay
namespace Json

open Utf8 (encodeChars)

/-- Put bytes in front of those that reading a text yields. -/
def prependBytes (bytes : List UInt8) :
    Except Halt (List UInt8 × List UInt8) -> Except Halt (List UInt8 × List UInt8) :=
  Except.map fun read => (bytes ++ read.1, read.2)

theorem prependBytes_append (bytes later : List UInt8)
    (outcome : Except Halt (List UInt8 × List UInt8)) :
    prependBytes bytes (prependBytes later outcome) = prependBytes (bytes ++ later) outcome := by
  cases outcome with
  | error halt => rfl
  | ok read =>
      change Except.ok (bytes ++ (later ++ read.1), read.2) = _
      rw [← List.append_assoc]
      rfl

/-! ## Escapes -/

theorem textBytes_escape {bytes rest : List UInt8} {char : Char}
    (escaped : escape bytes = .ok (char, rest)) :
    textBytes (0x5C :: bytes) = prependBytes (String.utf8EncodeChar char) (textBytes rest) := by
  rw [textBytes, if_neg (by decide), if_pos rfl]
  split
  · rename_i failed
    rw [escaped] at failed
    cases failed
  · rename_i read succeeded
    rw [escaped] at succeeded
    cases succeeded
    cases textBytes rest with
    | error halt => rfl
    | ok read => rfl

theorem hexDigit_digitChar : forall digit, digit < 16 ->
    exists byte, String.utf8EncodeChar (Nat.digitChar digit) = [byte] ∧
      hexDigit? byte = some digit := by
  have single : forall digit, digit < 16 -> (Nat.digitChar digit).toNat < 0x80 ∧
      hexDigit? (Nat.digitChar digit).toNat.toUInt8 = some digit := by
    decide
  intro digit small
  obtain ⟨ascii, value⟩ := single digit small
  exact ⟨_, Utf8.encodeChar_of_lt ascii, value⟩

theorem escape_control {char : Char} (control : char.toNat < 0x20) (rest : List UInt8) :
    escape (encodeChars ['u', '0', '0', Nat.digitChar (char.toNat / 16),
      Nat.digitChar (char.toNat % 16)] ++ rest) = .ok (char, rest) := by
  obtain ⟨upper, upper_eq, upperValue⟩ := hexDigit_digitChar (char.toNat / 16) (by omega)
  obtain ⟨lower, lower_eq, lowerValue⟩ := hexDigit_digitChar (char.toNat % 16) (by omega)
  have digits : encodeChars ['u', '0', '0', Nat.digitChar (char.toNat / 16),
      Nat.digitChar (char.toNat % 16)] = [0x75, 0x30, 0x30, upper, lower] := by
    change 0x75 :: 0x30 :: 0x30 :: encodeChars [_, _] = _
    rw [Utf8.encodeChars_cons, Utf8.encodeChars_cons, upper_eq, lower_eq]
    rfl
  have zero : hexDigit? 0x30 = some 0 := rfl
  have code : ((0 * 16 + 0) * 16 + char.toNat / 16) * 16 + char.toNat % 16 = char.toNat := by
    omega
  rw [digits]
  change unicodeEscape (0x30 :: 0x30 :: upper :: lower :: rest) = _
  rw [unicodeEscape, hexQuad, zero, upperValue, lowerValue]
  dsimp only
  rw [code, if_neg (by omega), if_pos (by omega), Char.ofNat_toNat]

/-! ## Characters that stand for themselves -/

/-- A byte of a text that stands for itself. -/
def Verbatim (byte : UInt8) : Prop :=
  byte ≠ 0x22 ∧ byte ≠ 0x5C ∧ ¬ byte < 0x20

theorem textBytes_verbatim {byte : UInt8} (verbatim : Verbatim byte) (rest : List UInt8) :
    textBytes (byte :: rest) = prependBytes [byte] (textBytes rest) := by
  rw [textBytes, if_neg verbatim.1, if_neg verbatim.2.1, if_neg verbatim.2.2]
  cases textBytes rest with
  | error halt => rfl
  | ok read => rfl

theorem textBytes_verbatim_append {bytes : List UInt8}
    (verbatim : forall byte, byte ∈ bytes -> Verbatim byte) (rest : List UInt8) :
    textBytes (bytes ++ rest) = prependBytes bytes (textBytes rest) := by
  induction bytes with
  | nil =>
      rw [List.nil_append]
      cases textBytes rest with
      | error halt => rfl
      | ok read => rfl
  | cons byte bytes inductionHypothesis =>
      obtain ⟨first, later⟩ := List.forall_mem_cons.mp verbatim
      rw [List.cons_append, textBytes_verbatim first,
        inductionHypothesis later, prependBytes_append]
      rfl

theorem verbatim_encodeChar {char : Char} (quote : char ≠ '"') (backslash : char ≠ '\\')
    (visible : 0x20 ≤ char.toNat) :
    forall byte, byte ∈ String.utf8EncodeChar char -> Verbatim byte := by
  intro byte member
  have of_code (other : Char) (equal : char.toNat = other.toNat) : char = other := by
    rw [← Char.ofNat_toNat char, equal, Char.ofNat_toNat]
  have code : byte.toNat ≠ 0x22 ∧ byte.toNat ≠ 0x5C ∧ 0x20 ≤ byte.toNat := by
    by_cases ascii : char.toNat < 0x80
    · rw [Utf8.encodeChar_of_lt ascii, List.mem_singleton] at member
      subst member
      rw [Utf8.toNat_toUInt8 (by omega)]
      exact ⟨fun equal => quote (of_code '"' equal), fun equal => backslash (of_code '\\' equal),
        visible⟩
    · have large := Utf8.encodeChar_of_le (Nat.le_of_not_lt ascii) member
      omega
  refine ⟨?_, ?_, ?_⟩
  · rintro rfl
    exact code.1 rfl
  · rintro rfl
    exact code.2.1 rfl
  · rw [UInt8.lt_iff_toNat_lt]
    exact Nat.not_lt_of_le code.2.2

/-! ## Texts -/

/-- What is written for a character yields its bytes. -/
theorem textBytes_escapeChar (char : Char) (rest : List UInt8) :
    textBytes (encodeChars (escapeChar char) ++ rest) =
      prependBytes (String.utf8EncodeChar char) (textBytes rest) := by
  unfold escapeChar
  split
  iterate 7 exact textBytes_escape rfl
  rename_i quote backslash _ _ _ _ _
  split_ifs with control
  · change textBytes (0x5C :: (encodeChars ['u', '0', '0', _, _] ++ rest)) = _
    exact textBytes_escape (escape_control control rest)
  · rw [encodeChars, List.flatMap_singleton]
    exact textBytes_verbatim_append
      (verbatim_encodeChar quote backslash (Nat.le_of_not_lt control)) rest

theorem textBytes_written (chars : List Char) (rest : List UInt8) :
    textBytes (encodeChars (chars.flatMap escapeChar) ++ 0x22 :: rest) =
      .ok (encodeChars chars, rest) := by
  induction chars with
  | nil =>
      change textBytes (0x22 :: rest) = _
      rw [textBytes, if_pos rfl]
      rfl
  | cons char chars inductionHypothesis =>
      rw [List.flatMap_cons, Utf8.encodeChars_append, List.append_assoc, textBytes_escapeChar,
        inductionHypothesis, Utf8.encodeChars_cons]
      rfl

/-- A text is read back, with what follows its closing quote. -/
theorem text_written (content : String) (rest : List UInt8) :
    text (encodeChars (content.toList.flatMap escapeChar) ++ 0x22 :: rest) =
      .ok (content, rest) := by
  unfold text
  rw [textBytes_written]
  dsimp only [bind, Except.bind]
  rw [Utf8.decode_encodeChars]
  rfl

theorem encodeChars_renderText (content : String) (rest : List UInt8) :
    encodeChars (renderText content) ++ rest =
      0x22 :: (encodeChars (content.toList.flatMap escapeChar) ++ 0x22 :: rest) := by
  rw [renderText, Utf8.encodeChars_cons, Utf8.encodeChars_append]
  change 0x22 :: (_ ++ [0x22] ++ rest) = _
  rw [List.append_assoc]
  rfl

end Json
end TelemetryRelay
