/-!
# UTF-8

Bytes are split into characters one at a time.  A lead byte fixes how many
bytes follow it and the range of the first of them; those ranges exclude
overlong forms, surrogates and numbers above the last code point.

`decode` accepts well-formed text only and otherwise says where the first
fault lies.  `decodeLossy` never fails: every maximal piece that could begin a
character but does not complete one becomes a single replacement character.
-/

namespace TelemetryRelay
namespace Utf8

/-- What a lead byte promises: the number of bytes that follow it, the range
of the first of these, and the leading bits of the code point. -/
structure Lead where
  following : Nat
  least : UInt8
  greatest : UInt8
  bits : Nat

/-- The promise of a byte that begins a character of several bytes.  A
continuation byte and a byte that occurs in no text promise nothing. -/
def Lead.of? (byte : UInt8) : Option Lead :=
  let bits := byte.toNat
  if bits < 0xC2 then none
  else if bits < 0xE0 then some ⟨1, 0x80, 0xBF, bits - 0xC0⟩
  else if bits = 0xE0 then some ⟨2, 0xA0, 0xBF, 0⟩
  else if bits = 0xED then some ⟨2, 0x80, 0x9F, 0xD⟩
  else if bits < 0xF0 then some ⟨2, 0x80, 0xBF, bits - 0xE0⟩
  else if bits = 0xF0 then some ⟨3, 0x90, 0xBF, 0⟩
  else if bits < 0xF4 then some ⟨3, 0x80, 0xBF, bits - 0xF0⟩
  else if bits = 0xF4 then some ⟨3, 0x80, 0x8F, 4⟩
  else none

/-- What stands at the front of a nonempty byte sequence. -/
inductive Front where
  /-- A character, and the bytes behind it. -/
  | character (char : Char) (rest : List UInt8)
  /-- A piece of the given length that no further byte can complete. -/
  | malformed (length : Nat) (rest : List UInt8)
  /-- The beginning of a character that the sequence breaks off. -/
  | truncated

def Front.rest : Front -> List UInt8
  | character _ rest => rest
  | malformed _ rest => rest
  | truncated => []

/-- Read the missing continuation bytes of a character.  `value` holds the
bits read so far and `length` counts the bytes that carried them. -/
def continuation (value length : Nat) : Nat -> List UInt8 -> Front
  | 0, bytes => .character (Char.ofNat value) bytes
  | _ + 1, [] => .truncated
  | missing + 1, byte :: bytes =>
      if 0x80 ≤ byte ∧ byte ≤ 0xBF then
        continuation (value * 64 + byte.toNat % 64) (length + 1) missing bytes
      else
        .malformed length (byte :: bytes)

/-- Split the first character off a byte sequence. -/
def front (byte : UInt8) (bytes : List UInt8) : Front :=
  if byte < 0x80 then
    .character (Char.ofNat byte.toNat) bytes
  else
    match Lead.of? byte, bytes with
    | none, _ => .malformed 1 bytes
    | some _, [] => .truncated
    | some lead, second :: rest =>
        if lead.least ≤ second ∧ second ≤ lead.greatest then
          continuation (lead.bits * 64 + second.toNat % 64) 2 (lead.following - 1) rest
        else
          .malformed 1 (second :: rest)

theorem continuation_rest_length (value length missing : Nat) (bytes : List UInt8) :
    (continuation value length missing bytes).rest.length ≤ bytes.length := by
  induction missing generalizing value length bytes with
  | zero => simp [continuation, Front.rest]
  | succ missing inductionHypothesis =>
      cases bytes with
      | nil => simp [continuation, Front.rest]
      | cons byte bytes =>
          simp only [continuation]
          split
          · exact Nat.le_trans (inductionHypothesis _ _ bytes) (by simp)
          · simp [Front.rest]

/-- Whatever is split off, the first byte goes with it. -/
theorem front_rest_length (byte : UInt8) (bytes : List UInt8) :
    (front byte bytes).rest.length ≤ bytes.length := by
  unfold front
  split
  · simp [Front.rest]
  · split
    · simp [Front.rest]
    · simp [Front.rest]
    · split
      · exact Nat.le_trans (continuation_rest_length _ _ _ _) (by simp)
      · simp [Front.rest]

/-- Where a byte sequence stops being text. -/
structure Fault where
  /-- Number of leading bytes that are text. -/
  validLength : Nat
  /-- Length of the offending piece; absent if the sequence breaks off inside
  a character. -/
  brokenLength : Option Nat
deriving DecidableEq, Repr

def Fault.message (fault : Fault) : String :=
  match fault.brokenLength with
  | some length =>
      s!"invalid utf-8 sequence of {length} bytes from index {fault.validLength}"
  | none => s!"incomplete utf-8 byte sequence from index {fault.validLength}"

/-- Decode well-formed text.  `offset` is the number of bytes already read. -/
def decodeFrom (offset : Nat) : List UInt8 -> Except Fault (List Char)
  | [] => .ok []
  | byte :: bytes =>
      match found : front byte bytes with
      | .character char rest => do
          let chars <- decodeFrom (offset + (bytes.length + 1 - rest.length)) rest
          return char :: chars
      | .malformed length _ => .error ⟨offset, some length⟩
      | .truncated => .error ⟨offset, none⟩
termination_by bytes => bytes.length
decreasing_by
  have shorter := front_rest_length byte bytes
  simp only [found, Front.rest] at shorter
  simp only [List.length_cons]
  omega

/-- Decode well-formed text, or locate its first fault. -/
def decode (bytes : List UInt8) : Except Fault String :=
  (decodeFrom 0 bytes).map String.ofList

/-- The character that stands for a piece that is not text. -/
def replacement : Char :=
  '\uFFFD'

/-- Decode anything, with one replacement character for each maximal piece
that is not text. -/
def decodeLossyChars : List UInt8 -> List Char
  | [] => []
  | byte :: bytes =>
      match _found : front byte bytes with
      | .character char rest => char :: decodeLossyChars rest
      | .malformed _ rest => replacement :: decodeLossyChars rest
      | .truncated => [replacement]
termination_by bytes => bytes.length
decreasing_by
  all_goals
    have shorter := front_rest_length byte bytes
    simp only [_found, Front.rest] at shorter
    simp only [List.length_cons]
    omega

def decodeLossy (bytes : List UInt8) : String :=
  String.ofList (decodeLossyChars bytes)

def encode (text : String) : List UInt8 :=
  text.toList.flatMap String.utf8EncodeChar

end Utf8
end TelemetryRelay
