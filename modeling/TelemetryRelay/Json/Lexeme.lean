import TelemetryRelay.Json.Fault
import TelemetryRelay.Json.Value
import TelemetryRelay.Text.Utf8

/-!
# The parts that hold no other values

Blanks, the three words, texts and numbers.  Each function takes the bytes
that are left and returns what it read together with the bytes behind it.

Numbers are read as 64-bit significands.  Digits that no longer fit are
dropped, with their place counted, and the result is scaled by a power of ten
in one multiplication or division.  The scaled value is therefore not always
the nearest one to what is written.
-/

namespace TelemetryRelay
namespace Json

/-- Skip spaces, tabs and line ends. -/
def skipBlanks : List UInt8 -> List UInt8
  | [] => []
  | byte :: rest =>
      if byte = 0x20 ∨ byte = 0x09 ∨ byte = 0x0A ∨ byte = 0x0D then skipBlanks rest
      else byte :: rest

def expectWord : List UInt8 -> List UInt8 -> Except Halt (List UInt8)
  | [], rest => .ok rest
  | _ :: _, [] => .error (.here .endInValue [])
  | wanted :: word, byte :: rest =>
      if byte = wanted then expectWord word rest else .error (.here .expectedWord rest)

/-! ## Texts -/

def hexDigit? (byte : UInt8) : Option Nat :=
  let code := byte.toNat
  if 0x30 ≤ code ∧ code ≤ 0x39 then some (code - 0x30)
  else if 0x41 ≤ code ∧ code ≤ 0x46 then some (code - 0x37)
  else if 0x61 ≤ code ∧ code ≤ 0x66 then some (code - 0x57)
  else none

def hexQuad : List UInt8 -> Step Nat
  | first :: second :: third :: fourth :: rest =>
      match hexDigit? first, hexDigit? second, hexDigit? third, hexDigit? fourth with
      | some a, some b, some c, some d => .ok (((a * 16 + b) * 16 + c) * 16 + d, rest)
      | _, _, _, _ => .error (.here .invalidEscape rest)
  | _ => .error (.here .endInString [])

/-- The escape that has to follow a leading surrogate: a trailing one. -/
def trailingSurrogate : List UInt8 -> Step Nat
  | [] => .error (.here .endInString [])
  | slash :: afterSlash =>
      if slash ≠ 0x5C then .error (.here .endOfHexEscape afterSlash)
      else
        match afterSlash with
        | [] => .error (.here .endInString [])
        | letter :: digits =>
            if letter ≠ 0x75 then .error (.here .endOfHexEscape digits)
            else
              match hexQuad digits with
              | .error halt => .error halt
              | .ok (code, rest) =>
                  if code < 0xDC00 ∨ 0xDFFF < code then .error (.here .loneSurrogate rest)
                  else .ok (code, rest)

/-- A code point spelled in hexadecimal, the letter `u` already read.  Above
the basic plane it takes two escapes, one for each surrogate. -/
def unicodeEscape (bytes : List UInt8) : Step Char :=
  match hexQuad bytes with
  | .error halt => .error halt
  | .ok (code, rest) =>
      if 0xDC00 ≤ code ∧ code ≤ 0xDFFF then .error (.here .loneSurrogate rest)
      else if code < 0xD800 ∨ 0xDBFF < code then .ok (Char.ofNat code, rest)
      else
        match trailingSurrogate rest with
        | .error halt => .error halt
        | .ok (low, last) =>
            .ok (Char.ofNat ((code - 0xD800) * 0x400 + (low - 0xDC00) + 0x10000), last)

def escapedChar? (byte : UInt8) : Option Char :=
  match Char.ofUInt8 byte with
  | '"' => some '"'
  | '\\' => some '\\'
  | '/' => some '/'
  | 'b' => some '\x08'
  | 'f' => some '\x0C'
  | 'n' => some '\n'
  | 'r' => some '\r'
  | 't' => some '\t'
  | _ => none

/-- An escape, the backslash already read. -/
def escape : List UInt8 -> Step Char
  | [] => .error (.here .endInString [])
  | byte :: rest =>
      if byte = 0x75 then unicodeEscape rest
      else
        match escapedChar? byte with
        | some char => .ok (char, rest)
        | none => .error (.here .invalidEscape rest)

theorem hexQuad_shorter {bytes : List UInt8} {read : Nat × List UInt8}
    (success : hexQuad bytes = .ok read) : read.2.length < bytes.length := by
  unfold hexQuad at success
  split at success
  · split at success
    · cases success
      simp only [List.length_cons]
      omega
    · cases success
  · cases success

theorem trailingSurrogate_shorter {bytes : List UInt8} {read : Nat × List UInt8}
    (success : trailingSurrogate bytes = .ok read) : read.2.length < bytes.length := by
  unfold trailingSurrogate at success
  split at success
  · cases success
  · split at success
    · cases success
    · split at success
      · cases success
      · split at success
        · cases success
        · split at success
          · cases success
          · rename_i quad
            have shorter := hexQuad_shorter quad
            split at success
            · cases success
            · cases success
              simp only [List.length_cons] at shorter ⊢
              omega

theorem unicodeEscape_shorter {bytes : List UInt8} {read : Char × List UInt8}
    (success : unicodeEscape bytes = .ok read) : read.2.length < bytes.length := by
  unfold unicodeEscape at success
  split at success
  · cases success
  · rename_i quad
    have shorter := hexQuad_shorter quad
    split at success
    · cases success
    · split at success
      · cases success
        exact shorter
      · split at success
        · cases success
        · rename_i trailing
          have further := trailingSurrogate_shorter trailing
          injection success with result
          subst result
          exact Nat.lt_trans further shorter

theorem escape_shorter {bytes : List UInt8} {read : Char × List UInt8}
    (success : escape bytes = .ok read) : read.2.length < bytes.length := by
  unfold escape at success
  split at success
  · cases success
  · split at success
    · have shorter := unicodeEscape_shorter success
      simp only [List.length_cons]
      omega
    · split at success
      · cases success
        simp
      · cases success

/-- The bytes of a text up to the closing quote, escapes resolved. -/
def textBytes : List UInt8 -> Except Halt (List UInt8 × List UInt8)
  | [] => .error (.here .endInString [])
  | byte :: rest =>
      if byte = 0x22 then
        .ok ([], rest)
      else if byte = 0x5C then
        match _escaped : escape rest with
        | .error halt => .error halt
        | .ok read => do
            let (bytes, after) <- textBytes read.2
            return (String.utf8EncodeChar read.1 ++ bytes, after)
      else if byte < 0x20 then
        .error (.here .controlCharacter rest)
      else do
        let (bytes, after) <- textBytes rest
        return (byte :: bytes, after)
termination_by bytes => bytes.length
decreasing_by
  · have shorter := escape_shorter _escaped
    simp only [List.length_cons]
    omega
  · simp

/-- A text, its opening quote already read.  Bytes that are not text are
reported as far in front of the place behind the closing quote as there are
bytes from the first of them on, escapes resolved. -/
def text (bytes : List UInt8) : Except Halt (String × List UInt8) := do
  let (raw, rest) <- textBytes bytes
  match Utf8.decode raw with
  | .ok decoded => return (decoded, rest)
  | .error fault => throw ⟨.invalidCodePoint, rest.length + (raw.length - fault.validLength)⟩

/-! ## Numbers -/

def decimalDigit? (byte : UInt8) : Option Nat :=
  if 0x30 ≤ byte ∧ byte ≤ 0x39 then some (byte.toNat - 0x30) else none

def skipDigits : List UInt8 -> Nat × List UInt8
  | [] => (0, [])
  | byte :: rest =>
      match decimalDigit? byte with
      | some _ => ((skipDigits rest).1 + 1, (skipDigits rest).2)
      | none => (0, byte :: rest)

/-- Digits collected in a significand that may not exceed `limit`. -/
structure Collected where
  significand : Nat
  /-- Number of digits that went into the significand. -/
  taken : Nat
  /-- The next digit would exceed the limit. -/
  overflows : Bool
  rest : List UInt8

/-- Collect digits as long as they fit. -/
def collectDigits (limit significand taken : Nat) : List UInt8 -> Collected
  | [] => ⟨significand, taken, false, []⟩
  | byte :: rest =>
      match decimalDigit? byte with
      | none => ⟨significand, taken, false, byte :: rest⟩
      | some digit =>
          if limit < significand * 10 + digit then ⟨significand, taken, true, byte :: rest⟩
          else collectDigits limit (significand * 10 + digit) (taken + 1) rest

def significandLimit : Nat :=
  UInt64.size - 1

/-- Largest exponent that is read digit by digit. -/
def exponentLimit : Nat :=
  UInt32.size / 2 - 1

/-- The power of ten with the given exponent, at most 308. -/
def powerOfTen (exponent : Nat) : Float :=
  Float.ofScientific 1 false exponent

/-- Divide by a power of ten, in steps of at most 308 places. -/
def scaleDown (value : Float) (places : Nat) : Float :=
  if places ≤ 308 then value / powerOfTen places
  else if value == 0.0 then value
  else scaleDown (value / powerOfTen 308) (places - 308)
termination_by places

/-- Multiply by a power of ten.  A product beyond all finite numbers is
refused. -/
def scaleUp (value : Float) (places : Nat) : Option Float :=
  if places ≤ 308 then
    let scaled := value * powerOfTen places
    if scaled.isInf then none else some scaled
  else if value == 0.0 then some value
  else none

def realOfParts (negative : Bool) (significand : Nat) (exponent : Int)
    (rest : List UInt8) : Step Number :=
  let magnitude := significand.toUInt64.toFloat
  let scaled :=
    if exponent < 0 then some (scaleDown magnitude exponent.natAbs)
    else scaleUp magnitude exponent.toNat
  match scaled with
  | none => .error (.here .numberOutOfRange rest)
  | some value => .ok (.real (if negative then -value else value), rest)

/-- An exponent, its letter already read.  `places` are the decimal places
that the digits before it account for. -/
def exponentPart (negative : Bool) (significand : Nat) (places : Int)
    (bytes : List UInt8) : Step Number :=
  let (falling, unsigned) :=
    match bytes with
    | 0x2B :: rest => (false, rest)
    | 0x2D :: rest => (true, rest)
    | _ => (false, bytes)
  match unsigned with
  | [] => .error (.here .endInValue [])
  | byte :: rest =>
      match decimalDigit? byte with
      | none => .error (.here .invalidNumber rest)
      | some first =>
          let collected := collectDigits exponentLimit first 1 rest
          if collected.overflows then
            if significand ≠ 0 ∧ !falling then
              .error (.here .numberOutOfRange (collected.rest.drop 1))
            else
              .ok (.real (if negative then -0.0 else 0.0), (skipDigits collected.rest).2)
          else
            let written : Int := collected.significand
            realOfParts negative significand
              (if falling then places - written else places + written) collected.rest

/-- What may follow the digits of a number: an exponent or the end. -/
def exponentOrEnd (negative : Bool) (significand : Nat) (places : Int)
    (bytes : List UInt8) : Step Number :=
  match bytes with
  | 0x65 :: rest => exponentPart negative significand places rest
  | 0x45 :: rest => exponentPart negative significand places rest
  | _ => realOfParts negative significand places bytes

/-- The digits behind a decimal point, the point already read. -/
def fractionPart (negative : Bool) (significand : Nat) (places : Int)
    (bytes : List UInt8) : Step Number :=
  let collected := collectDigits significandLimit significand 0 bytes
  if collected.overflows then
    exponentOrEnd negative collected.significand (places - collected.taken)
      (skipDigits collected.rest).2
  else if collected.taken = 0 then
    match bytes with
    | [] => .error (.next .endInValue bytes)
    | _ :: _ => .error (.next .invalidNumber bytes)
  else
    exponentOrEnd negative collected.significand (places - collected.taken) collected.rest

/-- The rest of a number whose whole part fits the significand. -/
def afterWhole (negative : Bool) (significand : Nat) (bytes : List UInt8) : Step Number :=
  match bytes with
  | 0x2E :: rest => fractionPart negative significand 0 rest
  | 0x65 :: rest => exponentPart negative significand 0 rest
  | 0x45 :: rest => exponentPart negative significand 0 rest
  | _ =>
      if !negative then .ok (.whole significand, bytes)
      else if significand = 0 ∨ UInt64.size / 2 < significand then
        .ok (.real (-significand.toUInt64.toFloat), bytes)
      else .ok (.whole (-(significand : Int)), bytes)

/-- The rest of a number whose whole part has more digits than fit. -/
def afterLongWhole (negative : Bool) (significand : Nat) (bytes : List UInt8) : Step Number :=
  let (dropped, rest) := skipDigits bytes
  match rest with
  | 0x2E :: fraction => fractionPart negative significand dropped fraction
  | _ => exponentOrEnd negative significand dropped rest

/-- A number, its minus sign already read. -/
def number (negative : Bool) (bytes : List UInt8) : Step Number :=
  match bytes with
  | [] => .error (.here .endInValue [])
  | byte :: rest =>
      match decimalDigit? byte with
      | none => .error (.here .invalidNumber rest)
      | some 0 =>
          match rest with
          | [] => afterWhole negative 0 rest
          | next :: _ =>
              if (decimalDigit? next).isSome then .error (.next .invalidNumber rest)
              else afterWhole negative 0 rest
      | some first =>
          let collected := collectDigits significandLimit first 1 rest
          if collected.overflows then
            afterLongWhole negative collected.significand collected.rest
          else
            afterWhole negative collected.significand collected.rest

end Json
end TelemetryRelay
