import TelemetryRelay.Json.Reader

/-!
# Passing over a value

A value that nobody asked for is checked for its form only.  Brackets are
kept on a stack instead of being nested in calls, so that there is no limit
on their depth; texts are not decoded; and numbers may have any size.
-/

namespace TelemetryRelay
namespace Json

/-- An open array or object. -/
inductive Bracket where
  | square
  | curly
deriving DecidableEq

def Bracket.closing : Bracket -> UInt8
  | square => 0x5D
  | curly => 0x7D

/-- The document ends inside an array or object. -/
def Bracket.endCause : Bracket -> Cause
  | square => .endInList
  | curly => .endInObject

/-- Neither a comma nor the end follows a value inside an array or object. -/
def Bracket.separatorCause : Bracket -> Cause
  | square => .expectedListCommaOrEnd
  | curly => .expectedObjectCommaOrEnd

/-- Pass over an escape, the backslash already read.  Surrogates need not
pair up. -/
def skipEscape : List UInt8 -> Except Halt (List UInt8)
  | [] => .error (.here .endInString [])
  | byte :: rest =>
      if byte = 0x75 then (hexQuad rest).map (fun read => read.2)
      else if (escapedChar? byte).isSome then .ok rest
      else .error (.here .invalidEscape rest)

/-- Pass over a text, its opening quote already read. -/
def skipText : Nat -> List UInt8 -> Except Halt (List UInt8)
  | _, [] => .error (.here .endInString [])
  | 0, rest => .error (.here .endInString rest)
  | budget + 1, byte :: rest =>
      if byte = 0x22 then .ok rest
      else if byte = 0x5C then
        match skipEscape rest with
        | .error halt => .error halt
        | .ok after => skipText budget after
      else if byte < 0x20 then .error (.here .controlCharacter (byte :: rest))
      else skipText budget rest

/-- Pass over an exponent, its letter already read. -/
def skipExponent (bytes : List UInt8) : Except Halt (List UInt8) :=
  let unsigned :=
    match bytes with
    | 0x2B :: rest => rest
    | 0x2D :: rest => rest
    | _ => bytes
  match unsigned with
  | [] => .error (.here .invalidNumber [])
  | byte :: rest =>
      if (decimalDigit? byte).isSome then .ok (skipDigits rest).2
      else .error (.here .invalidNumber rest)

def skipExponentOrEnd (bytes : List UInt8) : Except Halt (List UInt8) :=
  match bytes with
  | 0x65 :: rest => skipExponent rest
  | 0x45 :: rest => skipExponent rest
  | _ => .ok bytes

def skipFraction (bytes : List UInt8) : Except Halt (List UInt8) :=
  match bytes with
  | 0x2E :: rest =>
      let (digits, after) := skipDigits rest
      if digits = 0 then .error (.next .invalidNumber rest) else skipExponentOrEnd after
  | _ => skipExponentOrEnd bytes

/-- Pass over a number, its minus sign already read. -/
def skipNumber (bytes : List UInt8) : Except Halt (List UInt8) :=
  match bytes with
  | [] => .error (.here .invalidNumber [])
  | byte :: rest =>
      match decimalDigit? byte with
      | none => .error (.here .invalidNumber rest)
      | some 0 =>
          match rest with
          | [] => .ok []
          | next :: _ =>
              if (decimalDigit? next).isSome then .error (.next .invalidNumber rest)
              else skipFraction rest
      | some _ => skipFraction (skipDigits rest).2

/-- Close what closes here.  The result is empty when the outermost bracket is
closed, and otherwise lists the brackets around the value that follows. -/
def closeBrackets (afterValue : Bool) : List Bracket -> List UInt8 -> Step (List Bracket)
  | [], bytes => .ok ([], bytes)
  | bracket :: outer, bytes =>
      match skipBlanks bytes with
      | [] => .error (.next bracket.endCause [])
      | byte :: rest =>
          if afterValue ∧ byte = 0x2C then .ok (bracket :: outer, rest)
          else if byte = bracket.closing then closeBrackets true outer rest
          else if afterValue then .error (.next bracket.separatorCause (byte :: rest))
          else .ok (bracket :: outer, byte :: rest)

def skipKey (bytes : List UInt8) : Except Halt (List UInt8) :=
  match skipBlanks bytes with
  | [] => .error (.next .endInObject [])
  | byte :: rest =>
      if byte = 0x22 then
        match skipText rest.length rest with
        | .error halt => .error halt
        | .ok after => expectColon after
      else .error (.next .keyNotText (byte :: rest))

/-- Pass over the beginning of a value: all of it, or its opening bracket. -/
def skipHead (enclosing : List Bracket) (bytes : List UInt8) : Step (Bool × List Bracket) :=
  match skipBlanks bytes with
  | [] => .error (.next .endInValue [])
  | byte :: rest =>
      let whole (read : Except Halt (List UInt8)) : Step (Bool × List Bracket) :=
        read.map fun after => ((true, enclosing), after)
      match Char.ofUInt8 byte with
      | 'n' => whole (expectWord "ull".toUTF8.toList rest)
      | 't' => whole (expectWord "rue".toUTF8.toList rest)
      | 'f' => whole (expectWord "alse".toUTF8.toList rest)
      | '"' => whole (skipText rest.length rest)
      | '-' => whole (skipNumber rest)
      | '[' => .ok ((false, .square :: enclosing), rest)
      | '\x7b' => .ok ((false, .curly :: enclosing), rest)
      | _ =>
          if (decimalDigit? byte).isSome then whole (skipNumber (byte :: rest))
          else .error (.next .expectedValue (byte :: rest))

/-- Pass over a value inside the given brackets, and over everything up to the
end of the outermost one. -/
def skipWithin : Nat -> List Bracket -> List UInt8 -> Except Halt (List UInt8)
  | 0, _, bytes => .error (.next .endInValue bytes)
  | budget + 1, enclosing, bytes =>
      match skipHead enclosing bytes with
      | .error halt => .error halt
      | .ok ((afterValue, opened), rest) =>
          match closeBrackets afterValue opened rest with
          | .error halt => .error halt
          | .ok ([], after) => .ok after
          | .ok (.square :: outer, after) => skipWithin budget (.square :: outer) after
          | .ok (.curly :: outer, after) =>
              match skipKey after with
              | .error halt => .error halt
              | .ok behind => skipWithin budget (.curly :: outer) behind

def skipValue (bytes : List UInt8) : Except Halt (List UInt8) :=
  skipWithin (bytes.length + 1) [] bytes

end Json
end TelemetryRelay
