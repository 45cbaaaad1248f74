import TelemetryRelay.Json.Lexeme

/-!
# Reading a document

A value is read at a given nesting allowance.  Entering an array or an object
uses up one level, and with none left the opening bracket is refused.  The
allowance bounds the recursion; within one array or object the number of
bytes bounds the number of elements, since each takes at least one.

`nextElement`, `nextKey` and `expectColon` are shared with readers that know
which fields to expect.
-/

namespace TelemetryRelay
namespace Json

/-- Arrays and objects may be nested this deep. -/
def nestingLimit : Nat :=
  127

/-- Find the next element of an array.  The flag of the result is false at the
closing bracket, which is left unread. -/
def nextElement (first : Bool) (bytes : List UInt8) : Step Bool :=
  match skipBlanks bytes with
  | [] => .error (.next .endInList [])
  | byte :: rest =>
      if byte = 0x5D then .ok (false, byte :: rest)
      else if first then .ok (true, byte :: rest)
      else if byte = 0x2C then
        match skipBlanks rest with
        | [] => .error (.next .endInValue [])
        | next :: behind =>
            if next = 0x5D then .error (.next .trailingComma (next :: behind))
            else .ok (true, next :: behind)
      else .error (.next .expectedListCommaOrEnd (byte :: rest))

/-- Find the next key of an object, and read its opening quote.  The flag of
the result is false at the closing brace, which is left unread. -/
def nextKey (first : Bool) (bytes : List UInt8) : Step Bool :=
  match skipBlanks bytes with
  | [] => .error (.next .endInObject [])
  | byte :: rest =>
      if byte = 0x7D then .ok (false, byte :: rest)
      else if first then
        if byte = 0x22 then .ok (true, rest) else .error (.next .keyNotText (byte :: rest))
      else if byte = 0x2C then
        match skipBlanks rest with
        | [] => .error (.next .endInValue [])
        | next :: behind =>
            if next = 0x22 then .ok (true, behind)
            else if next = 0x7D then .error (.next .trailingComma (next :: behind))
            else .error (.next .keyNotText (next :: behind))
      else .error (.next .expectedObjectCommaOrEnd (byte :: rest))

def expectColon (bytes : List UInt8) : Except Halt (List UInt8) :=
  match skipBlanks bytes with
  | [] => .error (.next .endInObject [])
  | byte :: rest =>
      if byte = 0x3A then .ok rest else .error (.next .expectedColon (byte :: rest))

def elements (item : List UInt8 -> Step Value) :
    Nat -> Bool -> List UInt8 -> Step (List Value)
  | 0, _, bytes => .error (.next .endInList bytes)
  | budget + 1, first, bytes =>
      match nextElement first bytes with
      | .error halt => .error halt
      | .ok (false, rest) => .ok ([], rest.drop 1)
      | .ok (true, rest) =>
          match item rest with
          | .error halt => .error halt
          | .ok (head, after) =>
              match elements item budget false after with
              | .error halt => .error halt
              | .ok (tail, last) => .ok (head :: tail, last)

def members (item : List UInt8 -> Step Value) :
    Nat -> Bool -> Members -> List UInt8 -> Step Members
  | 0, _, _, bytes => .error (.next .endInObject bytes)
  | budget + 1, first, held, bytes =>
      match nextKey first bytes with
      | .error halt => .error halt
      | .ok (false, rest) => .ok (held, rest.drop 1)
      | .ok (true, rest) =>
          match text rest with
          | .error halt => .error halt
          | .ok (key, afterKey) =>
              match expectColon afterKey with
              | .error halt => .error halt
              | .ok afterColon =>
                  match item afterColon with
                  | .error halt => .error halt
                  | .ok (value, after) =>
                      members item budget false (held.insert key value) after

/-- Read one value, with the reader for nested values unless the nesting
allowance is used up. -/
def valueWith (inner : Option (List UInt8 -> Step Value)) (bytes : List UInt8) : Step Value :=
  match skipBlanks bytes with
  | [] => .error (.next .endInValue [])
  | byte :: rest =>
      match Char.ofUInt8 byte with
      | 'n' => (expectWord "ull".toUTF8.toList rest).map fun after => (.null, after)
      | 't' => (expectWord "rue".toUTF8.toList rest).map fun after => (.boolean true, after)
      | 'f' => (expectWord "alse".toUTF8.toList rest).map fun after => (.boolean false, after)
      | '"' => (text rest).map fun (read, after) => (.text read, after)
      | '-' => (number true rest).map fun (read, after) => (.number read, after)
      | '[' =>
          match inner with
          | none => .error (.next .nestedTooDeep (byte :: rest))
          | some item =>
              (elements item rest.length true rest).map fun (items, after) => (.array items, after)
      | '\x7b' =>
          match inner with
          | none => .error (.next .nestedTooDeep (byte :: rest))
          | some item =>
              (members item rest.length true [] rest).map fun (held, after) =>
                (.object held, after)
      | _ =>
          if (decimalDigit? byte).isSome then
            (number false (byte :: rest)).map fun (read, after) => (.number read, after)
          else .error (.next .expectedValue (byte :: rest))

/-- Read one value with the given nesting allowance. -/
def value : Nat -> List UInt8 -> Step Value
  | 0 => valueWith none
  | depth + 1 => valueWith (some (value depth))

def expectEnd (bytes : List UInt8) : Except Halt Unit :=
  match skipBlanks bytes with
  | [] => .ok ()
  | rest => .error (.next .trailingCharacters rest)

def parse (document : List UInt8) : Except Fault Value :=
  match value nestingLimit document with
  | .error halt => .error (halt.locate document)
  | .ok (read, rest) =>
      match expectEnd rest with
      | .error halt => .error (halt.locate document)
      | .ok () => .ok read

end Json
end TelemetryRelay
