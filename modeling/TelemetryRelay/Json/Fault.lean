/-!
# Why and where reading stops

A reading step that fails reports a cause and how many bytes of the document
it has left unread.  From that number and the document itself follow the line
and the column that the final message names.  A complaint about the byte that
comes next counts that byte as read, one about what has been read does not;
`Halt.next` and `Halt.here` make the difference.
-/

namespace TelemetryRelay
namespace Json

inductive Cause where
  | endInList
  | endInObject
  | endInString
  | endInValue
  | expectedColon
  | expectedListCommaOrEnd
  | expectedObjectCommaOrEnd
  | expectedWord
  | expectedValue
  | invalidEscape
  | invalidNumber
  | numberOutOfRange
  | invalidCodePoint
  | controlCharacter
  | keyNotText
  | loneSurrogate
  | trailingComma
  | trailingCharacters
  | endOfHexEscape
  | nestedTooDeep
  /-- The document is well-formed so far, but its content is not what was
  expected. -/
  | content (complaint : String)
deriving DecidableEq, Repr

def Cause.message : Cause -> String
  | endInList => "EOF while parsing a list"
  | endInObject => "EOF while parsing an object"
  | endInString => "EOF while parsing a string"
  | endInValue => "EOF while parsing a value"
  | expectedColon => "expected `:`"
  | expectedListCommaOrEnd => "expected `,` or `]`"
  | expectedObjectCommaOrEnd => "expected `,` or `\x7d`"
  | expectedWord => "expected ident"
  | expectedValue => "expected value"
  | invalidEscape => "invalid escape"
  | invalidNumber => "invalid number"
  | numberOutOfRange => "number out of range"
  | invalidCodePoint => "invalid unicode code point"
  | controlCharacter => "control character (\\u0000-\\u001F) found while parsing a string"
  | keyNotText => "key must be a string"
  | loneSurrogate => "lone leading surrogate in hex escape"
  | trailingComma => "trailing comma"
  | trailingCharacters => "trailing characters"
  | endOfHexEscape => "unexpected end of hex escape"
  | nestedTooDeep => "recursion limit exceeded"
  | content complaint => complaint

/-- A reading step that could not go on. -/
structure Halt where
  cause : Cause
  /-- Number of bytes of the document that lie behind the reported place. -/
  remaining : Nat

/-- Halt at what has been read. -/
def Halt.here (cause : Cause) (rest : List UInt8) : Halt :=
  ⟨cause, rest.length⟩

/-- Halt at the byte that comes next, if there is one. -/
def Halt.next (cause : Cause) (rest : List UInt8) : Halt :=
  ⟨cause, rest.length - 1⟩

/-- The outcome of a reading step: a result and the bytes behind it. -/
abbrev Step (α : Type) : Type :=
  Except Halt (α × List UInt8)

/-- A cause with its place in the document. -/
structure Fault where
  cause : Cause
  line : Nat
  column : Nat
deriving DecidableEq, Repr

/-- Place a halt in the document.  Lines count from one; the column is the
number of bytes of the line that have been read. -/
def Halt.locate (document : List UInt8) (halt : Halt) : Fault :=
  let consumed := document.take (document.length - halt.remaining)
  let newline := fun byte : UInt8 => byte == 0x0A
  { cause := halt.cause
    line := 1 + consumed.countP newline
    column := (consumed.reverse.takeWhile fun byte => !newline byte).length }

def Fault.message (fault : Fault) : String :=
  s!"{fault.cause.message} at line {fault.line} column {fault.column}"

end Json
end TelemetryRelay
