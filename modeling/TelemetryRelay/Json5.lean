import TelemetryRelay.Datum
import TelemetryRelay.Decimal.Reading
import TelemetryRelay.Text.Blank
import TelemetryRelay.Text.Letter
import TelemetryRelay.Text.Series

/-!
# Relaxed JSON

The notation for people to write: comments, texts in either quotes and over
several lines, keys without quotes, commas behind the last item, hexadecimal
and signed numbers, and words for infinity and for no number.

Whole numbers have to fit 64 bits with a sign, hexadecimal ones 32 bits without
one.  Numbers with a point or an exponent have to be finite.
-/

namespace TelemetryRelay
namespace Json5

/-! ## Blanks and comments -/

def isLineEnd (char : Char) : Bool :=
  char == '\n' || char == '\r' || char == '\u2028' || char == '\u2029'

def isSpace (char : Char) : Bool :=
  (isBlank char && char != '\u0085') || char == '\uFEFF'

/-- What stands between values. -/
inductive Filler where
  | blank
  /-- Behind a first slash. -/
  | slash
  /-- In a comment up to the end of the line. -/
  | line
  /-- In a comment between slashes and stars. -/
  | block
  /-- Behind a star that may end such a comment. -/
  | star

/-- Skip blanks and comments.  A comment that needs an end has to have one. -/
def skipFiller : Filler -> List Char -> Option (List Char)
  | .blank, [] => some []
  | .line, [] => some []
  | .slash, [] => none
  | .block, [] => none
  | .star, [] => none
  | .blank, char :: rest =>
      if char = '/' then skipFiller .slash rest
      else if isSpace char then skipFiller .blank rest
      else some (char :: rest)
  | .slash, char :: rest =>
      if char = '/' then skipFiller .line rest
      else if char = '*' then skipFiller .block rest
      else none
  | .line, char :: rest => skipFiller (if isLineEnd char then .blank else .line) rest
  | .block, char :: rest => skipFiller (if char = '*' then .star else .block) rest
  | .star, char :: rest =>
      skipFiller (if char = '/' then .blank else if char = '*' then .star else .block) rest

/-! ## Texts -/

def escapedChar (char : Char) : Char :=
  match char with
  | 'b' => '\x08'
  | 'f' => '\x0C'
  | 'n' => '\n'
  | 'r' => '\r'
  | 't' => '\t'
  | 'v' => '\x0B'
  | _ => char

/-- The code point of two halves.  The bits of the leading half are united with
the rest and not added to it, so that a bit that both have counts once. -/
def joined (leading trailing : Nat) : Nat :=
  ((leading - 0xD800) * 0x400) ||| (0x10000 + (trailing - 0xDC00))

/-- The character of four hexadecimal digits, or of two such groups if the
first is the leading half of a character. -/
def codePoint (chars : List Char) : Option (Char × List Char) := do
  let (unit, rest) <- hexNumber? 4 chars
  if 0xD800 ≤ unit ∧ unit < 0xDC00 then
    match rest with
    | '\\' :: 'u' :: behind =>
        let (half, last) <- hexNumber? 4 behind
        if 0xDC00 ≤ half ∧ half < 0xE000 then
          return (Char.ofNat (joined unit half), last)
        else
          none
    | _ => none
  else
    return (<- charOfCode? unit, rest)

/-- What an escape stands for, its backslash already read. -/
def escape (chars : List Char) : Option (List Char × List Char) :=
  match chars with
  | [] => none
  | '\r' :: '\n' :: rest => some ([], rest)
  | char :: rest =>
      if isLineEnd char then some ([], rest)
      else if char = 'x' then
        (hexNumber? 2 rest).map fun (code, behind) => ([Char.ofNat code], behind)
      else if char = 'u' then
        (codePoint rest).map fun (meant, behind) => ([meant], behind)
      else if char = '0' then some (['\x00'], rest)
      else if char.isDigit then none
      else some ([escapedChar char], rest)

/-- The rest of a text up to its closing quote. -/
def textBehind (quote : Char) : (budget : Nat) -> List Char -> Option (List Char × List Char)
  | _, [] => none
  | 0, _ => none
  | budget + 1, char :: rest =>
      if char = quote then some ([], rest)
      else if char = '\\' then do
        let (gained, behind) <- escape rest
        let (later, last) <- textBehind quote budget behind
        return (gained ++ later, last)
      else if isLineEnd char then none
      else
        (textBehind quote budget rest).map fun (later, last) => (char :: later, last)

/-- A text, its opening quote already read. -/
def text (quote : Char) (chars : List Char) : Option (String × List Char) :=
  (textBehind quote (chars.length + 1) chars).map fun (read, rest) => (String.ofList read, rest)

/-! ## Keys -/

def beginsKey (char : Char) : Bool :=
  Letter.isLetter char || char == '$' || char == '_'

def continuesKey (char : Char) : Bool :=
  beginsKey char || Letter.isFollower char || char == '\u200C' || char == '\u200D'

/-- A key without quotes, or the rest of one: characters that the first or
every later place allows, and escapes of any characters. -/
def bareKey (allowed : Char -> Bool) : (budget : Nat) -> List Char ->
    Option (List Char × List Char)
  | budget + 1, '\\' :: 'u' :: rest => do
      let (meant, behind) <- codePoint rest
      let (later, last) <- bareKey continuesKey budget behind
      return (meant :: later, last)
  | budget + 1, char :: rest =>
      if allowed char then
        (bareKey continuesKey budget rest).map fun (later, last) => (char :: later, last)
      else some ([], char :: rest)
  | _, chars => some ([], chars)

def key (chars : List Char) : Option (String × List Char) :=
  match chars with
  | [] => none
  | char :: rest =>
      if char = '"' ∨ char = '\'' then text char rest
      else do
        let (read, behind) <- bareKey beginsKey chars.length chars
        if read.isEmpty then none else return (String.ofList read, behind)

/-! ## Numbers -/

def isNumberChar (char : Char) : Bool :=
  char.isAlphanum || char == '.' || char == '+' || char == '-'

/-- The hexadecimal digits of a number, if it is a hexadecimal one. -/
def hexDigits? : List Char -> Option (List Char)
  | '0' :: letter :: digits =>
      if letter = 'x' ∨ letter = 'X' then some digits else none
  | _ => none

/-- Whether a decimal number without its sign begins as one should: with a
digit or a point, and without a needless zero. -/
def beginsDecimal : List Char -> Bool
  | '0' :: next :: _ => !next.isDigit
  | char :: _ => char.isDigit || char == '.'
  | [] => false

def numberOf? (word : List Char) : Option Datum :=
  let spelled := String.ofList word
  if spelled = "Infinity" then some (.real (1.0 / 0.0))
  else if spelled = "-Infinity" then some (.real (-1.0 / 0.0))
  else if spelled = "NaN" ∨ spelled = "-NaN" then some (.real (0.0 / 0.0))
  else
    match hexDigits? word with
    | some digits =>
        ((naturalInBase? 16 digits).filter (· < UInt32.size)).map fun number => .integer number
    | none =>
        if !beginsDecimal (signPart word).2 then none
        else
          match Decimal.integerOfText? spelled with
          | some number => Datum.ofFitting? number
          | none => ((Decimal.realOfText? spelled).filter Float.isFinite).map .real

/-- A number or one of the words for a value. -/
def wordValue (chars : List Char) : Option (Datum × List Char) :=
  let word := chars.takeWhile isNumberChar
  let read :=
    if word = "null".toList then some .nothing
    else if word = "true".toList then some (.boolean true)
    else if word = "false".toList then some (.boolean false)
    else numberOf? word
  read.map fun value => (value, chars.dropWhile isNumberChar)

/-! ## Values -/

def member (item : List Char -> Option (Datum × List Char)) (chars : List Char) :
    Option ((String × Datum) × List Char) := do
  let (name, afterName) <- key chars
  match <- skipFiller .blank afterName with
  | ':' :: rest =>
      let (value, behind) <- item (<- skipFiller .blank rest)
      return ((name, value), behind)
  | _ => none

/-- A value in which others may be nested so deep. -/
def value : (depth : Nat) -> List Char -> Option (Datum × List Char)
  | 0, _ => none
  | depth + 1, chars =>
      match chars with
      | '[' :: rest =>
          (series (skipFiller .blank) (value depth) ']' chars.length rest).map
            fun (items, behind) => (.list items, behind)
      | '\x7b' :: rest =>
          (series (skipFiller .blank) (member (value depth)) '\x7d' chars.length rest).map
            fun (members, behind) => (.ofMembers members, behind)
      | '"' :: rest => (text '"' rest).map fun (read, behind) => (.text read, behind)
      | '\'' :: rest => (text '\'' rest).map fun (read, behind) => (.text read, behind)
      | _ => wordValue chars

def contentOf? (document : String) : Option (List (String × Datum)) := do
  let chars <- skipFiller .blank document.toList
  let (read, rest) <- value (chars.length + 1) chars
  match <- skipFiller .blank rest with
  | [] => read.entries?
  | _ => none

end Json5
end TelemetryRelay
