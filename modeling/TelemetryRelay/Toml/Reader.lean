import TelemetryRelay.Text.Series
import TelemetryRelay.Toml.DateTime
import TelemetryRelay.Toml.Number
import TelemetryRelay.Toml.Table

/-!
# Reading keys and values

Keys are joined by points into paths, with blanks around the points.  Arrays
may spread over several lines and hold comments; tables between braces stay on
one line.  Nesting is bounded, and so is the length of a path, which stands
for as many nested tables.
-/

namespace TelemetryRelay
namespace Toml

/-- Values may be nested in arrays and tables this deep, and a path may have
this many keys. -/
def nestingLimit : Nat :=
  79

/-! ## Blanks, comments and line ends -/

/-- Skip a line end; the end of the document is one. -/
def skipLineEnd : List Char -> Option (List Char)
  | [] => some []
  | '\n' :: rest => some rest
  | '\r' :: '\n' :: rest => some rest
  | _ => none

/-- Skip what may stand at the end of a line: blanks and a comment. -/
def endLine (chars : List Char) : Option (List Char) :=
  match skipSpaces chars with
  | '#' :: rest => skipLineEnd (rest.dropWhile isPlain)
  | rest => skipLineEnd rest

/-- Skip blanks, line ends and comments. -/
def skipFiller (inComment : Bool) : List Char -> Option (List Char)
  | [] => some []
  | '\n' :: rest => skipFiller false rest
  | '\r' :: '\n' :: rest => skipFiller false rest
  | char :: rest =>
      if inComment then (if isPlain char then skipFiller true rest else none)
      else if char = ' ' ∨ char = '\t' then skipFiller false rest
      else if char = '#' then skipFiller true rest
      else some (char :: rest)

def expectWord (word chars : List Char) : Option (List Char) :=
  if word.isPrefixOf chars then some (chars.drop word.length) else none

/-! ## Keys -/

def simpleKey (chars : List Char) : Option (String × List Char) :=
  match chars with
  | '"' :: _ => lineText '"' chars
  | '\'' :: _ => lineText '\'' chars
  | _ =>
      let letters := chars.takeWhile isWordChar
      if letters.isEmpty then none
      else some (String.ofList letters, chars.dropWhile isWordChar)

/-- Keys with points between them: the last one, and the path before it. -/
def keysWithin : Nat -> List Char -> Option ((List String × String) × List Char)
  | 0, _ => none
  | budget + 1, chars =>
      match simpleKey (skipSpaces chars) with
      | none => none
      | some (key, afterKey) =>
          match skipSpaces afterKey with
          | '.' :: rest =>
              (keysWithin budget rest).map fun ((path, last), behind) =>
                ((key :: path, last), behind)
          | rest => some (([], key), rest)

/-- Keys with points between them. -/
def keys (chars : List Char) : Option ((List String × String) × List Char) :=
  keysWithin nestingLimit chars

/-! ## Values -/

/-- The assignments between braces and the closing brace. -/
def assignments (item : List Char -> Option (Value × List Char)) :
    Nat -> Entries -> List Char -> Option (Entries × List Char)
  | 0, _, _ => none
  | budget + 1, held, chars => do
      let ((path, key), afterKeys) <- keys chars
      let (value, afterValue) <- item (skipSpaces (<- expect '=' afterKeys))
      let entries <- assign path key value held
      match skipSpaces afterValue with
      | '\x7d' :: rest => return (entries, rest)
      | ',' :: rest => assignments item budget entries rest
      | _ => none

/-- A table between braces, the opening one already read. -/
def closedTable (item : List Char -> Option (Value × List Char)) (chars : List Char) :
    Option (Value × List Char) :=
  match skipSpaces chars with
  | '\x7d' :: rest => some (.table .closed [], rest)
  | _ =>
      (assignments item chars.length [] chars).map fun (entries, rest) =>
        (.table .closed entries, rest)

/-- A value that holds no others. -/
def scalar (chars : List Char) : Option (Value × List Char) :=
  match chars with
  | [] => none
  | char :: _ =>
      if char = '"' ∨ char = '\'' then
        (anyText char chars).map fun (read, rest) => (.text read, rest)
      else if char = 't' then
        (expectWord "true".toList chars).map fun rest => (.boolean true, rest)
      else if char = 'f' then
        (expectWord "false".toList chars).map fun rest => (.boolean false, rest)
      else
        match DateTime.read chars with
        | some read => some read
        | none => number chars

/-- A value, with a reader for the values inside it unless nesting is used up. -/
def valueWith (inner : Option (List Char -> Option (Value × List Char))) (chars : List Char) :
    Option (Value × List Char) :=
  match chars, inner with
  | '[' :: rest, some item =>
      (series (skipFiller false) item ']' chars.length rest).map fun (items, behind) =>
        (.array items, behind)
  | '\x7b' :: rest, some item => closedTable item rest
  | '[' :: _, none => none
  | '\x7b' :: _, none => none
  | _, _ => scalar chars

/-- A value in which others may be nested so deep. -/
def value : Nat -> List Char -> Option (Value × List Char)
  | 0 => valueWith none
  | depth + 1 => valueWith (some (value depth))

end Toml
end TelemetryRelay
