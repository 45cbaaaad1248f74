import TelemetryRelay.Text.Digit
import TelemetryRelay.Yaml.Cursor

/-!
# Texts in quotes

A text stands in double quotes, which allow escapes, or in single quotes, in
which a quote is written twice.  What it says over several lines is folded: a
line end is a space, and of several line ends in a row all but one are kept.
No line of it begins to the left of what the text belongs to.
-/

namespace TelemetryRelay
namespace Yaml

/-- What blanks and line ends between two words amount to. -/
def folded (gap : List Char) : List Char :=
  match gap.count '\n' with
  | 0 => gap
  | 1 => [' ']
  | breaks + 2 => List.replicate (breaks + 1) '\n'

namespace Quoted

/-- What a character stands for behind a backslash, if it is not the code of
another one. -/
def escaped? (char : Char) : Option Char :=
  match char with
  | '0' => some '\x00'
  | 'a' => some '\x07'
  | 'b' => some '\x08'
  | 't' => some '\t'
  | '\t' => some '\t'
  | 'n' => some '\n'
  | 'v' => some '\x0B'
  | 'f' => some '\x0C'
  | 'r' => some '\r'
  | 'e' => some '\x1B'
  | ' ' => some ' '
  | '"' => some '"'
  | '/' => some '/'
  | '\\' => some '\\'
  | 'N' => some '\u0085'
  | '_' => some '\u00A0'
  | 'L' => some '\u2028'
  | 'P' => some '\u2029'
  | _ => none

/-- How many hexadecimal digits follow a letter behind a backslash. -/
def codeLength? (char : Char) : Option Nat :=
  match char with
  | 'x' => some 2
  | 'u' => some 4
  | 'U' => some 8
  | _ => none

/-- What an escape stands for, and the number of its characters behind the
backslash. -/
def escape (chars : List Char) : Option (Char × Nat) :=
  match chars with
  | [] => none
  | char :: rest =>
      match codeLength? char with
      | none => (escaped? char).map fun meant => (meant, 1)
      | some length => do
          let (code, _) <- hexNumber? length rest
          return (<- charOfCode? code, length + 1)

/-- A word of a text, up to a blank, the closing quote, or an escaped line end.
-/
def word (quote : Char) : (budget : Nat) -> Cursor -> Option (List Char × Cursor)
  | 0, _ => none
  | budget + 1, cursor =>
      match cursor.rest with
      | [] => some ([], cursor)
      | char :: rest =>
          let goOn (gained : Char) (count : Nat) : Option (List Char × Cursor) :=
            (word quote budget (cursor.advance count)).map fun (later, last) =>
              (gained :: later, last)
          if isWhite char then some ([], cursor)
          else if char = quote then
            if quote = '\'' ∧ rest.head? = some '\'' then goOn '\'' 2 else some ([], cursor)
          else if char = '\\' ∧ quote = '"' then
            if rest.head? = some '\n' then some ([], cursor.advance 2)
            else do
              let (meant, count) <- escape rest
              goOn meant (count + 1)
          else goOn char 1

/-- Skip blanks and line ends.  A tab may not stand to the left of `indent` at
the beginning of a line. -/
def skipGap (indent : Int) : (budget : Nat) -> Cursor -> Option Cursor
  | 0, _ => none
  | budget + 1, cursor =>
      match cursor.rest with
      | [] => some cursor
      | char :: _ =>
          if char = '\t' ∧ cursor.leading = true ∧ (cursor.column : Int) < indent then none
          else if isWhite char then skipGap indent budget cursor.next
          else some cursor

/-- What blanks and line ends amount to.  Behind an escaped line end only
further line ends count. -/
def gapText (cursor later : Cursor) : List Char :=
  let gap := cursor.upTo later
  if cursor.leading then List.replicate (gap.count '\n') '\n' else folded gap

/-- The rest of a text, up to its closing quote and with it. -/
def behind (quote : Char) (indent : Int) : (budget : Nat) -> Cursor -> Option (List Char × Cursor)
  | 0, _ => none
  | budget + 1, cursor =>
      if cursor.atBoundary || cursor.rest.isEmpty || decide ((cursor.column : Int) < indent) then none
      else do
        let (gained, afterWord) <- word quote (cursor.rest.length + 1) cursor
        if afterWord.rest.head? = some quote then
          return (gained, afterWord.next)
        else
          let afterGap <- skipGap indent (afterWord.rest.length + 1) afterWord
          let (later, last) <- behind quote indent budget afterGap
          return (gained ++ gapText afterWord afterGap ++ later, last)

/-- Whether a text that began in a line may end here. -/
def mayEnd (inFlow : Bool) (line : Nat) (cursor : Cursor) : Bool :=
  endsLine cursor.rest ||
    startsWith
      (fun char =>
        (inFlow && (char == ',' || char == '\x7d' || char == ']')) ||
          (char == ':' && (inFlow || line == cursor.line)))
      cursor.rest

end Quoted

/-- A text in quotes, with the blanks and the comment behind it. -/
def quotedText (quote : Char) (inFlow : Bool) (indent : Int) (cursor : Cursor) :
    Option (List Char × Cursor) := do
  let (content, last) <- Quoted.behind quote indent (cursor.rest.length + 1) cursor.next
  let behind <- last.skipInLine
  if Quoted.mayEnd inFlow cursor.line behind then return (content, behind) else none

end Yaml
end TelemetryRelay
