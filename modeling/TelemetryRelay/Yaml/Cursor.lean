import TelemetryRelay.Text.Scan

/-!
# Places in a document

What has been read of a document says more than what is left of it: the column
of the next character decides what a line belongs to, and its line whether it
can still be part of a key.  Line ends are all written as one character.
-/

namespace TelemetryRelay
namespace Yaml

/-! ## Characters -/

def isWhite (char : Char) : Bool :=
  isLineSpace char || char == '\n'

def isBracket (char : Char) : Bool :=
  char == '[' || char == ']' || char == '\x7b' || char == '\x7d' || char == ','

/-- Whether the first character is of a class, if there is one. -/
def startsWith (accepts : Char -> Bool) : List Char -> Bool
  | [] => false
  | char :: _ => accepts char

/-- Whether nothing is left of the line. -/
def endsLine : List Char -> Bool
  | [] => true
  | char :: _ => char == '\n'

/-- Whether a mark counts, because nothing is written close behind it. -/
def standsAlone : List Char -> Bool
  | [] => true
  | char :: _ => isWhite char

/-- Whether three marks of a kind stand by themselves here. -/
def isTriple (mark : Char) (chars : List Char) : Bool :=
  chars.take 3 == [mark, mark, mark] && standsAlone (chars.drop 3)

/-! ## Cursors -/

/-- A place in a document, given by what is left of it from there on. -/
structure Cursor where
  rest : List Char
  /-- Number of characters before it. -/
  index : Nat
  line : Nat
  column : Nat
  /-- Whether nothing but blanks stands before it in its line. -/
  leading : Bool

namespace Cursor

def ofChars (chars : List Char) : Cursor :=
  { rest := chars, index := 0, line := 0, column := 0, leading := true }

def next (cursor : Cursor) : Cursor :=
  match cursor.rest with
  | [] => cursor
  | char :: rest =>
      if char = '\n' then
        { rest, index := cursor.index + 1, line := cursor.line + 1, column := 0, leading := true }
      else
        { rest
          index := cursor.index + 1
          line := cursor.line
          column := cursor.column + 1
          leading := cursor.leading && isLineSpace char }

def advance (cursor : Cursor) : Nat -> Cursor
  | 0 => cursor
  | count + 1 => cursor.next.advance count

/-- The characters of a class from here on. -/
def run (cursor : Cursor) (accepts : Char -> Bool) : List Char :=
  cursor.rest.takeWhile accepts

/-- The place behind the characters of a class. -/
def skip (cursor : Cursor) (accepts : Char -> Bool) : Cursor :=
  cursor.advance (cursor.run accepts).length

def upTo (cursor later : Cursor) : List Char :=
  cursor.rest.take (later.index - cursor.index)

/-- Whether a line begins here that begins or ends a document. -/
def atBoundary (cursor : Cursor) : Bool :=
  cursor.column == 0 && (isTriple '-' cursor.rest || isTriple '.' cursor.rest)

/-- Skip blanks and a comment up to the end of the line.  A comment has a blank
in front of it. -/
def skipInLine (cursor : Cursor) : Option Cursor :=
  let behind := cursor.skip isLineSpace
  match behind.rest with
  | '#' :: _ => if behind.index = cursor.index then none else some (behind.skip (· != '\n'))
  | _ => some behind

/-- Skip blanks, line ends and comments.  A tab may not stand to the left of
`indent` in front of something. -/
def skipFiller (indent : Int) : (budget : Nat) -> Cursor -> Option Cursor
  | 0, _ => none
  | budget + 1, cursor =>
      match cursor.rest with
      | [] => some cursor
      | char :: _ =>
          if char = '\t' ∧ cursor.leading = true ∧ (cursor.column : Int) < indent then do
            let behind <- cursor.skipInLine
            if endsLine behind.rest then skipFiller indent budget behind else none
          else if isWhite char then skipFiller indent budget cursor.next
          else if char = '#' then skipFiller indent budget (cursor.skip (· != '\n'))
          else some cursor

end Cursor

end Yaml
end TelemetryRelay
