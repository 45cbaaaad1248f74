import TelemetryRelay.Yaml.Quoted

/-!
# Plain texts

A text without quotes goes on until something ends it: a colon with a blank
behind it, a comment, the end of a document, a line that does not belong to it,
and a comma or bracket where it stands in brackets.  Over several lines it is
folded.
-/

namespace TelemetryRelay
namespace Yaml
namespace Plain

def goesOn (inFlow : Bool) : List Char -> Bool
  | [] => false
  | char :: rest =>
      if char = ':' then !standsAlone rest && !(inFlow && startsWith isBracket rest)
      else !isWhite char && !(inFlow && isBracket char)

def word (inFlow : Bool) : List Char -> List Char
  | [] => []
  | char :: rest => if goesOn inFlow (char :: rest) then char :: word inFlow rest else []

/-- Skip blanks and line ends.  A tab may stand to the left of `indent` only in
a line without anything but a comment. -/
def skipGap (indent : Int) : (budget : Nat) -> Cursor -> Option Cursor
  | 0, _ => none
  | budget + 1, cursor =>
      match cursor.rest with
      | [] => some cursor
      | char :: _ =>
          if char = '\t' ∧ cursor.leading = true ∧ (cursor.column : Int) < indent then do
            let behind <- cursor.skipInLine
            if startsWith (· == '\n') behind.rest then skipGap indent budget behind else none
          else if isWhite char then skipGap indent budget cursor.next
          else some cursor

/-- The rest of a plain text, and the place behind the blanks that follow it. -/
def behind (inFlow : Bool) (indent : Int) : (budget : Nat) -> Cursor -> Option (List Char × Cursor)
  | 0, _ => none
  | budget + 1, cursor =>
      if cursor.atBoundary || startsWith (· == '#') cursor.rest then some ([], cursor)
      else if inFlow && startsWith (· == '-') cursor.rest &&
          startsWith isBracket (cursor.rest.drop 1) then none
      else do
        let gained := word inFlow cursor.rest
        let afterWord := cursor.advance gained.length
        if !startsWith isWhite afterWord.rest then
          return (gained, afterWord)
        else
          let afterGap <- skipGap indent (afterWord.rest.length + 1) afterWord
          if !inFlow && decide ((afterGap.column : Int) < indent) then
            return (gained, afterGap)
          else
            let (later, last) <- behind inFlow indent budget afterGap
            let gap := if later.isEmpty then [] else folded (afterWord.upTo afterGap)
            return (gained ++ gap ++ later, last)

end Plain

/-- A plain text whose further lines do not begin to the left of `indent`. -/
def plainText (inFlow : Bool) (indent : Int) (cursor : Cursor) : Option (List Char × Cursor) :=
  if inFlow && decide ((cursor.column : Int) < indent) then none
  else Plain.behind inFlow indent (cursor.rest.length + 1) cursor

end Yaml
end TelemetryRelay
