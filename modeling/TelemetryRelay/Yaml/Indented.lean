import TelemetryRelay.Text.Digit
import TelemetryRelay.Yaml.Cursor

/-!
# Indented texts

A text may be given as the indented lines below a bar, as they are, or below an
angle, folded.  The first line with something in it sets the column in which
all of them begin, unless the column is given; further blanks belong to the
text.  Signs say what becomes of the line ends behind the last line: one of
them stays, none does, or all of them do.
-/

namespace TelemetryRelay
namespace Yaml
namespace Indented

/-- What becomes of the line ends behind an indented text. -/
inductive Ending where
  | one
  | none
  | all
deriving DecidableEq

/-- What stands behind the bar or angle. -/
structure Header where
  ending : Ending
  /-- Columns from the parent, if they are given. -/
  columns : Option Nat

/-- A sign for the ending of a text. -/
def ending? (cursor : Cursor) : Option (Ending × Cursor) :=
  match cursor.rest with
  | '+' :: _ => some (.all, cursor.next)
  | '-' :: _ => some (.none, cursor.next)
  | _ => Option.none

/-- A number of columns, which is not zero. -/
def columns? (cursor : Cursor) : Option (Option Nat × Cursor) :=
  match cursor.rest with
  | '0' :: _ => none
  | char :: _ =>
      match decimalValue? char with
      | some count => some (some count, cursor.next)
      | none => some (none, cursor)
  | [] => some (none, cursor)

/-- The signs behind the bar or angle, in either order. -/
def header (cursor : Cursor) : Option (Header × Cursor) :=
  match ending? cursor with
  | some (ending, behind) =>
      (columns? behind).map fun (columns, last) => ({ ending, columns }, last)
  | none => do
      let (columns, behind) <- columns? cursor
      match columns, ending? behind with
      | some _, some (ending, last) => return ({ ending, columns }, last)
      | _, _ => return ({ ending := .one, columns }, behind)

/-- Skip empty lines and the indentation of the next one.  Gives their number. -/
def skipEmpty (column : Nat) : (budget : Nat) -> Cursor -> Nat × Cursor
  | 0, cursor => (0, cursor)
  | budget + 1, cursor =>
      let behind := cursor.advance (min (cursor.run (· == ' ')).length (column - cursor.column))
      if startsWith (· == '\n') behind.rest then
        let (count, last) := skipEmpty column budget behind.next
        (count + 1, last)
      else (0, behind)

/-- Skip empty lines and the indentation of the first line with something in it.
Gives the rightmost column that was reached, and the number of the lines. -/
def skipLeading : (budget : Nat) -> Cursor -> Nat × Nat × Cursor
  | 0, cursor => (0, 0, cursor)
  | budget + 1, cursor =>
      let behind := cursor.skip (· == ' ')
      if startsWith (· == '\n') behind.rest then
        let (column, count, last) := skipLeading budget behind.next
        (max behind.column column, count + 1, last)
      else (behind.column, 0, behind)

/-- What was read of an indented text when a line begins or the text has ended.
-/
structure Progress where
  content : List Char
  /-- Whether a line end follows that is not part of the content yet. -/
  broken : Bool
  /-- Number of empty lines behind it. -/
  empty : Nat
  /-- Whether the last line began with a blank. -/
  further : Bool

/-- What comes between the content and a line that begins with a blank or not. -/
def Progress.gap (progress : Progress) (folds further : Bool) : List Char :=
  if folds && progress.broken && !progress.further && !further then
    if progress.empty = 0 then [' '] else List.replicate progress.empty '\n'
  else
    (if progress.broken then ['\n'] else []) ++ List.replicate progress.empty '\n'

/-- Read the lines that begin in a column. -/
def lines (folds : Bool) (column : Nat) : (budget : Nat) -> Progress -> Cursor -> Progress × Cursor
  | 0, progress, cursor => (progress, cursor)
  | budget + 1, progress, cursor =>
      if cursor.column ≠ column ∨ cursor.rest = [] ∨ (column = 0 ∧ isTriple '.' cursor.rest) then
        (progress, cursor)
      else
        let further := startsWith isLineSpace cursor.rest
        let line := cursor.run (· != '\n')
        let content := progress.content ++ progress.gap folds further ++ line
        let behind := cursor.advance line.length
        if behind.rest.isEmpty then ({ content, broken := false, empty := 0, further }, behind)
        else
          let (empty, last) := skipEmpty column behind.rest.length behind.next
          lines folds column budget { content, broken := true, empty, further } last

/-- The text with as many of the line ends behind it as it keeps.  One that ends
with the document has a line end behind it. -/
def finished (ending : Ending) (column : Nat) (progress : Progress) (cursor : Cursor) :
    List Char :=
  let kept :=
    (if progress.broken then ['\n'] else []) ++
      (if cursor.rest.isEmpty && decide (max column 1 ≤ cursor.column) then ['\n'] else [])
  match ending with
  | .none => progress.content
  | .one => progress.content ++ kept
  | .all => progress.content ++ kept ++ List.replicate progress.empty '\n'

/-- A text without any line, at the end of a document. -/
def withoutLines (ending : Ending) (broken : Bool) (empty : Nat) : List Char :=
  match ending with
  | .none => []
  | .one => if broken then ['\n'] else []
  | .all => if broken then List.replicate (max empty 1) '\n' else []

end Indented

/-- An indented text that belongs to something in the column `indent`, from its
bar or angle on. -/
def indentedText (folds : Bool) (indent : Int) (cursor : Cursor) :
    Option (List Char × Cursor) := do
  let (header, afterHeader) <- Indented.header cursor.next
  let lineEnd <- afterHeader.skipInLine
  if !endsLine lineEnd.rest then
    none
  else
    let start := lineEnd.next
    if startsWith (· == '\t') start.rest then
      none
    else
      let (column, empty, first) :=
        match header.columns with
        | some columns =>
            let column := if 0 ≤ indent then indent.toNat + columns else columns
            (column, Indented.skipEmpty column (start.rest.length + 1) start)
        | none =>
            let (reached, count, behind) := Indented.skipLeading (start.rest.length + 1) start
            (max reached (indent + 1).toNat, count, behind)
      if first.rest.isEmpty then
        return (Indented.withoutLines header.ending (cursor.line < first.line) empty, first)
      else if first.column < column ∧ indent < first.column then
        none
      else
        let (progress, last) :=
          Indented.lines folds column (first.rest.length + 1)
            { content := [], broken := false, empty, further := false } first
        return (Indented.finished header.ending column progress last, last)

end Yaml
end TelemetryRelay
