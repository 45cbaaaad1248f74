import TelemetryRelay.Yaml.Cursor
import TelemetryRelay.Yaml.Token

/-!
# Layout of a document

Indentation says which collection a line belongs to, and a colon says that what
was read before it is a key.  The layout of what has been read holds the tokens
so far, the levels of indentation that are open, and for each open bracket what
may still turn out to be a key.

A key that a colon reveals is announced in front of the tokens that it consists
of.  Outside of brackets a key is on one line and not too long.
-/

namespace TelemetryRelay
namespace Yaml

/-- What may turn out to be a key. -/
structure PossibleKey where
  /-- Number of tokens in front of it. -/
  place : Nat
  /-- Whether nothing else can stand there. -/
  required : Bool
  index : Nat
  line : Nat
  column : Nat

/-- A level of indentation that another one stands in. -/
structure Level where
  indent : Int
  /-- Whether the inner level is that of a collection, and not one that only
  keeps what follows a mark to its right. -/
  isCollection : Bool

/-- What is known of the part of a document that has been read. -/
structure Layout where
  cursor : Cursor
  tokens : Array Token
  /-- Whether a key may begin here. -/
  keyAllowed : Bool
  key : Option PossibleKey
  /-- What may turn out to be a key outside of each open bracket, the innermost
  one first. -/
  outerKeys : List (Option PossibleKey)
  /-- The column of the innermost level. -/
  indent : Int
  levels : List Level
  /-- The place where a colon counts although something is written close behind
  it. -/
  adjacent : Nat
  /-- Whether a table in brackets has begun, so that a colon needs none of its
  own. -/
  tableBegun : Bool
  /-- For each open list in brackets, the innermost one first, whether a table
  of a single key has begun in it. -/
  pairs : List Bool

namespace Layout

def ofChars (chars : List Char) : Layout :=
  { cursor := Cursor.ofChars chars
    tokens := #[]
    keyAllowed := true
    key := none
    outerKeys := []
    indent := -1
    levels := []
    adjacent := 0
    tableBegun := false
    pairs := [] }

def inFlow (layout : Layout) : Bool :=
  !layout.outerKeys.isEmpty

def goTo (layout : Layout) (cursor : Cursor) : Layout :=
  { layout with cursor }

def push (layout : Layout) (token : Token) : Layout :=
  { layout with tokens := layout.tokens.push token }

/-- Add a token in front of those that were added since there were so many. -/
def pushAt (layout : Layout) (place : Nat) (token : Token) : Layout :=
  { layout with tokens := layout.tokens.insertIdxIfInBounds place token }

/-- Say whether a key may begin here. -/
def allowKey (layout : Layout) (keyAllowed : Bool) : Layout :=
  { layout with keyAllowed }

/-- Skip blanks and a comment up to the end of the line. -/
def skipInLine (layout : Layout) : Option Layout :=
  layout.cursor.skipInLine.map layout.goTo

/-- Skip blanks, line ends and comments.  Outside of brackets a key may begin on
a new line. -/
def skipFiller (layout : Layout) : Option Layout :=
  let before := layout.cursor
  (before.skipFiller layout.indent (before.rest.length + 1)).map fun cursor =>
    (layout.goTo cursor).allowKey
      (layout.keyAllowed || (!layout.inFlow && decide (before.line < cursor.line)))

/-! ## Levels -/

/-- Close the levels to the right of a column.  Gives the indentation that is
left, its levels, and the number of collections that end. -/
def closed (column : Int) (indent : Int) : List Level -> Int × List Level × Nat
  | [] => (indent, [], 0)
  | level :: outer =>
      if column < indent then
        let (left, levels, ends) := closed column level.indent outer
        (left, levels, if level.isCollection then ends + 1 else ends)
      else (indent, level :: outer, 0)

/-- Close the collections to the right of a column.  In brackets indentation
ends nothing. -/
def closeTo (layout : Layout) (column : Int) : Layout :=
  if layout.inFlow then layout
  else
    let (indent, levels, ends) := closed column layout.indent layout.levels
    { layout with
      indent
      levels
      tokens := layout.tokens ++ Array.replicate ends Token.blockEnd }

def inCollection (layout : Layout) : Bool :=
  (layout.levels.head?.map Level.isCollection).getD false

/-- Leave the innermost level if it is not that of a collection. -/
def leaveMargin (layout : Layout) : Layout :=
  match layout.levels with
  | level :: outer =>
      if level.isCollection then layout else { layout with indent := level.indent, levels := outer }
  | [] => layout

/-- Leave the innermost levels up to that of a collection. -/
def leaveMargins (layout : Layout) : Layout :=
  let margins := layout.levels.takeWhile fun level => !level.isCollection
  { layout with
    indent := (margins.getLast?.map Level.indent).getD layout.indent
    levels := layout.levels.drop margins.length }

/-- Keep what follows to the right of the column of the collection. -/
def enterMargin (layout : Layout) : Layout :=
  if !layout.inFlow && layout.inCollection then
    { layout with
      indent := layout.indent + 1
      levels := { indent := layout.indent, isCollection := false } :: layout.levels }
  else layout

/-- Begin a collection in a column if none has that column, with a token at a
place. -/
def openAt (layout : Layout) (column : Nat) (place : Nat) (token : Token) : Layout :=
  if layout.inFlow then layout
  else
    let layout := if layout.indent ≤ column then layout.leaveMargin else layout
    if layout.indent < column then
      { layout.pushAt place token with
        indent := column
        levels := { indent := layout.indent, isCollection := true } :: layout.levels }
    else layout

/-! ## Keys -/

/-- Length up to which something can be a key. -/
def longestKey : Nat :=
  1024

/-- Give up the possible key that has become too long or that a new line has
begun behind.  A required one may not be given up. -/
def expireKey (layout : Layout) : Option Layout :=
  match layout.key with
  | none => some layout
  | some key =>
      if !layout.inFlow &&
          (decide (key.line < layout.cursor.line) ||
            decide (key.index + longestKey < layout.cursor.index)) then
        if key.required then none else some { layout with key := none }
      else some layout

/-- Give up the possible key.  A required one may not be given up. -/
def dropKey (layout : Layout) : Option Layout :=
  if (layout.key.map PossibleKey.required).getD false then none
  else some { layout with key := none }

/-- What begins here may be a key, if one may begin here. -/
def noteKey (layout : Layout) : Layout :=
  if layout.keyAllowed then
    { layout with
      key := some
        { place := layout.tokens.size
          required :=
            !layout.inFlow && layout.indent == (layout.cursor.column : Int) && layout.inCollection
          index := layout.cursor.index
          line := layout.cursor.line
          column := layout.cursor.column } }
  else layout

/-- End the table of a single key that has begun in a list. -/
def endPair (layout : Layout) : Layout :=
  match layout.pairs with
  | true :: outer =>
      { layout.push .flowTableEnd with tableBegun := false, pairs := false :: outer }
  | _ => layout

end Layout

end Yaml
end TelemetryRelay
