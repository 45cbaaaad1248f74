import TelemetryRelay.Settings.Node
import TelemetryRelay.Text.Digit
import TelemetryRelay.Text.Scan

/-!
# Paths to settings

The outermost keys of a layer may be paths: names with points between them,
and places in sequences in brackets.  A negative place counts from the end.
Tables and sequences on the way are made where there are none.  A key that is
no path is a name as a whole.
-/

namespace TelemetryRelay

inductive PathStep where
  | name (key : String)
  | place (index : Int)
deriving DecidableEq, Repr

namespace PathStep

def isNameChar (char : Char) : Bool :=
  char.isAlphanum || char == ' ' || char == '_' || char == '-'

/-- A name, and what follows it. -/
def readName (chars : List Char) : Option (PathStep × List Char) :=
  let letters := chars.takeWhile isNameChar
  if letters.isEmpty then none
  else some (.name (String.ofList letters), chars.dropWhile isNameChar)

/-- A place, its opening bracket already read, and what follows it. -/
def readPlace (chars : List Char) : Option (PathStep × List Char) :=
  let start := skipSpaces chars
  let (negative, unsigned) :=
    match start with
    | '-' :: rest => (true, rest)
    | _ => (false, start)
  let digits := unsigned.takeWhile Char.isDigit
  let size := valueInBase 10 digits
  if digits.isEmpty || UInt64.size / 2 + (if negative then 1 else 0) ≤ size then none
  else
    match skipSpaces (unsigned.dropWhile Char.isDigit) with
    | ']' :: rest => some (.place (if negative then -(size : Int) else size), rest)
    | _ => none

/-- The steps behind the first name. -/
def readSteps : Nat -> List Char -> Option (List PathStep)
  | _, [] => some []
  | 0, _ => none
  | budget + 1, char :: rest => do
      let (step, behind) <-
        if char = '.' then readName rest
        else if char = '[' then readPlace rest
        else none
      return step :: (<- readSteps budget behind)

def ofKey (key : String) : List PathStep :=
  let steps := do
    let (first, rest) <- readName key.toList
    return first :: (<- readSteps rest.length rest)
  steps.getD [.name key]

end PathStep

namespace Node

/-- The elements of a sequence; nothing else has elements. -/
def items : Node -> List Node
  | .sequence items _ => items
  | _ => []

/-- The origin of a sequence; a new one comes from nowhere. -/
def sequenceOrigin : Node -> Origin
  | .sequence _ origin => origin
  | _ => .unnamed

/-- Change the element at a place.  Gaps before it are filled; there is no
place before the first one. -/
def changePlace (index : Int) (change : Node -> Node) (node : Node) : Node :=
  let held := node.items
  let place := if index < 0 then index + held.length else index
  if place < 0 then .sequence held node.sequenceOrigin
  else
    let filled := held ++ List.replicate (place.toNat + 1 - held.length) (.absent .unnamed)
    .sequence (filled.modify place.toNat change) node.sequenceOrigin

/-- Put a value where the steps lead to.  A table is merged into the one that
a name leads to; at a place in a sequence it is put as it is. -/
def placeAt (value : Node) : List PathStep -> Node -> Node
  | [], _ => value
  | [.name key], node =>
      let name := Lowercase.ofText key
      node.put name (mergedInto (node.get? name) value)
  | .name key :: steps, node =>
      let name := Lowercase.ofText key
      node.put name (placeAt value steps ((node.get? name).getD (.absent .unnamed)))
  | .place index :: steps, node => node.changePlace index (placeAt value steps)

/-- Merge a layer, given by its outermost entries. -/
def withLayer (node : Node) (layer : List (String × Node)) : Node :=
  layer.foldl (fun merged (key, value) => placeAt value (PathStep.ofKey key) merged) node

end Node
end TelemetryRelay
