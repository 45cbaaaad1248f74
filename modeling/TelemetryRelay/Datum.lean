/-!
# Values of settings documents

Settings can be written in several notations.  Whatever the notation, a
document holds values of the same few kinds.
-/

namespace TelemetryRelay

/-- A value in a document of any notation. -/
inductive Datum where
  | nothing
  | boolean (value : Bool)
  | integer (value : Int)
  | real (value : Float)
  | text (value : String)
  | list (items : List Datum)
  | table (entries : List (String × Datum))

instance datumInhabited : Inhabited Datum :=
  ⟨.nothing⟩

/-- Give a key a value, in the place of the one it has. -/
def putEntry {α : Type} (key : String) (value : α) : List (String × α) -> List (String × α)
  | [] => [(key, value)]
  | (other, held) :: rest =>
      if other = key then (key, value) :: rest else (other, held) :: putEntry key value rest

/-- The table of entries that are given one after the other.  A later one takes
the place of an earlier one with the same key. -/
def Datum.ofMembers (members : List (String × Datum)) : Datum :=
  .table (members.foldl (fun entries (key, value) => putEntry key value entries) [])

/-- The entries of a table; nothing else is a document by itself. -/
def Datum.entries? : Datum -> Option (List (String × Datum))
  | table entries => some entries
  | _ => none

/-- A whole number if it fits 64 bits with a sign, and else the floating-point
number next to it. -/
def Datum.ofWhole (value : Int) : Datum :=
  if Int64.minValue.toInt ≤ value ∧ value ≤ Int64.maxValue.toInt then integer value
  else real (Float.ofInt value)

/-- A whole number that has to fit 64 bits with a sign. -/
def Datum.ofFitting? (value : Int) : Option Datum :=
  if Int64.minValue.toInt ≤ value ∧ value ≤ Int64.maxValue.toInt then some (integer value)
  else none

end TelemetryRelay
