/-!
# Values of a JSON document

Numbers come in two kinds: whole numbers of at most 64 bits, which are exact,
and floating-point numbers.  The members of an object are listed in ascending
order of their keys, each key once.  `Members.insert` keeps that order; a
later member takes the place of an earlier one with the same key.
-/

namespace TelemetryRelay
namespace Json

/-- A number as a document distinguishes them. -/
inductive Number where
  | whole (value : Int)
  | real (value : Float)

/-- A document, or a part of one. -/
inductive Value where
  | null
  | boolean (value : Bool)
  | number (value : Number)
  | text (value : String)
  | array (items : List Value)
  | object (members : List (String × Value))

instance valueInhabited : Inhabited Value :=
  ⟨.null⟩

/-- The members of an object under construction. -/
abbrev Members : Type :=
  List (String × Value)

/-- Put a member in its place among ascending keys, replacing a member with
the same key. -/
def Members.insert (key : String) (value : Value) : Members -> Members
  | [] => [(key, value)]
  | (other, held) :: rest =>
      if key < other then (key, value) :: (other, held) :: rest
      else if other < key then (other, held) :: Members.insert key value rest
      else (key, value) :: rest

end Json
end TelemetryRelay
