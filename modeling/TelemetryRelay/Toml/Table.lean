import TelemetryRelay.Toml.Value

/-!
# Adding to tables

A document may add to a table in three ways: an assignment with a path of
keys, a header in brackets, and a header in double brackets.  No value is ever
replaced.  An assignment may pass through tables that are only known from
paths and through the last of several listed tables; it may add to a table
directly only if the table itself comes from assignments or is the current
one.  A header may give an implied table its own definition, once.
-/

namespace TelemetryRelay
namespace Toml

/-- Change the table at the end of a path.  Tables on the way that do not
exist yet are made, in a form that says whether an assignment or a header made
them.  The change is told the form of the table. -/
def within (assigning : Bool) (change : Form -> Entries -> Option Entries) :
    (path : List String) -> Form -> Entries -> Option Entries
  | [], form, entries => change form entries
  | key :: path, _, entries =>
      match entries.lookup key with
      | none =>
          let made := if assigning then Form.dotted else Form.implied
          (within assigning change path made []).map fun inner =>
            entries.put key (.table made inner)
      | some (.table form inner) =>
          if form = .closed ∨ (assigning ∧ form = .header) then none
          else
            (within assigning change path form inner).map fun changed =>
              entries.put key (.table form changed)
      | some (.tables elements) =>
          match elements.getLast? with
          | none => none
          | some last =>
              (within assigning change path .header last).map fun changed =>
                entries.put key (.tables (elements.dropLast ++ [changed]))
      | some _ => none

def addValue (key : String) (value : Value) (entries : Entries) : Option Entries :=
  match entries.lookup key with
  | none => some (entries ++ [(key, value)])
  | some _ => none

/-- Assign a value to the key behind a path.  With a path, the last table on it
has to come from assignments. -/
def assign (path : List String) (key : String) (value : Value) (entries : Entries) :
    Option Entries :=
  within true
    (fun form held => if path ≠ [] ∧ form ≠ .dotted then none else addValue key value held)
    path .header entries

/-- Introduce a table by a header. -/
def openTable (path : List String) (key : String) (entries : Entries) : Option Entries :=
  within false
    (fun _ held =>
      match held.lookup key with
      | none => some (held ++ [(key, .table .header [])])
      | some (.table .implied inner) => some (held.put key (.table .header inner))
      | some _ => none)
    path .header entries

/-- Add a table to a list of tables by a header in double brackets. -/
def appendTable (path : List String) (key : String) (entries : Entries) : Option Entries :=
  within false
    (fun _ held =>
      match held.lookup key with
      | none => some (held ++ [(key, .tables [[]])])
      | some (.tables elements) => some (held.put key (.tables (elements ++ [[]])))
      | some _ => none)
    path .header entries

/-- Assign a value inside the table that the last header introduced. -/
def assignWithin (current path : List String) (key : String) (value : Value)
    (entries : Entries) : Option Entries :=
  within false (fun _ held => assign path key value held) current .header entries

end Toml
end TelemetryRelay
