import TelemetryRelay.Datum
import TelemetryRelay.Toml.Document

/-!
# The content of a document

What a document holds, without how it was written.  A date or time is a text in
its normal form.  It may also be given as a table that begins with a reserved
key; the value of that key has to spell it, and the rest of the table counts
for nothing.
-/

namespace TelemetryRelay
namespace Toml

/-- The key that a date or time in the form of a table begins with. -/
def dateTimeKey : String :=
  "$__toml_private_datetime"

/-- The normal form of a date or time that a text spells. -/
def spelledDateTime? : Value -> Option Datum
  | .text spelled =>
      match DateTime.read spelled.toList with
      | some (.dateTime normal, []) => some (.text normal)
      | _ => none
  | _ => none

mutual

/-- What a value is.  It is nothing if a table with the reserved key in it
spells no date or time. -/
def Value.content? : Value -> Option Datum
  | .boolean value => some (.boolean value)
  | .integer value => some (.integer value)
  | .real value => some (.real value)
  | .text value => some (.text value)
  | .dateTime normal => some (.text normal)
  | .array items => (itemsContent? items).map .list
  | .table _ entries => tableContent? entries
  | .tables elements => (tablesContent? elements).map .list

def itemsContent? : List Value -> Option (List Datum)
  | [] => some []
  | item :: rest => do
      let first <- item.content?
      return first :: (<- itemsContent? rest)

def entriesContent? : List (String × Value) -> Option (List (String × Datum))
  | [] => some []
  | (key, value) :: rest => do
      let first <- value.content?
      return (key, first) :: (<- entriesContent? rest)

def tableContent? : List (String × Value) -> Option Datum
  | [] => some (.table [])
  | (key, value) :: rest =>
      if key = dateTimeKey then spelledDateTime? value
      else do
        let first <- value.content?
        return .table ((key, first) :: (<- entriesContent? rest))

def tablesContent? : List (List (String × Value)) -> Option (List Datum)
  | [] => some []
  | entries :: rest => do
      let first <- tableContent? entries
      return first :: (<- tablesContent? rest)

end

def contentOf? (document : String) : Option (List (String × Datum)) := do
  (<- tableContent? (<- entriesOf document)).entries?

end Toml
end TelemetryRelay
