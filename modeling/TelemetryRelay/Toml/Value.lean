import TelemetryRelay.Datum

/-!
# Values of a TOML document

A table remembers how it came to be, because that decides what a document may
still add to it.  For readers of the finished document all tables are alike,
and a list of tables is an array.
-/

namespace TelemetryRelay
namespace Toml

/-- How a table was introduced. -/
inductive Form where
  /-- Written out between braces; nothing can be added. -/
  | closed
  /-- By a header of its own. -/
  | header
  /-- As part of the path in a header. -/
  | implied
  /-- As part of the path in front of an equals sign. -/
  | dotted
deriving DecidableEq, Repr

/-- A value, or a whole document. -/
inductive Value where
  | boolean (value : Bool)
  | integer (value : Int)
  | real (value : Float)
  | text (value : String)
  /-- A date, a time or both, in its normal form. -/
  | dateTime (normal : String)
  | array (items : List Value)
  | table (form : Form) (entries : List (String × Value))
  /-- Tables that were introduced one by one by headers in double brackets. -/
  | tables (elements : List (List (String × Value)))

instance valueInhabited : Inhabited Value :=
  ⟨.boolean false⟩

/-- The entries of a table.  Each key occurs once. -/
abbrev Entries : Type :=
  List (String × Value)

/-- Give a key a value, in the place of the one it has. -/
def Entries.put (key : String) (value : Value) (entries : Entries) : Entries :=
  putEntry key value entries

end Toml
end TelemetryRelay
