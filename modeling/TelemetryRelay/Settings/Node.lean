import TelemetryRelay.Datum
import TelemetryRelay.Text.Lowercase

/-!
# Layers of settings

Settings come in layers, first a file and then the environment.  Each layer is
merged into what the earlier ones have left.  Tables are merged entry by entry;
any other value takes the place of what was there.  The case of keys does not
matter.

Each value remembers where it was given.  A table that was put together by
merging comes from nowhere in particular.
-/

namespace TelemetryRelay

/-- Where a value was given. -/
inductive Origin where
  | unnamed
  | file (name : String)
  | environment
deriving DecidableEq, Repr

/-- How complaints name an origin. -/
def Origin.suffix : Origin -> String
  | unnamed => ""
  | file name => s!" in {name}"
  | environment => " in the environment"

/-- A value without parts. -/
inductive Scalar where
  | boolean (value : Bool)
  | integer (value : Int)
  | real (value : Float)
  | text (value : String)

/-- A value in a layer. -/
inductive Node where
  /-- No value: a gap in a sequence, or said to be none. -/
  | absent (origin : Origin)
  | scalar (value : Scalar) (origin : Origin)
  | sequence (items : List Node) (origin : Origin)
  | table (entries : List (String × Node)) (origin : Origin)

instance nodeInhabited : Inhabited Node :=
  ⟨.absent .unnamed⟩

namespace Node

def emptyTable : Node :=
  .table [] .unnamed

/-- The entry of a table; nothing else has entries. -/
def get? (node : Node) (key : String) : Option Node :=
  match node with
  | .table entries _ => entries.lookup key
  | _ => none

/-- Give a key of a table a value.  Anything but a table becomes one. -/
def put (node : Node) (key : String) (value : Node) : Node :=
  match node with
  | .table entries origin => .table (putEntry key value entries) origin
  | _ => .table [(key, value)] .unnamed

mutual

/-- Merge a value into the one that is there, if there is one. -/
def mergedInto (target : Option Node) : Node -> Node
  | .table entries _ => mergeEntries (target.getD emptyTable) entries
  | .absent origin => .absent origin
  | .scalar value origin => .scalar value origin
  | .sequence items origin => .sequence items origin

def mergeEntries (target : Node) : List (String × Node) -> Node
  | [] => target
  | (key, value) :: rest =>
      let name := Lowercase.ofText key
      mergeEntries (target.put name (mergedInto (target.get? name) value)) rest

end

mutual

/-- A value of a document, with its origin. -/
def ofDatum (origin : Origin) : Datum -> Node
  | .nothing => .absent origin
  | .boolean value => .scalar (.boolean value) origin
  | .integer value => .scalar (.integer value) origin
  | .real value => .scalar (.real value) origin
  | .text value => .scalar (.text value) origin
  | .list items => .sequence (ofItems origin items) origin
  | .table entries => .table (ofEntries origin entries) origin

def ofItems (origin : Origin) : List Datum -> List Node
  | [] => []
  | item :: rest => ofDatum origin item :: ofItems origin rest

def ofEntries (origin : Origin) : List (String × Datum) -> List (String × Node)
  | [] => []
  | (key, value) :: rest => (key, ofDatum origin value) :: ofEntries origin rest

end

end Node
end TelemetryRelay
