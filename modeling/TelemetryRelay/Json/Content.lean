import TelemetryRelay.Datum
import TelemetryRelay.Json.Reader
import TelemetryRelay.Text.Utf8

/-!
# The content of a document

A document as one notation of settings among others.  Whole numbers that do not
fit 64 bits with a sign become floating-point numbers.
-/

namespace TelemetryRelay
namespace Json

mutual

/-- What a value is. -/
def Value.content : Value -> Datum
  | .null => .nothing
  | .boolean value => .boolean value
  | .number (.whole value) => .ofWhole value
  | .number (.real value) => .real value
  | .text value => .text value
  | .array items => .list (itemsContent items)
  | .object members => .table (membersContent members)

def itemsContent : List Value -> List Datum
  | [] => []
  | item :: rest => item.content :: itemsContent rest

def membersContent : List (String × Value) -> List (String × Datum)
  | [] => []
  | (key, value) :: rest => (key, value.content) :: membersContent rest

end

def contentOf? (document : String) : Option (List (String × Datum)) := do
  (<- (parse (Utf8.encode document)).toOption).content.entries?

end Json
end TelemetryRelay
