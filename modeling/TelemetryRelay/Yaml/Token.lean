/-!
# Tokens of a document

What a document consists of once indentation has been accounted for: where
collections begin and end is said by tokens of their own, and a key is
announced in front of it.
-/

namespace TelemetryRelay
namespace Yaml

inductive Token where
  /-- A directive that names the version of the notation. -/
  | version
  /-- A directive that gives a handle of tags its meaning, or one that is not
  known and gives none. -/
  | handle (name meaning : String)
  | documentStart
  | documentEnd
  | blockListStart
  | blockTableStart
  | blockEnd
  /-- The dash in front of an element. -/
  | item
  | key
  | value
  | flowListStart
  | flowListEnd
  | flowTableStart
  | flowTableEnd
  | comma
  | anchor (name : String)
  | alias (name : String)
  | tag (handle ending : String)
  /-- A text, and whether it stands without quotes and may spell a value of
  another kind. -/
  | text (isPlain : Bool) (content : List Char)
deriving DecidableEq

end Yaml
end TelemetryRelay
