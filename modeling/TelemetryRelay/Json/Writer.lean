import TelemetryRelay.Json.Value
import TelemetryRelay.Decimal.Layout

/-!
# Writing a document

Documents are written without blanks.  A text escapes its quotes, its
backslashes and the characters below the space, the common ones of these by a
letter; every other character stands for itself.  A number that is not finite
has no form of its own and is written as null.
-/

namespace TelemetryRelay
namespace Json

def escapeChar (char : Char) : List Char :=
  match char with
  | '"' => ['\\', '"']
  | '\\' => ['\\', '\\']
  | '\x08' => ['\\', 'b']
  | '\x0C' => ['\\', 'f']
  | '\n' => ['\\', 'n']
  | '\r' => ['\\', 'r']
  | '\t' => ['\\', 't']
  | _ =>
      if char.toNat < 0x20 then
        ['\\', 'u', '0', '0', Nat.digitChar (char.toNat / 16), Nat.digitChar (char.toNat % 16)]
      else [char]

def renderText (text : String) : List Char :=
  '"' :: (text.toList.flatMap escapeChar ++ ['"'])

def Number.render : Number -> List Char
  | whole value => (toString value).toList
  | real value =>
      if value.isFinite then (Decimal.Layout.document.render value).toList else "null".toList

mutual

/-- A value without blanks. -/
def Value.renderChars : Value -> List Char
  | .null => "null".toList
  | .boolean value => (if value then "true" else "false").toList
  | .number value => value.render
  | .text value => renderText value
  | .array items => '[' :: (renderItems items ++ [']'])
  | .object members => '\x7b' :: (renderMembers members ++ ['\x7d'])

def renderItems : List Value -> List Char
  | [] => []
  | [item] => item.renderChars
  | item :: next :: rest => item.renderChars ++ ',' :: renderItems (next :: rest)

def renderMembers : List (String × Value) -> List Char
  | [] => []
  | [(key, value)] => renderText key ++ ':' :: value.renderChars
  | (key, value) :: next :: rest =>
      renderText key ++ ':' :: (value.renderChars ++ ',' :: renderMembers (next :: rest))

end

def Value.render (value : Value) : String :=
  String.ofList value.renderChars

end Json
end TelemetryRelay
