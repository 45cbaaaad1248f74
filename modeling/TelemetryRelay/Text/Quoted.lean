import TelemetryRelay.Text.Unprintable

/-!
# Quoted text

A message that cites a text puts it between double quotes.  Quotes,
backslashes and the common controls get a backslash; a character that would
not show by itself is spelled by its code point.  An apostrophe stays as it
is.
-/

namespace TelemetryRelay
namespace Quoted

/-- The code point of a character in lowercase hexadecimal, in braces. -/
def spelled (char : Char) : String :=
  "\\u\x7b" ++ String.ofList (Nat.toDigits 16 char.toNat) ++ "\x7d"

/-- One character as it stands between quotes. -/
def escape (char : Char) : String :=
  match char with
  | '\x00' => "\\0"
  | '\t' => "\\t"
  | '\r' => "\\r"
  | '\n' => "\\n"
  | '"' => "\\\""
  | '\\' => "\\\\"
  | _ => if Unprintable.isUnprintable char then spelled char else char.toString

def render (text : String) : String :=
  "\"" ++ String.join (text.toList.map escape) ++ "\""

end Quoted
end TelemetryRelay
