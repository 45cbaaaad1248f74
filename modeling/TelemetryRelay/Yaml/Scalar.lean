import TelemetryRelay.Datum
import TelemetryRelay.Decimal.Reading

/-!
# Values of plain texts

A plain text may spell a truth value, a number or nothing at all.  A tag of the
common kinds says which of these it has to spell.
-/

namespace TelemetryRelay
namespace Yaml

/-- A value; nothing if a text does not spell what its tag demands. -/
abbrev Node :=
  Option Datum

/-- A whole number of 64 bits with a sign, in a base. -/
def wholeOf? (base : Nat) (chars : List Char) : Option Datum := do
  let (negative, digits) := signPart chars
  let magnitude <- naturalInBase? base digits
  Datum.ofFitting? (if negative then -(magnitude : Int) else magnitude)

/-- The whole number that a text spells.  A sign may stand behind what names the
base, and behind a plus sign. -/
def spelledWhole? : List Char -> Option Datum
  | '0' :: 'x' :: digits => wholeOf? 16 digits
  | '0' :: 'o' :: digits => wholeOf? 8 digits
  | '+' :: digits => wholeOf? 10 digits
  | chars => wholeOf? 10 chars

/-- Whether a text is a dotted word for infinity or for no number. -/
def isDotted (spelled : String) : Bool :=
  [".inf", ".Inf", ".INF", "+.inf", "+.Inf", "+.INF", "-.inf", "-.Inf", "-.INF", ".nan",
    ".NAN"].contains spelled

def isNothing (spelled : String) : Bool :=
  spelled == "~" || spelled == "null"

def truthOf? : String -> Option Bool
  | "true" => some true
  | "false" => some false
  | _ => none

/-- What a plain text spells.  Dotted words are numbers that cannot be read. -/
def resolved (chars : List Char) : Option Datum :=
  let spelled := String.ofList chars
  if isNothing spelled then some .nothing
  else
    match truthOf? spelled with
    | some value => some (.boolean value)
    | none =>
        match spelledWhole? chars with
        | some value => some value
        | none =>
            if isDotted spelled then none
            else
              match Decimal.realOfText? spelled with
              | some value => some (.real value)
              | none => some (.text spelled)

/-- The beginning of the names of the common kinds. -/
def commonKinds : String :=
  "tag:yaml.org,2002:"

/-- What a plain text with a tag spells.  Only the common kinds make demands. -/
def demanded (beginning ending : String) (chars : List Char) : Option Node :=
  let spelled := String.ofList chars
  if beginning ≠ commonKinds then some (some (.text spelled))
  else
    match ending with
    | "bool" => some ((truthOf? spelled).map .boolean)
    | "int" => some (wholeOf? 10 chars)
    | "float" => if isDotted spelled then none else some ((Decimal.realOfText? spelled).map .real)
    | "null" => some (if isNothing spelled then some .nothing else none)
    | _ => some (some (.text spelled))

end Yaml
end TelemetryRelay
