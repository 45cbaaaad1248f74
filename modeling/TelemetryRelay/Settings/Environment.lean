import TelemetryRelay.Decimal.Reading
import TelemetryRelay.Settings.Node
import TelemetryRelay.Text.Utf8

/-!
# Settings in the environment

A variable is a setting if its name begins with the name of the program and
two underscores; further pairs of underscores divide the rest of the name into
the steps of a path.  Its value is taken as a truth value or a number if it
spells one, and as a text otherwise.
-/

namespace TelemetryRelay
namespace Environment

/-- What the names of settings begin with, in small letters. -/
def marker : List Char :=
  "uart_telemetry__".toList

/-- Put a point in the place of each pair of underscores. -/
def pointed : List Char -> List Char
  | '_' :: '_' :: rest => '.' :: pointed rest
  | char :: rest => char :: pointed rest
  | [] => []

/-- The path that the name of a variable spells, if it is a setting. -/
def pathOfName? (name : String) : Option String :=
  let small := (Lowercase.ofText name).toList
  if marker.isPrefixOf small then some (String.ofList (pointed (small.drop marker.length)))
  else none

def scalarOfText (text : String) : Scalar :=
  let small := Lowercase.ofText text
  if small = "true" then .boolean true
  else if small = "false" then .boolean false
  else
    let fits (value : Int) : Bool := Int64.minValue.toInt ≤ value && value ≤ Int64.maxValue.toInt
    match (Decimal.integerOfText? text).filter fits with
    | some value => .integer value
    | none =>
        match Decimal.realOfText? text with
        | some value => .real value
        | none => .text text

def layer (environment : List (String × String)) : List (String × Node) :=
  environment.filterMap fun (name, value) =>
    (pathOfName? name).map fun path => (path, .scalar (scalarOfText value) .environment)

/-- The variables in a block that lists them as `name=value`, each ended by a
zero byte. -/
def variablesOfBlock (block : List UInt8) : List (String × String) :=
  ((block.splitOn 0).filter (· != [])).map fun assignment =>
    (Utf8.decodeLossy (assignment.takeWhile (· != 0x3D)),
      Utf8.decodeLossy ((assignment.dropWhile (· != 0x3D)).drop 1))

end Environment
end TelemetryRelay
