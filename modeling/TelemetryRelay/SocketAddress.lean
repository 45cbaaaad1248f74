import TelemetryRelay.Text.Digit
import TelemetryRelay.Text.Scan

/-!
# Socket addresses

An address of version 4 is four decimal bytes; one of version 6 is eight
hexadecimal groups, in brackets, with an optional numeric scope.  Both end
with a port.  A version 6 address may leave out one run of zero groups, and
its last two groups may be written like a version 4 address.

Writing leaves out the longest run of at least two zero groups, the first one
if there are several, and writes mapped version 4 addresses as such.
-/

namespace TelemetryRelay

inductive SocketAddress where
  | v4 (octets : List Nat) (port : Nat)
  | v6 (groups : List Nat) (scope port : Nat)
deriving DecidableEq, Repr

namespace SocketAddress

/-- A number below a bound, with at most `width` digits if a width is given. -/
def number (base bound : Nat) (width : Option Nat) (leadingZero : Bool)
    (chars : List Char) : Option (Nat × List Char) :=
  let digits := chars.takeWhile (isDigitInBase base)
  let value := valueInBase base digits
  let tooWide : Bool := (width.map fun most => decide (most < digits.length)).getD false
  let padded : Bool := 1 < digits.length && digits.head? == some '0'
  if digits.isEmpty || bound ≤ value || tooWide || (padded && !leadingZero) then none
  else some (value, chars.dropWhile (isDigitInBase base))

/-- One byte of a version 4 address, without leading zeros. -/
def octet (chars : List Char) : Option (Nat × List Char) :=
  number 10 256 (some 3) false chars

/-- Four bytes with points between them. -/
def fourOctets (chars : List Char) : Option (List Nat × List Char) := do
  let (first, rest) <- octet chars
  let (second, rest) <- octet (<- expect '.' rest)
  let (third, rest) <- octet (<- expect '.' rest)
  let (fourth, rest) <- octet (<- expect '.' rest)
  return ([first, second, third, fourth], rest)

/-- What separates a group from the one before it; nothing before the first. -/
def separated (first : Bool) (chars : List Char) : Option (List Char) :=
  if first then some chars else expect ':' chars

/-- Read up to `limit` groups.  Four bytes count as two groups and end the
sequence; the flag says that it ended so. -/
def readGroups : (limit : Nat) -> (first : Bool) -> List Char -> List Nat × Bool × List Char
  | 0, _, chars => ([], false, chars)
  | limit + 1, first, chars =>
      let embedded := if 0 < limit then separated first chars >>= fourOctets else none
      match embedded with
      | some (octets, rest) =>
          let pairs :=
            match octets with
            | [a, b, c, d] => [a * 256 + b, c * 256 + d]
            | _ => []
          (pairs, true, rest)
      | none =>
          match separated first chars >>= number 16 65536 (some 4) true with
          | none => ([], false, chars)
          | some (group, rest) =>
              let (groups, bytes, last) := readGroups limit false rest
              (group :: groups, bytes, last)

def eightGroups (chars : List Char) : Option (List Nat × List Char) := do
  let (front, bytes, rest) := readGroups 8 true chars
  if front.length = 8 then
    return (front, rest)
  else if bytes then
    none
  else
    let rest <- expect ':' (<- expect ':' rest)
    let (back, _, rest) := readGroups (7 - front.length) true rest
    return (front ++ List.replicate (8 - front.length - back.length) 0 ++ back, rest)

def portPart (chars : List Char) : Option (Nat × List Char) := do
  number 10 65536 none true (<- expect ':' chars)

def readV4 (chars : List Char) : Option (SocketAddress × List Char) := do
  let (octets, rest) <- fourOctets chars
  let (port, rest) <- portPart rest
  return (.v4 octets port, rest)

/-- A scope, if there is one. -/
def scopePart (chars : List Char) : Option (Nat × List Char) :=
  match expect '%' chars with
  | none => some (0, chars)
  | some rest => number 10 UInt32.size none true rest

def readV6 (chars : List Char) : Option (SocketAddress × List Char) := do
  let (groups, rest) <- eightGroups (<- expect '[' chars)
  let (scope, rest) <- scopePart rest
  let (port, rest) <- portPart (<- expect ']' rest)
  return (.v6 groups scope port, rest)

/-- The address that a text spells completely. -/
def ofText? (text : String) : Option SocketAddress :=
  match readV4 text.toList with
  | some (address, rest) => if rest.isEmpty then some address else none
  | none =>
      match readV6 text.toList with
      | some (address, rest) => if rest.isEmpty then some address else none
      | none => none

/-! ## Writing -/

def octetText (octets : List Nat) : String :=
  String.intercalate "." (octets.map toString)

def groupText (groups : List Nat) : String :=
  String.intercalate ":" (groups.map fun group => String.ofList (Nat.toDigits 16 group))

/-- Number of zeros in front. -/
def zeroPrefix (groups : List Nat) : Nat :=
  (groups.takeWhile (· = 0)).length

/-- Start and length of the longest run of zeros, the first one of several.
`index` is the number of groups already passed. -/
def longestZeroRun (index : Nat) : List Nat -> Nat × Nat
  | [] => (index, 0)
  | group :: rest =>
      let here := zeroPrefix (group :: rest)
      let later := longestZeroRun (index + 1) rest
      if later.2 ≤ here then (index, here) else later

def addressText (groups : List Nat) : String :=
  match groups with
  | [0, 0, 0, 0, 0, 0xFFFF, high, low] =>
      "::ffff:" ++ octetText [high / 256, high % 256, low / 256, low % 256]
  | _ =>
      let (start, length) := longestZeroRun 0 groups
      if 1 < length then
        groupText (groups.take start) ++ "::" ++ groupText (groups.drop (start + length))
      else groupText groups

def text : SocketAddress -> String
  | v4 octets port => s!"{octetText octets}:{port}"
  | v6 groups scope port =>
      let suffix := if scope = 0 then "" else s!"%{scope}"
      s!"[{addressText groups}{suffix}]:{port}"

end SocketAddress
end TelemetryRelay
