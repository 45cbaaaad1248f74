import TelemetryRelay.Text.Digit

/-!
# Universally unique identifiers

Sixteen bytes, written as 32 hexadecimal digits in five groups with hyphens
between them.  Reading also accepts the digits without hyphens, and the
groups in braces or behind `urn:uuid:`, with letters of either case.

A text that is none of these is reported by its length if no form is as long.
Else the first offending character is reported if there is one, and else the
number of groups or the first group of a wrong length.  What is examined is the
text inside braces or behind `urn:uuid:`, unless the whole is as long as an
identifier without them.
-/

namespace TelemetryRelay

/-- An identifier of 128 bits. -/
structure Uuid where
  bytes : List UInt8
  length_bytes : bytes.length = 16
deriving DecidableEq

namespace Uuid

inductive Fault where
  | character (found : Char) (index : Nat)
  | length (found : Nat)
  | groupCount (found : Nat)
  | groupLength (group expected found : Nat)
deriving DecidableEq, Repr

def groupLengths : List Nat :=
  [8, 4, 4, 4, 12]

def Fault.message : Fault -> String
  | character found index => s!"invalid character: found `{found}` at {index}"
  | length found => s!"invalid length: found {found}"
  | groupCount found => s!"invalid group count: expected {groupLengths.length}, found {found}"
  | groupLength group expected found =>
      s!"invalid group length in group {group}: expected {expected}, found {found}"

def byteDigits (byte : UInt8) : List Char :=
  [Nat.digitChar (byte.toNat / 16), Nat.digitChar (byte.toNat % 16)]

def text (id : Uuid) : String :=
  let digits := id.bytes.flatMap byteDigits
  String.ofList
    (digits.take 8 ++ '-' :: ((digits.drop 8).take 4 ++ '-' :: ((digits.drop 12).take 4 ++
      '-' :: ((digits.drop 16).take 4 ++ '-' :: digits.drop 20))))

/-- The bytes that pairs of digits stand for. -/
def ofDigits? : List Char -> Option (List UInt8)
  | [] => some []
  | [_] => none
  | high :: low :: rest =>
      match hexValue? high, hexValue? low, ofDigits? rest with
      | some upper, some lower, some bytes => some ((upper * 16 + lower).toUInt8 :: bytes)
      | _, _, _ => none

/-- The digits of five groups. -/
def ofGroups? (chars : List Char) : Option (List Char) :=
  if chars[8]? = some '-' ∧ chars[13]? = some '-' ∧ chars[18]? = some '-' ∧
      chars[23]? = some '-' then
    some (chars.take 8 ++ ((chars.drop 9).take 4 ++ ((chars.drop 14).take 4 ++
      ((chars.drop 19).take 4 ++ chars.drop 24))))
  else none

/-- What stands in front of the groups in one of their forms, with letters of
either case. -/
def resourceName : List Char :=
  "urn:uuid:".toList

/-- The text inside braces or behind the resource name, and where it begins. -/
def unwrapped? (chars : List Char) : Option (Nat × List Char) :=
  if chars.head? = some '\x7b' ∧ chars.getLast? = some '\x7d' ∧ 1 < chars.length then
    some (1, (chars.drop 1).dropLast)
  else if (chars.take resourceName.length).map Char.toLower = resourceName then
    some (resourceName.length, chars.drop resourceName.length)
  else none

def simpleLength : Nat :=
  32

def hyphenatedLength : Nat :=
  36

/-- The digits that a text of one of the accepted forms consists of. -/
def digits? (chars : List Char) : Option (List Char) :=
  if chars.length = simpleLength then some chars
  else if chars.length = hyphenatedLength then ofGroups? chars
  else
    match unwrapped? chars with
    | some (_, inner) => if inner.length = hyphenatedLength then ofGroups? inner else none
    | none => none

/-- The first character that is neither a digit nor a hyphen, with its place
in bytes. -/
def firstStranger (index : Nat) : List Char -> Option (Char × Nat)
  | [] => none
  | char :: rest =>
      if char = '-' ∨ (hexValue? char).isSome then firstStranger (index + char.utf8Size) rest
      else some (char, index)

def partLengths : List Char -> List Nat
  | [] => [0]
  | char :: rest =>
      if char = '-' then 0 :: partLengths rest
      else
        match partLengths rest with
        | [] => [1]
        | first :: later => (first + 1) :: later

def lastGroupStart : Nat :=
  24

def longestForm : Nat :=
  45

/-- The first group of a wrong length.  The last group is measured up to the
end of the text, a closing brace and all that stands in front of the groups
included. -/
def wrongGroup (length : Nat) (lengths : List Nat) : Fault :=
  let group := (groupLengths.zip lengths).findIdx fun pair => pair.1 != pair.2
  let expected := groupLengths.getD group 0
  if group + 1 < groupLengths.length then .groupLength group expected (lengths.getD group 0)
  else .groupLength (groupLengths.length - 1) (groupLengths.getLast?.getD 0) (length - lastGroupStart)

/-- Number of bytes in which characters are written. -/
def byteLength (chars : List Char) : Nat :=
  (chars.map Char.utf8Size).foldl (· + ·) 0

/-- What is wrong with the examined part of a text, which begins at a place of
it.  The length is reported of a text without hyphens that may be the digits
alone. -/
def diagnosePart (length : Nat) (mayBeSimple : Bool) (start : Nat) (part : List Char) : Fault :=
  match firstStranger start part with
  | some (found, index) => .character found index
  | none =>
      let lengths := partLengths part
      if lengths.length = 1 ∧ mayBeSimple then .length length
      else if lengths.length ≠ groupLengths.length then .groupCount lengths.length
      else wrongGroup length lengths

/-- What is wrong with a text that is no identifier.  Lengths and places are
counted in bytes; where the part inside braces or behind the resource name has
the length of the groups, it is reported on as if it stood alone. -/
def diagnose (text : String) : Fault :=
  let chars := text.toList
  let length := text.utf8ByteSize
  if longestForm < length then .length length
  else if length = simpleLength ∨ length = hyphenatedLength then diagnosePart length true 0 chars
  else
    match unwrapped? chars with
    | none => diagnosePart length true 0 chars
    | some (start, inner) =>
        if byteLength inner = hyphenatedLength then diagnosePart hyphenatedLength true 0 inner
        else diagnosePart length false start inner

def ofBytes? (bytes : List UInt8) : Option Uuid :=
  if length_bytes : bytes.length = 16 then some { bytes, length_bytes } else none

def ofText (text : String) : Except Fault Uuid :=
  match (digits? text.toList).bind fun digits => (ofDigits? digits).bind ofBytes? with
  | some id => .ok id
  | none => .error (diagnose text)

/-- The version that an identifier declares. -/
def version (id : Uuid) : Nat :=
  (id.bytes.getD 6 0).toNat / 16

/-- Declare an identifier made of random bytes as such: version 4, with the
usual two variant bits. -/
def ofRandom (bytes : List UInt8) (length_bytes : bytes.length = 16) : Uuid :=
  { bytes := (bytes.set 6 (0x40 ||| (bytes.getD 6 0 &&& 0x0F))).set 8
      (0x80 ||| (bytes.getD 8 0 &&& 0x3F))
    length_bytes := by simp [length_bytes] }

def zero : Uuid :=
  { bytes := List.replicate 16 0, length_bytes := List.length_replicate }

end Uuid
end TelemetryRelay
