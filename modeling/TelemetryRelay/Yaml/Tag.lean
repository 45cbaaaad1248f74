import TelemetryRelay.Text.Digit
import TelemetryRelay.Yaml.Cursor
import TelemetryRelay.Yaml.Token

/-!
# Tags and directives

A tag says what kind of value follows it.  It consists of a handle, which
stands for the beginning of a name, and the rest of the name, or it gives the
whole name between angles.  A directive in front of a document says what a
handle stands for, or names the version of the notation; others are skipped.
-/

namespace TelemetryRelay
namespace Yaml

/-! ## Names of tags -/

def isNameChar (char : Char) : Bool :=
  (isWordChar char && char != '_') || "#;/?:@&=+$,_.!~*'()[]%".toList.contains char

/-- Characters of names that do not stand between angles. -/
def isShortNameChar (char : Char) : Bool :=
  isNameChar char && !isBracket char && char != '!'

/-- Number of bytes in which a character is written whose first byte is given. -/
def widthOfLead? (lead : Nat) : Option Nat :=
  if lead < 0x80 then some 1
  else if 0xC0 ≤ lead ∧ lead < 0xE0 then some 2
  else if 0xE0 ≤ lead ∧ lead < 0xF0 then some 3
  else if 0xF0 ≤ lead ∧ lead < 0xF8 then some 4
  else none

/-- A byte behind a percent sign. -/
def escapedByte (cursor : Cursor) : Option (Nat × Cursor) :=
  match cursor.rest with
  | '%' :: digits => (hexNumber? 2 digits).map fun (byte, _) => (byte, cursor.advance 3)
  | _ => none

/-- Further bytes of a character, strung together behind the ones that are
known. -/
def trailingBytes (code : Nat) : (count : Nat) -> Cursor -> Option (Nat × Cursor)
  | 0, cursor => some (code, cursor)
  | count + 1, cursor => do
      let (byte, behind) <- escapedByte cursor
      if 0x80 ≤ byte ∧ byte < 0xC0 then trailingBytes (code * 0x100 + byte) count behind else none

/-- A character given by its bytes.  They are taken as one number. -/
def escapedNameChar (cursor : Cursor) : Option (Char × Cursor) := do
  let (lead, behind) <- escapedByte cursor
  let width <- widthOfLead? lead
  let (code, last) <- trailingBytes lead (width - 1) behind
  return (<- charOfCode? code, last)

/-- A character of a name, as itself or given by its bytes. -/
def nameChar (cursor : Cursor) : Option (Char × Cursor) :=
  match cursor.rest with
  | [] => none
  | '%' :: _ => escapedNameChar cursor
  | char :: _ => some (char, cursor.next)

/-- A name of characters of a class, which may be empty. -/
def nameOf (accepts : Char -> Bool) : (budget : Nat) -> Cursor -> Option (List Char × Cursor)
  | 0, _ => none
  | budget + 1, cursor =>
      if startsWith accepts cursor.rest then do
        let (char, behind) <- nameChar cursor
        let (later, last) <- nameOf accepts budget behind
        return (char :: later, last)
      else some ([], cursor)

/-- The characters of a class from here on as a name. -/
def name (accepts : Char -> Bool) (cursor : Cursor) : Option (List Char × Cursor) :=
  nameOf accepts (cursor.rest.length + 1) cursor

/-! ## Tags -/

/-- A handle: an exclamation mark, perhaps a word, and perhaps another mark. -/
def handle (cursor : Cursor) : Option (List Char × Cursor) :=
  match cursor.rest with
  | '!' :: _ =>
      let word := cursor.next.run isWordChar
      let behind := cursor.next.advance word.length
      if startsWith (· == '!') behind.rest then some ('!' :: (word ++ ['!']), behind.next)
      else some ('!' :: word, behind)
  | _ => none

def isClosed (handle : List Char) : Bool :=
  2 ≤ handle.length && handle.getLast? == some '!'

/-- The parts of a tag: its handle and the rest of its name. -/
def tagParts (cursor : Cursor) : Option ((List Char × List Char) × Cursor) :=
  match cursor.rest with
  | '!' :: '<' :: _ => do
      let (whole, behind) <- name isNameChar (cursor.advance 2)
      match behind.rest with
      | '>' :: _ => return (([], whole), behind.next)
      | _ => none
  | _ => do
      let (opening, afterHandle) <- handle cursor
      let (ending, behind) <- name isShortNameChar afterHandle
      if isClosed opening then
        if ending.isEmpty then none else return ((opening, ending), behind)
      else
        let whole := opening.drop 1 ++ ending
        return (if whole.isEmpty then ([], ['!']) else (['!'], whole), behind)

/-- A tag.  Nothing may be written close behind it but what sets out
collections in brackets. -/
def tag (inFlow : Bool) (cursor : Cursor) : Option (Token × Cursor) := do
  let ((opening, ending), behind) <- tagParts cursor
  if standsAlone behind.rest || (inFlow && startsWith isBracket behind.rest) then
    return (.tag (String.ofList opening) (String.ofList ending), behind)
  else
    none

/-! ## Directives -/

/-- A number of at most nine digits. -/
def versionNumber (cursor : Cursor) : Option Cursor :=
  let digits := cursor.run Char.isDigit
  if digits.isEmpty ∨ 9 < digits.length then none else some (cursor.advance digits.length)

def versionDirective (cursor : Cursor) : Option (Token × Cursor) := do
  let afterMajor <- versionNumber (cursor.skip isLineSpace)
  match afterMajor.rest with
  | '.' :: _ => return (.version, <- versionNumber afterMajor.next)
  | _ => none

/-- The beginning of names that a handle stands for. -/
def meaning (cursor : Cursor) : Option (List Char × Cursor) :=
  if startsWith (· == '!') cursor.rest then
    (name isNameChar cursor.next).map fun (later, last) => ('!' :: later, last)
  else if startsWith isShortNameChar cursor.rest then name isNameChar cursor
  else none

def handleDirective (cursor : Cursor) : Option (Token × Cursor) := do
  let (opening, afterHandle) <- handle (cursor.skip isLineSpace)
  if isClosed opening || opening == ['!'] then
    let (stated, behind) <- meaning (afterHandle.skip isLineSpace)
    if standsAlone behind.rest then
      return (.handle (String.ofList opening) (String.ofList stated), behind)
    else
      none
  else
    none

/-- A directive, from its percent sign to the end of the line. -/
def directive (cursor : Cursor) : Option (Token × Cursor) := do
  let word := cursor.next.run isWordChar
  let afterWord := cursor.next.advance word.length
  if word.isEmpty || !standsAlone afterWord.rest then
    none
  else
    let (token, behind) <-
      if word = "YAML".toList then versionDirective afterWord
      else if word = "TAG".toList then handleDirective afterWord
      else some (.handle "" "", afterWord.skip (· != '\n'))
    let lineEnd <- behind.skipInLine
    if endsLine lineEnd.rest then return (token, lineEnd.next) else none

end Yaml
end TelemetryRelay
