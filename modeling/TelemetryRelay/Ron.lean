import TelemetryRelay.Datum
import TelemetryRelay.Decimal.Reading
import TelemetryRelay.Text.Series

/-!
# Object notation with named fields

Values are written like expressions of a program: structures with or without a
name and with fields in parentheses, tuples, lists in brackets, maps in braces,
optional values, characters, texts in double quotes, and raw texts in which
nothing is escaped.  Comments reach to the end of a line or stand between
slashes and stars, one inside another if need be.

A structure is a table, a tuple is a list, and a name without fields is
nothing.  Values may be nested so deep and no deeper.

In front of the value a document may enable extensions of the notation.
-/

namespace TelemetryRelay
namespace Ron

/-! ## Blanks and comments -/

def isSpace (char : Char) : Bool :=
  char == ' ' || char == '\t' || char == '\n' || char == '\r'

/-- What stands between values. -/
inductive Filler where
  | blank
  /-- Behind a first slash. -/
  | slash
  /-- In a comment up to the end of the line. -/
  | line
  /-- In comments between slashes and stars, so many of them open. -/
  | block (opened : Nat)
  /-- Behind a star that may end such a comment. -/
  | star (opened : Nat)
  /-- Behind a slash that may begin another one. -/
  | blockSlash (opened : Nat)

/-- Skip blanks and comments.  A comment that needs an end has to have one. -/
def skipFiller : Filler -> List Char -> Option (List Char)
  | .blank, [] => some []
  | .line, [] => some []
  | .slash, [] => none
  | .block _, [] => none
  | .star _, [] => none
  | .blockSlash _, [] => none
  | .blank, char :: rest =>
      if char = '/' then skipFiller .slash rest
      else if isSpace char then skipFiller .blank rest
      else some (char :: rest)
  | .slash, char :: rest =>
      if char = '/' then skipFiller .line rest
      else if char = '*' then skipFiller (.block 1) rest
      else none
  | .line, char :: rest => skipFiller (if char = '\n' then .blank else .line) rest
  | .block opened, char :: rest =>
      skipFiller
        (if char = '*' then .star opened
        else if char = '/' then .blockSlash opened
        else .block opened) rest
  | .star opened, char :: rest =>
      skipFiller
        (if char = '/' then (if opened ≤ 1 then .blank else .block (opened - 1))
        else if char = '*' then .star opened
        else .block opened) rest
  | .blockSlash opened, char :: rest =>
      skipFiller
        (if char = '*' then .block (opened + 1)
        else if char = '/' then .blockSlash opened
        else .block opened) rest

/-! ## Names -/

def beginsName (char : Char) : Bool :=
  char.isAlpha || char == '_'

def isNameChar (char : Char) : Bool :=
  char.isAlphanum || char == '_'

def isRawNameChar (char : Char) : Bool :=
  isNameChar char || char == '.' || char == '+' || char == '-'

/-- A name, and what follows it.  Behind `r#` it may begin with any of its
characters; one that only such a name can have may not follow another name.  An
`r` in front of a raw text is no name. -/
def name? (chars : List Char) : Option (String × List Char) :=
  match chars with
  | ['r'] => none
  | 'r' :: '"' :: _ => none
  | 'r' :: '#' :: rest =>
      let read := rest.takeWhile isRawNameChar
      if read.isEmpty then none else some (String.ofList read, rest.dropWhile isRawNameChar)
  | char :: _ =>
      let rest := chars.dropWhile isNameChar
      if beginsName char && !(rest.head?.map isRawNameChar).getD false then
        some (String.ofList (chars.takeWhile isNameChar), rest)
      else none
  | [] => none

/-! ## Texts and characters -/

/-- The character of one to six hexadecimal digits between braces. -/
def codePoint (chars : List Char) : Option (Char × List Char) :=
  match chars with
  | '\x7b' :: rest => do
      let digits := (rest.takeWhile (· != '\x7d')).take 6
      let (code, behind) <- hexNumber? digits.length rest
      match behind with
      | '\x7d' :: last => return (<- charOfCode? code, last)
      | _ => none
  | _ => none

def escape (chars : List Char) : Option (Char × List Char) :=
  match chars with
  | [] => none
  | char :: rest =>
      match char with
      | '"' | '\'' | '\\' => some (char, rest)
      | 'n' => some ('\n', rest)
      | 'r' => some ('\r', rest)
      | 't' => some ('\t', rest)
      | '0' => some ('\x00', rest)
      | 'x' => (hexNumber? 2 rest).map fun (code, behind) => (Char.ofNat code, behind)
      | 'u' => codePoint rest
      | _ => none

/-- The rest of a text up to its closing quote. -/
def textBehind : (budget : Nat) -> List Char -> Option (List Char × List Char)
  | _, [] => none
  | 0, _ => none
  | budget + 1, char :: rest =>
      if char = '"' then some ([], rest)
      else do
        let (gained, behind) <- if char = '\\' then escape rest else some (char, rest)
        let (later, last) <- textBehind budget behind
        return (gained :: later, last)

/-- The rest of a raw text, up to a quote with the closing marks behind it. -/
def rawBehind (marks : List Char) : List Char -> Option (List Char × List Char)
  | [] => none
  | char :: rest =>
      if char = '"' ∧ marks.isPrefixOf rest then some ([], rest.drop marks.length)
      else (rawBehind marks rest).map fun (later, last) => (char :: later, last)

/-- A text in quotes, raw or not. -/
def text (chars : List Char) : Option (String × List Char) :=
  let read :=
    match chars with
    | '"' :: rest => textBehind (rest.length + 1) rest
    | 'r' :: rest =>
        let marks := rest.takeWhile (· == '#')
        match rest.dropWhile (· == '#') with
        | '"' :: behind => rawBehind marks behind
        | _ => none
    | _ => none
  read.map fun (gained, rest) => (String.ofList gained, rest)

def character (chars : List Char) : Option (Char × List Char) := do
  let (meant, behind) <-
    match chars with
    | [] => none
    | '\'' :: _ => none
    | '\\' :: rest => escape rest
    | char :: rest => some (char, rest)
  match behind with
  | '\'' :: last => return (meant, last)
  | _ => none

/-! ## Numbers -/

def isWholeChar (char : Char) : Bool :=
  (hexValue? char).isSome || char == '_'

def isRealChar (char : Char) : Bool :=
  char.isDigit || char == '.' || char == 'e' || char == 'E' || char == '+' || char == '-' ||
    char == '_'

/-- The base that the beginning of a number names, and the digits. -/
def baseOf : List Char -> Nat × List Char
  | '0' :: 'x' :: rest => (16, rest)
  | '0' :: 'o' :: rest => (8, rest)
  | '0' :: 'b' :: rest => (2, rest)
  | chars => (10, chars)

/-- The natural number that digits stand for, underscores left out. -/
def naturalOf? (base : Nat) (digits : List Char) : Option Nat :=
  if digits.head? == some '_' then none else naturalInBase? base (digits.filter (· != '_'))

/-- A whole number.  Without a sign it may need 64 bits; with one it has to fit
64 bits together with its sign. -/
def whole (chars : List Char) : Option (Datum × List Char) := do
  let (negative, unsigned) := signPart chars
  let (base, start) := baseOf unsigned
  let magnitude <- naturalOf? base (start.takeWhile isWholeChar)
  let rest := start.dropWhile isWholeChar
  if unsigned.length < chars.length then
    return (<- Datum.ofFitting? (if negative then -(magnitude : Int) else magnitude), rest)
  else if magnitude < UInt64.size then
    return (.ofWhole magnitude, rest)
  else
    none

/-- A word for infinity or for no number, with a sign or not. -/
def unlimited? (chars : List Char) : Option (Float × List Char) :=
  let (negative, unsigned) := signPart chars
  let rest := unsigned.dropWhile isNameChar
  match String.ofList (unsigned.takeWhile isNameChar) with
  | "inf" => some (if negative then -1.0 / 0.0 else 1.0 / 0.0, rest)
  | "NaN" => some (0.0 / 0.0, rest)
  | _ => none

/-- A floating-point number.  There are no underscores in it. -/
def real (chars : List Char) : Option (Datum × List Char) :=
  match unlimited? chars with
  | some (value, rest) => some (.real value, rest)
  | none =>
      (Decimal.realOfText? (String.ofList (chars.takeWhile isRealChar))).map fun value =>
        (.real value, chars.dropWhile isRealChar)

/-- A number.  It is a floating-point one if it has more characters as such than
as a whole number, or if it is no whole number. -/
def number (chars : List Char) : Option (Datum × List Char) :=
  let unsigned := (signPart chars).2
  if (unsigned.takeWhile isWholeChar).length < (unsigned.takeWhile isRealChar).length then
    real chars
  else
    match whole chars with
    | some read => some read
    | none => real chars

/-! ## Values -/

/-- A mark that stands between two values, with blanks and comments around it. -/
def expectMark (mark : Char) (chars : List Char) : Option (List Char) := do
  match <- skipFiller .blank chars with
  | [] => none
  | char :: rest => if char = mark then skipFiller .blank rest else none

abbrev Reader := List Char -> Option (Datum × List Char)

def field (item : Reader) (chars : List Char) : Option ((String × Datum) × List Char) := do
  let (key, afterKey) <- name? chars
  let (value, behind) <- item (<- expectMark ':' afterKey)
  return ((key, value), behind)

def word (chars : List Char) : String :=
  String.ofList (chars.takeWhile isNameChar)

/-- A key and a value of a map.  Keys are texts or characters, and not optional
ones. -/
def pair (item : Reader) (chars : List Char) : Option ((String × Datum) × List Char) := do
  let (key, afterKey) <- item chars
  let (value, behind) <- item (<- expectMark ':' afterKey)
  match key with
  | .text name => if word chars = "Some" then none else return ((name, value), behind)
  | _ => none

/-- Whether fields follow an opening parenthesis. -/
def beginsField (chars : List Char) : Bool :=
  match skipFiller .blank chars with
  | none => false
  | some start =>
      match name? start with
      | none => false
      | some (_, afterName) => (skipFiller .blank afterName).bind (·.head?) == some ':'

/-- A structure or tuple, its opening parenthesis already read. -/
def structure? (item : Reader) : Reader := fun chars =>
  if beginsField chars then
    (series (skipFiller .blank) (field item) ')' (chars.length + 1) chars).map
      fun (members, behind) => (.ofMembers members, behind)
  else
    (series (skipFiller .blank) item ')' (chars.length + 1) chars).map
      fun (items, behind) => (.list items, behind)

/-- Extensions of the notation that a document can enable.  A third one is
known, but makes no difference to what a document holds. -/
structure Extensions where
  /-- `Some` may stand in front of a value without parentheses. -/
  implicitSome : Bool
  /-- The parentheses behind `Some` are those of a structure or tuple. -/
  unwrapsVariants : Bool

/-- What reads the values inside of another one: those of a structure, tuple,
list or map, the value of an optional one, and a structure or tuple in its
place. -/
structure Inside where
  item : Reader
  content : Reader
  unwrapped : Reader

/-- The optional value behind an opening parenthesis. -/
def present (content : Reader) (chars : List Char) : Option (Datum × List Char) := do
  let (value, afterValue) <- content (<- skipFiller .blank chars)
  match <- skipFiller .blank afterValue with
  | ',' :: rest =>
      match <- skipFiller .blank rest with
      | ')' :: behind => return (value, behind)
      | _ => none
  | ')' :: behind => return (value, behind)
  | _ => none

/-- What follows `Some`. -/
def optional (extensions : Extensions) (inside : Inside) (chars : List Char) :
    Option (Datum × List Char) := do
  match <- skipFiller .blank chars with
  | '(' :: rest =>
      if extensions.unwrapsVariants then inside.unwrapped rest else present inside.content rest
  | rest => if extensions.implicitSome then inside.content rest else none

/-- A value that begins with a bracket or an opening parenthesis. -/
def collection (item : Reader) (chars : List Char) : Option (Datum × List Char) :=
  match chars with
  | '(' :: rest => structure? item rest
  | '[' :: rest =>
      (series (skipFiller .blank) item ']' chars.length rest).map
        fun (items, behind) => (.list items, behind)
  | '\x7b' :: rest =>
      (series (skipFiller .blank) (pair item) '\x7d' chars.length rest).map
        fun (members, behind) => (.ofMembers members, behind)
  | _ => none

/-- A value in which no other one is nested, of those that do not begin with a
name. -/
def single (chars : List Char) : Option (Datum × List Char) :=
  match chars with
  | '"' :: _ => (text chars).map fun (read, behind) => (.text read, behind)
  | 'r' :: _ => (text chars).map fun (read, behind) => (.text read, behind)
  | '\'' :: rest =>
      (character rest).map fun (read, behind) => (.text (String.singleton read), behind)
  | _ => number chars

/-- A value.  Without anything to read the values inside of it, it can hold
none. -/
def valueWith (extensions : Extensions) (inside : Option Inside) (chars : List Char) :
    Option (Datum × List Char) :=
  let rest := chars.dropWhile isNameChar
  match word chars with
  | "true" => some (.boolean true, rest)
  | "false" => some (.boolean false, rest)
  | "None" => some (.nothing, rest)
  | "inf" => some (.real (1.0 / 0.0), rest)
  | "NaN" => some (.real (0.0 / 0.0), rest)
  | "Some" => inside.bind fun readers => optional extensions readers rest
  | _ =>
      match name? chars with
      | some (_, afterName) =>
          match skipFiller .blank afterName with
          | none => none
          | some ('(' :: behind) => inside.bind fun readers => structure? readers.item behind
          | some behind => some (.nothing, behind)
      | none =>
          match chars with
          | '(' :: ')' :: behind => some (.nothing, behind)
          | '(' :: _ | '[' :: _ | '\x7b' :: _ =>
              inside.bind fun readers => collection readers.item chars
          | _ => single chars

mutual

/-- A value in which others may be nested so deep.  A collection counts as a
level, and so does each value in it. -/
def value (extensions : Extensions) : (depth : Nat) -> Reader
  | 0 => valueWith extensions none
  | depth + 1 =>
      valueWith extensions
        (some
          { item := item extensions depth
            content := value extensions depth
            unwrapped := unwrapped extensions depth })

/-- A value inside a collection. -/
def item (extensions : Extensions) : (depth : Nat) -> Reader
  | 0 => fun _ => none
  | depth + 1 => value extensions depth

/-- A structure or tuple inside an optional value, its opening parenthesis
already read. -/
def unwrapped (extensions : Extensions) : (depth : Nat) -> Reader
  | 0 => fun _ => none
  | depth + 1 => structure? (item extensions depth)

end

/-! ## Documents -/

/-- Enable the extension of a name, if there is one. -/
def Extensions.enable (extensions : Extensions) : String -> Option Extensions
  | "unwrap_newtypes" => some extensions
  | "implicit_some" => some { extensions with implicitSome := true }
  | "unwrap_variant_newtypes" => some { extensions with unwrapsVariants := true }
  | _ => none

/-- Marks that stand one behind the other, with blanks and comments behind
each. -/
def marks (expected : List (List Char)) (chars : List Char) : Option (List Char) :=
  expected.foldlM
    (fun rest mark =>
      if mark.isPrefixOf rest then skipFiller .blank (rest.drop mark.length) else none)
    chars

/-- The rest of the names of extensions, up to what closes the attribute.  A
comma may stand behind the last one. -/
def extensionNames : (budget : Nat) -> Extensions -> List Char -> Option (Extensions × List Char)
  | 0, _, _ => none
  | budget + 1, extensions, chars => do
      let (name, afterName) <- name? chars
      let enabled <- extensions.enable name
      let closing := [[')'], [']']]
      match <- skipFiller .blank afterName with
      | ',' :: rest =>
          let next <- skipFiller .blank rest
          if (next.head?.map isNameChar).getD false then extensionNames budget enabled next
          else return (enabled, <- marks closing next)
      | rest => return (enabled, <- marks closing rest)

/-- The attributes at the beginning of a document, and what follows them. -/
def attributes : (budget : Nat) -> Extensions -> List Char -> Option (Extensions × List Char)
  | budget + 1, extensions, '#' :: rest => do
      let opening := [['!'], ['['], "enable".toList, ['(']]
      let (enabled, behind) <-
        extensionNames rest.length extensions (<- marks opening (<- skipFiller .blank rest))
      attributes budget enabled behind
  | _, extensions, chars => some (extensions, chars)

/-- How deep values may be nested in a document. -/
def depthLimit : Nat :=
  128

def contentOf? (document : String) : Option (List (String × Datum)) := do
  let chars <- skipFiller .blank document.toList
  let (extensions, start) <-
    attributes chars.length { implicitSome := false, unwrapsVariants := false } chars
  let (read, rest) <- value extensions depthLimit start
  match <- skipFiller .blank rest with
  | [] => read.entries?
  | _ => none

end Ron
end TelemetryRelay
