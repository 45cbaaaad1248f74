import TelemetryRelay.Datum
import TelemetryRelay.Text.Blank
import TelemetryRelay.Text.Digit

/-!
# Sections of keys and values

A document of lines `key = value`, a colon being as good as an equals sign,
with headers in brackets between them.  Lines before the first header belong to
the document itself.  A line that begins with a semicolon or a number sign is a
comment; nowhere else are there comments.  A backslash escapes a character
everywhere, quotes around the first part of a value let it run over lines, and
every value is a text.

A header that occurs again begins its section anew.
-/

namespace TelemetryRelay
namespace Ini

/-- What a text is in the middle of. -/
inductive Phase where
  | plain
  /-- Behind a backslash. -/
  | escaped
  /-- In the digits of a code point. -/
  | code (left value : Nat)

def escapedChar (char : Char) : Char :=
  match char with
  | '0' => '\x00'
  | 'a' => '\x07'
  | 'b' => '\x08'
  | 't' => '\t'
  | 'r' => '\r'
  | 'n' => '\n'
  | _ => char

/-- Read a text up to a character at which it ends.  The flag says whether it
may end with the document. -/
def readText (ends : Char -> Bool) (mayBreakOff : Bool) :
    Phase -> List Char -> Option (List Char × List Char)
  | .plain, [] => if mayBreakOff then some ([], []) else none
  | .escaped, [] => none
  | .code _ _, [] => none
  | .plain, char :: rest =>
      if ends char then some ([], char :: rest)
      else if char = '\\' then readText ends mayBreakOff .escaped rest
      else
        (readText ends mayBreakOff .plain rest).map fun (read, behind) => (char :: read, behind)
  | .escaped, char :: rest =>
      if char = 'x' then readText ends mayBreakOff (.code 4 0) rest
      else if char = '\n' then readText ends mayBreakOff .plain rest
      else
        (readText ends mayBreakOff .plain rest).map fun (read, behind) =>
          (escapedChar char :: read, behind)
  | .code left value, char :: rest =>
      match hexValue? char with
      | none => none
      | some digit =>
          let code := value * 16 + digit
          if 1 < left then readText ends mayBreakOff (.code (left - 1) code) rest
          else
            match charOfCode? code with
            | none => none
            | some meant =>
                (readText ends mayBreakOff .plain rest).map fun (read, behind) =>
                  (meant :: read, behind)

def trimmed (chars : List Char) : String :=
  String.ofList (dropBlanks (dropBlanks chars).reverse).reverse

/-- Skip blanks.  The flag says whether what follows begins a line. -/
def skipBlanks : (lineStart : Bool) -> List Char -> Bool × List Char
  | lineStart, [] => (lineStart, [])
  | lineStart, char :: rest =>
      if isBlank char then skipBlanks (char == '\n') rest else (lineStart, char :: rest)

def isLineEnd (char : Char) : Bool :=
  char == '\n' || char == '\r'

def restOfLine (chars : List Char) : Option (List Char × List Char) :=
  readText isLineEnd true .plain chars

/-- A value that begins with a part between quotes of the given kind, the first
already read, and goes on to the end of the line. -/
def quoted (quote : Char) (chars : List Char) : Option (List Char × List Char) := do
  let (inside, behind) <- readText (· == quote) false .plain chars
  let (after, behind) <- restOfLine (behind.drop 1)
  pure (inside ++ after, behind)

/-- The value behind an equals sign or colon. -/
def value (chars : List Char) : Option (String × List Char) :=
  let read :=
    match chars.dropWhile fun char => isBlank char && !isLineEnd char with
    | '"' :: rest => quoted '"' rest
    | '\'' :: rest => quoted '\'' rest
    | rest => restOfLine rest
  read.map fun (text, behind) => (trimmed text, behind)

/-- Give a key a value in the section that is current, if there is one. -/
def assign (current : Option String) (key value : String) (entries : List (String × Datum)) :
    List (String × Datum) :=
  match current with
  | none => putEntry key (.text value) entries
  | some name =>
      let held := ((entries.lookup name).bind Datum.entries?).getD []
      putEntry name (.table (putEntry key (.text value) held)) entries

/-- Read the rest of a document into the entries that are known. -/
def lines : Nat -> (lineStart : Bool) -> (current : Option String) -> List (String × Datum) ->
    List Char -> Option (List (String × Datum))
  | 0, _, _, _, _ => none
  | budget + 1, lineStart, current, entries, chars =>
      match skipBlanks lineStart chars with
      | (_, []) => some entries
      | (atStart, char :: rest) =>
          if char = ';' ∨ char = '#' then
            if atStart then
              lines budget true current entries ((rest.dropWhile (· != '\n')).drop 1)
            else none
          else if char = '[' then do
            let (read, behind) <- readText (· == ']') false .plain rest
            let name := trimmed read
            lines budget false (some name) (putEntry name (.table []) entries) (behind.drop 1)
          else do
            let (read, behind) <-
              readText (fun one => one == '=' || one == ':') false .plain (char :: rest)
            let key := trimmed read
            if key = "" then
              none
            else
              let (read, behind) <- value (behind.drop 1)
              lines budget false current (assign current key read entries) behind

def contentOf? (document : String) : Option (List (String × Datum)) :=
  lines (document.length + 1) true none [] document.toList

end Ini
end TelemetryRelay
