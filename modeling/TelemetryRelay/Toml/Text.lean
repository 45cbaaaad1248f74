import TelemetryRelay.Text.Digit

/-!
# Texts in quotes

A text stands between double or single quotes, one of each or three.  Double
quotes allow escapes, three quotes allow line ends.  One machine reads all four
kinds: it looks at one character at a time and says what the text gains by it
and what may follow.

Of three and more quotes in a row the last three end the text, if there are at
most five.
-/

namespace TelemetryRelay
namespace Toml

/-- One of the four kinds of text. -/
structure Style where
  quote : Char
  escapes : Bool
  multiLine : Bool

/-- Characters that stand for themselves: tabs, and everything but controls. -/
def isPlain (char : Char) : Bool :=
  char == '\t' || (0x20 ≤ char.toNat && char.toNat ≠ 0x7F)

/-- What a text is in the middle of. -/
inductive Phase where
  | plain
  /-- Behind a backslash. -/
  | escaped
  /-- In the digits of a code point. -/
  | code (left value : Nat)
  /-- Behind a backslash that hides a line end; whether one has come. -/
  | hidden (ended : Bool)
  /-- Behind a carriage return, in hidden blanks or not. -/
  | carriage (hidden : Bool)
  /-- Behind quotes that may belong to the text or end it. -/
  | quotes (count : Nat)
  /-- Behind the closing quote. -/
  | closed

/-- What a character means for a text. -/
inductive Move where
  /-- The text has ended before it, with some last characters. -/
  | stop (gained : List Char)
  | goOn (gained : List Char) (next : Phase)
  | refuse

def escapedChar? (letter : Char) : Option Char :=
  match letter with
  | 'b' => some '\x08'
  | 't' => some '\t'
  | 'n' => some '\n'
  | 'f' => some '\x0C'
  | 'r' => some '\r'
  | '"' => some '"'
  | '\\' => some '\\'
  | _ => none

namespace Style

/-- A character that stands for itself or begins something. -/
def plainMove (style : Style) (char : Char) : Move :=
  if char = style.quote then .goOn [] (if style.multiLine then .quotes 1 else .closed)
  else if char = '\\' ∧ style.escapes then .goOn [] .escaped
  else if isPlain char then .goOn [char] .plain
  else if style.multiLine ∧ char = '\n' then .goOn ['\n'] .plain
  else if style.multiLine ∧ char = '\r' then .goOn [] (.carriage false)
  else .refuse

/-- Characters gained before another move. -/
def gainBefore (gained : List Char) : Move -> Move
  | .stop more => .stop (gained ++ more)
  | .goOn more next => .goOn (gained ++ more) next
  | .refuse => .refuse

/-- What a character means in a phase. -/
def move (style : Style) (phase : Phase) (char : Char) : Move :=
  match phase with
  | .plain => style.plainMove char
  | .escaped =>
      if char = 'u' then .goOn [] (.code 4 0)
      else if char = 'U' then .goOn [] (.code 8 0)
      else if style.multiLine ∧ (char = ' ' ∨ char = '\t') then .goOn [] (.hidden false)
      else if style.multiLine ∧ char = '\n' then .goOn [] (.hidden true)
      else if style.multiLine ∧ char = '\r' then .goOn [] (.carriage true)
      else
        match escapedChar? char with
        | some meant => .goOn [meant] .plain
        | none => .refuse
  | .code left value =>
      match hexValue? char with
      | none => .refuse
      | some digit =>
          let code := value * 16 + digit
          if 1 < left then .goOn [] (.code (left - 1) code)
          else
            match charOfCode? code with
            | some meant => .goOn [meant] .plain
            | none => .refuse
  | .hidden ended =>
      if char = ' ' ∨ char = '\t' then .goOn [] (.hidden ended)
      else if char = '\n' then .goOn [] (.hidden true)
      else if char = '\r' then .goOn [] (.carriage true)
      else if ended then style.plainMove char
      else .refuse
  | .carriage hidden =>
      if char = '\n' then
        if hidden then .goOn [] (.hidden true) else .goOn ['\n'] .plain
      else .refuse
  | .quotes count =>
      if char = style.quote ∧ count < 5 then .goOn [] (.quotes (count + 1))
      else if 3 ≤ count then .stop (List.replicate (count - 3) style.quote)
      else gainBefore (List.replicate count style.quote) (style.plainMove char)
  | .closed => .stop []

/-- Whether, and with which last characters, a text may end with the document. -/
def atEnd (style : Style) : Phase -> Option (List Char)
  | .quotes count =>
      if 3 ≤ count then some (List.replicate (count - 3) style.quote) else none
  | .closed => some []
  | _ => none

/-- Read a text from a phase on. -/
def read (style : Style) : Phase -> List Char -> Option (List Char × List Char)
  | phase, [] => (style.atEnd phase).map fun gained => (gained, [])
  | phase, char :: rest =>
      match style.move phase char with
      | .refuse => none
      | .stop gained => some (gained, char :: rest)
      | .goOn gained next =>
          (style.read next rest).map fun (later, behind) => (gained ++ later, behind)

end Style

def dropLineEnd : List Char -> List Char
  | '\n' :: rest => rest
  | '\r' :: '\n' :: rest => rest
  | chars => chars

/-- Read a text that stands between single instances of a quote. -/
def lineText (quote : Char) (chars : List Char) : Option (String × List Char) :=
  match chars with
  | [] => none
  | char :: rest =>
      if char = quote then
        (Style.read { quote, escapes := quote == '"', multiLine := false } .plain rest).map
          fun (read, behind) => (String.ofList read, behind)
      else none

/-- Read a text of either number of quotes.  A line end right behind three
opening quotes does not belong to it. -/
def anyText (quote : Char) (chars : List Char) : Option (String × List Char) :=
  if chars.take 3 = [quote, quote, quote] then
    (Style.read { quote, escapes := quote == '"', multiLine := true } .plain
      (dropLineEnd (chars.drop 3))).map fun (read, behind) => (String.ofList read, behind)
  else lineText quote chars

end Toml
end TelemetryRelay
