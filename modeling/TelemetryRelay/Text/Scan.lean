/-!
# Taking a text apart

What the readers of several forms have in common: a character that has to come
next, a sign that may come next, and the blanks within a line.
-/

namespace TelemetryRelay

def expect (wanted : Char) : List Char -> Option (List Char)
  | [] => none
  | char :: rest => if char = wanted then some rest else none

/-- A sign, if there is one, as whether it is a minus sign. -/
def signPart : List Char -> Bool × List Char
  | '+' :: rest => (false, rest)
  | '-' :: rest => (true, rest)
  | chars => (false, chars)

def isLineSpace (char : Char) : Bool :=
  char == ' ' || char == '\t'

/-- Leave out spaces and tabs. -/
def skipSpaces (chars : List Char) : List Char :=
  chars.dropWhile isLineSpace

/-- Characters of words: ASCII letters, digits, the underscore and the hyphen. -/
def isWordChar (char : Char) : Bool :=
  char.isAlphanum || char == '_' || char == '-'

end TelemetryRelay
