import TelemetryRelay.Yaml.Node
import TelemetryRelay.Yaml.Tokens

/-!
# Documents

A line of three dashes begins a document and a line of three points ends one.
The first document needs no beginning unless directives stand in front of it.
Settings are one document, which is a table; if there is none, nothing is set.
-/

namespace TelemetryRelay
namespace Yaml

/-- Write all line ends in one way. -/
def withPlainLineEnds : List Char -> List Char
  | '\r' :: '\n' :: rest => '\n' :: withPlainLineEnds rest
  | '\r' :: rest => '\n' :: withPlainLineEnds rest
  | char :: rest => char :: withPlainLineEnds rest
  | [] => []

/-- The directives in front of a document, and what follows them.  The version
is stated once at most.  Of the handles only one that the last directive
explains has a meaning. -/
def directives (hasVersion : Bool) (meanings : List (String × String)) :
    List Token -> Option (List (String × String) × List Token)
  | .version :: rest => if hasVersion then none else directives true [] rest
  | .handle name meaning :: rest => directives hasVersion [(name, meaning)] rest
  | rest => some (meanings, rest)

/-- The beginning of a document: what handles stand for in it, and its tokens.
Behind directives a line of dashes has to begin it. -/
def opening (tokens : List Token) : Option (List (String × String) × List Token) :=
  match tokens with
  | .documentStart :: rest => some ([], rest)
  | .version :: _ | .handle _ _ :: _ =>
      match directives false [] tokens with
      | some (meanings, .documentStart :: rest) => some (meanings, rest)
      | _ => none
  | _ => some ([], tokens)

def valueOf? (tokens : List Token) : Option Node := do
  let (meanings, body) <- opening tokens
  let start : Reading := { tokens := body, meanings, names := [], values := [] }
  let (value, last) <- start.node (4 * body.length + 4) true false
  if last.tokens.all (· == .documentEnd) then return value else none

/-- Read a document.  It ends at the first character without a meaning. -/
def contentOf? (document : String) : Option (List (String × Datum)) := do
  let chars := (withPlainLineEnds document.toList).takeWhile (· != '\x00')
  match (<- tokensOf? chars).dropWhile (· == .documentEnd) with
  | [] => return []
  | tokens => (<- valueOf? tokens).bind Datum.entries?

end Yaml
end TelemetryRelay
