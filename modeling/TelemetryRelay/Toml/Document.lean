import TelemetryRelay.Toml.Reader

/-!
# Reading a document

A document is read line by line.  An assignment goes to the table that the
last header introduced, and before any header to the table that is the
document.  A document that breaks a rule has no value at all.
-/

namespace TelemetryRelay
namespace Toml

/-- Read an assignment up to its equals sign and value. -/
def assignment (chars : List Char) : Option (((List String × String) × Value) × List Char) := do
  let (route, afterKeys) <- keys chars
  let (read, rest) <- value nestingLimit (skipSpaces (<- expect '=' afterKeys))
  return ((route, read), rest)

/-- Read the lines of a document into the entries that earlier lines gave.
`current` leads to the table of the last header. -/
def lines : Nat -> (current : List String) -> Entries -> List Char -> Option Entries
  | 0, _, _, _ => none
  | budget + 1, current, entries, chars => do
      match skipSpaces chars with
      | [] => return entries
      | '[' :: '[' :: rest =>
          let ((path, key), afterKeys) <- keys rest
          let behind <- endLine (<- expect ']' (<- expect ']' afterKeys))
          lines budget (path ++ [key]) (<- appendTable path key entries) behind
      | '[' :: rest =>
          let ((path, key), afterKeys) <- keys rest
          let behind <- endLine (<- expect ']' afterKeys)
          lines budget (path ++ [key]) (<- openTable path key entries) behind
      | char :: rest =>
          if char = '#' ∨ char = '\n' ∨ char = '\r' then
            lines budget current entries (<- endLine (char :: rest))
          else
            let (((path, key), read), afterValue) <- assignment (char :: rest)
            let behind <- endLine afterValue
            lines budget current (<- assignWithin current path key read entries) behind

def dropMark : List Char -> List Char
  | '\uFEFF' :: rest => rest
  | chars => chars

def entriesOf (document : String) : Option Entries :=
  let chars := dropMark document.toList
  lines (chars.length + 1) [] [] chars

end Toml
end TelemetryRelay
