/-!
# Series of items

Items with commas between them, up to a closing bracket.  A comma may stand
behind the last item too.
-/

namespace TelemetryRelay

/-- Read the rest of a series.  `skip` leaves out what may stand around items
and commas. -/
def series {α : Type} (skip : List Char -> Option (List Char))
    (item : List Char -> Option (α × List Char)) (closing : Char) :
    (budget : Nat) -> List Char -> Option (List α × List Char)
  | 0, _ => none
  | budget + 1, chars =>
      match skip chars with
      | none | some [] => none
      | some (char :: rest) =>
          if char = closing then some ([], rest)
          else do
            let (head, afterHead) <- item (char :: rest)
            match <- skip afterHead with
            | ',' :: afterComma =>
                let (tail, behind) <- series skip item closing budget afterComma
                return (head :: tail, behind)
            | mark :: behind => if mark = closing then return ([head], behind) else none
            | [] => none

end TelemetryRelay
