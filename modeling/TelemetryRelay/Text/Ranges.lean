/-!
# Ranges of code points

Classes of characters are given as ascending ranges of code points that do not
touch, first and last code point included.
-/

namespace TelemetryRelay

/-- Whether some range covers the number.  The ranges ascend, so that the
search ends at the first one that begins behind it. -/
def covers (number : Nat) : List (Nat × Nat) -> Bool
  | [] => false
  | (first, last) :: rest =>
      if number < first then false else number ≤ last || covers number rest

end TelemetryRelay
