/-!
# What a window of bytes shows

A frame begins with an opening brace and ends with a closing one; between
them there is no other opening brace.  The last brace of each kind decides
what a window of bytes shows.  Nothing can be said without a closing brace.
An opening brace that is not in front makes everything before it garbage, even
if that is a complete frame.  A closing brace in a window that has no opening
one can never end a frame.
-/

namespace TelemetryRelay
namespace Window

def frameStart : UInt8 :=
  0x7B

def frameEnd : UInt8 :=
  0x7D

def lastIndex? (wanted : UInt8) : List UInt8 -> Option Nat
  | [] => none
  | byte :: rest =>
      match lastIndex? wanted rest with
      | some index => some (index + 1)
      | none => if byte = wanted then some 0 else none

inductive Finding where
  /-- No frame ends here. -/
  | noEnd
  /-- A frame may begin behind that many bytes of garbage. -/
  | garbage (length : Nat)
  /-- That many bytes end with a frame end that has no beginning. -/
  | orphanEnd (length : Nat)
  /-- A frame of that many bytes stands in front. -/
  | frame (length : Nat)
deriving DecidableEq, Repr

/-- Judge a window by its last frame start and its last frame end. -/
def inspect (window : List UInt8) : Finding :=
  match lastIndex? frameEnd window with
  | none => .noEnd
  | some stop =>
      match lastIndex? frameStart window with
      | none => .orphanEnd (stop + 1)
      | some 0 => .frame (stop + 1)
      | some start => .garbage start

end Window
end TelemetryRelay
