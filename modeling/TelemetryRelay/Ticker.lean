/-!
# Tickers

A ticker becomes due at regular times.  It is served when the loop gets round
to it, which may be later.  A small delay does not shift the schedule; after a
longer one the schedule starts afresh from the time of service.  Times are in
milliseconds.
-/

namespace TelemetryRelay

/-- A time at which something is due, and the regular distance to the next
one. -/
structure Ticker where
  due : Nat
  period : Nat
  period_positive : 0 < period

namespace Ticker

/-- A delay up to this long leaves the schedule as it is. -/
def tolerance : Nat :=
  5

def isDue (ticker : Ticker) (now : Nat) : Bool :=
  ticker.due ≤ now

def serve (ticker : Ticker) (now : Nat) : Ticker :=
  { ticker with
    due := if tolerance < now - ticker.due then now + ticker.period
      else ticker.due + ticker.period }

/-- Serving a due ticker moves it to a later time. -/
theorem due_lt_serve_due (ticker : Ticker) (now : Nat) (due : ticker.due ≤ now) :
    ticker.due < (ticker.serve now).due := by
  have positive := ticker.period_positive
  simp only [serve]
  split <;> omega

end Ticker
end TelemetryRelay
