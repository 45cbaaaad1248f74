import TelemetryRelay.Decimal.Reading

/-!
# Severities

Every line of the journal has a severity.  The settings name the least severe
one that is wanted, either by its name in any case or by its rank, counted
from the most severe.
-/

namespace TelemetryRelay

/-- How much attention a journal line asks for. -/
inductive Severity where
  | trace
  | debug
  | info
  | warn
  | error
deriving DecidableEq, Repr

namespace Severity

/-- The name of a severity, in capitals. -/
def name : Severity -> String
  | trace => "TRACE"
  | debug => "DEBUG"
  | info => "INFO"
  | warn => "WARN"
  | error => "ERROR"

/-- All severities, the most severe first, so that the one of rank `n` stands
at index `n - 1`. -/
def byRank : List Severity :=
  [error, warn, info, debug, trace]

/-- The severity that a text names.  Only the letters A to Z have a case. -/
def ofText? (text : String) : Option Severity :=
  match Decimal.naturalOfText? text with
  | some rank => if rank = 0 then none else byRank[rank - 1]?
  | none => byRank.find? fun severity => severity.name == text.toUpper

/-- Whether a line is severe enough to be wanted. -/
def isWanted (line least : Severity) : Bool :=
  byRank.idxOf line ≤ byRank.idxOf least

end Severity
end TelemetryRelay
