import TelemetryRelay.Settings.Basic

/-!
# The stage

Between the serial line and the uploader lie two rings: received bytes wait
in one until a frame can be extracted from them, extracted records wait in the
other until they are uploaded.  Overflow is not an error in either ring.  The
oldest data goes, and what went is counted.

Every operation returns its result, the stage it leaves and the signals it
emits.

As for a single ring, memory is idealised: the rings that accepted settings
describe can always be allocated, and the totals are natural numbers and not
words of 64 bits.
-/

namespace TelemetryRelay

/-- What a stage has done since it was made. -/
structure StageTotals where
  bytesIngested : Nat := 0
  bytesEvicted : Nat := 0
  bytesResynced : Nat := 0
  framesExtracted : Nat := 0
  recordsEvicted : Nat := 0
deriving DecidableEq, Repr

/-- Received bytes, extracted records, and the extractor that leads from the
ones to the others. -/
structure Stage where
  bytes : Ring UInt8
  records : Ring Record
  extractor : Extractor
  totals : StageTotals
deriving DecidableEq

namespace Stage

/-- The outcome of an operation on a stage. -/
structure Step (α : Type) where
  result : α
  stage : Stage
  signals : List Signal

/-- An empty stage with the rings and the extractor that the settings
describe. -/
def ofSettings (settings : Settings) (accepted : settings.validate = .ok ()) : Stage :=
  { bytes := Ring.blank settings.byteCapacity
    records := Ring.blank settings.recordCapacity
    extractor := Extractor.blank settings.scan (Settings.scan_accepted accepted)
    totals := {} }

/-- Make an empty stage, and report its rings. -/
def opened (settings : Settings) (accepted : settings.validate = .ok ()) : Step Unit :=
  { result := ()
    stage := ofSettings settings accepted
    signals := [.journal (.ringsStaged settings.byteCapacity settings.recordCapacity)] }

def create (settings : Settings) : Except Settings.Fault (Step Unit) :=
  match accepted : settings.validate with
  | .error fault => .error fault
  | .ok () => .ok (opened settings accepted)

def bufferedBytes (stage : Stage) : Nat :=
  stage.bytes.length

def pendingRecords (stage : Stage) : Nat :=
  stage.records.length

def overflowSignals (dropped : Nat) (line : Nat -> Entry) (counter : Counter) : List Signal :=
  if dropped = 0 then [] else [.journal (line dropped), .increment counter dropped]

/-- Take in received bytes.  The result is the number of accepted bytes. -/
def ingest (stage : Stage) (chunk : List UInt8) : Step Nat :=
  let (accepted, bytes) := stage.bytes.enqueue chunk
  let dropped := bytes.totalEvicted - stage.bytes.totalEvicted
  { result := accepted
    stage := { stage with
      bytes
      totals := { stage.totals with
        bytesIngested := stage.totals.bytesIngested + accepted
        bytesEvicted := stage.totals.bytesEvicted + dropped } }
    signals :=
      .increment .bytesIngested accepted ::
        (overflowSignals dropped .bytesDropped .bytesEvicted ++ [.fill bytes.fillRatio]) }

/-- What an attempt adds to the totals, evicted records apart. -/
def totalsAfter (totals : StageTotals) : Extraction -> StageTotals
  | .produced _ => { totals with framesExtracted := totals.framesExtracted + 1 }
  | .resynced discarded => { totals with bytesResynced := totals.bytesResynced + discarded }
  | .starved | .incomplete => totals

/-- The signals of an attempt that leaves the given number of records. -/
def outcomeSignals (pending : Nat) : Extraction -> List Signal
  | .produced length => [.journal (.frameStaged length pending), .increment .framesExtracted 1]
  | .resynced discarded => [.increment .bytesResynced discarded]
  | .starved | .incomplete => []

def extract (stage : Stage) : Step Extraction :=
  let attempt := stage.extractor.attempt stage.bytes stage.records
  let dropped := attempt.records.totalEvicted - stage.records.totalEvicted
  let totals := totalsAfter stage.totals attempt.outcome
  { result := attempt.outcome
    stage := { stage with
      bytes := attempt.bytes
      records := attempt.records
      extractor := attempt.extractor
      totals := { totals with recordsEvicted := totals.recordsEvicted + dropped } }
    signals :=
      attempt.journal.map .journal ++ outcomeSignals attempt.records.length attempt.outcome ++
        overflowSignals dropped .recordsDropped .recordsEvicted ++
        [.fill attempt.bytes.fillRatio] }

/-- Make extraction attempts as long as they make progress, but no more than
the given number.  The result is the number of extracted frames. -/
def flushWithin : Nat -> Stage -> Step Nat
  | 0, stage => { result := 0, stage, signals := [] }
  | attempts + 1, stage =>
      let first := stage.extract
      if first.result.madeProgress then
        let rest := flushWithin attempts first.stage
        { result :=
            match first.result with
            | .produced _ => rest.result + 1
            | _ => rest.result
          stage := rest.stage
          signals := first.signals ++ rest.signals }
      else
        { result := 0, stage := first.stage, signals := first.signals }

/-- Make extraction attempts until one makes no progress.  Each one that does
takes at least one byte, so that the number of buffered bytes bounds them. -/
def flush (stage : Stage) : Step Nat :=
  flushWithin (stage.bufferedBytes + 1) stage

/-- The oldest waiting record, and the stage without it. -/
def nextRecord? (stage : Stage) : Option (Record × Stage) :=
  stage.records.pop?.map fun (record, records) => (record, { stage with records })

end Stage
end TelemetryRelay
