import TelemetryRelay.Ring.Basic
import TelemetryRelay.Severity

/-!
# Signals

While it works, the relay reports what it does: it writes journal lines,
increments counters and sets one gauge.  An operation lists its signals in
the order in which it emits them.  What the journal shows and what the metrics
say after a sequence of operations is computed from the list alone.
-/

namespace TelemetryRelay

/-- A journal line. -/
inductive Entry where
  | scriptedSource (chunks : Nat)
  | openingSource (device : String) (baudRate : Nat)
  | chunkRead (length : Nat) (device : String)
  | endOfStream (device : String)
  | ringsStaged (byteCapacity recordCapacity : Nat)
  | bytesDropped (count : Nat)
  | noFrameEnd (buffered : Nat)
  | discardedBeforeStart (count : Nat)
  | discardedThroughEnd (count : Nat)
  | droppingRecord
  | recordRingInconsistent (error : RingError)
  | frameExtracted (length : Nat)
  | frameStaged (length pending : Nat)
  | recordsDropped (count : Nat)
  | pipelineRunning (device sink : String)
  | shutdownRequested
  | flushed (frames pending : Nat)
  | sendFailed (sink reason : String)
  | pipelineStopped (frames sent failed : Nat)
  | uploadsDisabled
  | recordLogged (shown : String)
  | brokerConnected (host : String) (port : Nat) (topic : String)
  | recordPublished (id topic : String)
deriving DecidableEq, Repr

namespace Entry

def severity : Entry -> Severity
  | noFrameEnd _ => .trace
  | chunkRead .. | discardedBeforeStart _ | discardedThroughEnd _ | droppingRecord
  | frameExtracted _ | frameStaged .. | flushed .. | recordPublished .. => .debug
  | bytesDropped _ | recordsDropped _ | sendFailed .. => .warn
  | recordRingInconsistent _ => .error
  | scriptedSource _ | openingSource .. | endOfStream _ | ringsStaged .. | pipelineRunning ..
  | shutdownRequested | pipelineStopped .. | uploadsDisabled | recordLogged _
  | brokerConnected .. => .info

def text : Entry -> String
  | scriptedSource chunks => s!"Creating mock serial source with {chunks} chunks"
  | openingSource device baudRate => s!"Opening serial source {device} at {baudRate} baud"
  | chunkRead length device => s!"Read {length} bytes from {device}"
  | endOfStream device => s!"Serial source {device} reached end of stream"
  | ringsStaged byteCapacity recordCapacity =>
      s!"Staging rings: {byteCapacity} bytes, {recordCapacity} records"
  | bytesDropped count => s!"Byte ring overflow: dropped {count} oldest bytes"
  | noFrameEnd buffered => s!"No frame end in {buffered} buffered bytes"
  | discardedBeforeStart count => s!"Resync: discarded {count} bytes before frame start"
  | discardedThroughEnd count => s!"Resync: discarded {count} bytes through orphan frame end"
  | droppingRecord => "Record ring full, dropping oldest record"
  | recordRingInconsistent error => s!"Record ring bookkeeping inconsistent: {error.message}"
  | frameExtracted length => s!"Extracted {length}-byte frame"
  | frameStaged length pending => s!"Frame of {length} bytes staged, {pending} pending"
  | recordsDropped count => s!"Record ring full: dropped {count} oldest records"
  | pipelineRunning device sink => s!"Pipeline running: serial={device}, sink={sink}"
  | shutdownRequested => "Shutdown requested"
  | flushed frames pending => s!"Flushed {frames} frames, draining {pending} records"
  | sendFailed sink reason => s!"Could not send telemetry via {sink}: {reason}"
  | pipelineStopped frames sent failed =>
      s!"Pipeline stopped: {frames} frames extracted, {sent} sent, {failed} failed"
  | uploadsDisabled => "Telemetry upload disabled; records will only be logged"
  | recordLogged shown => s!"Telemetry record: {shown}"
  | brokerConnected host port topic =>
      s!"Connected to MQTT broker {host}:{port}, publishing to {topic}"
  | recordPublished id topic => s!"Published telemetry {id} to {topic}"

/-- A line as the journal shows it. -/
def line (entry : Entry) : String :=
  s!"{entry.severity.name} {entry.text}"

end Entry

inductive Counter where
  | bytesIngested
  | bytesEvicted
  | bytesResynced
  | framesExtracted
  | recordsEvicted
  | recordsSent
  | recordsFailed
deriving DecidableEq, Repr

namespace Counter

/-- The published name of a counter. -/
def name : Counter -> String
  | bytesIngested => "uart_bytes_ingested_total"
  | bytesEvicted => "uart_bytes_evicted_total"
  | bytesResynced => "uart_bytes_resynced_total"
  | framesExtracted => "uart_frames_extracted_total"
  | recordsEvicted => "uart_records_evicted_total"
  | recordsSent => "uart_records_sent_total"
  | recordsFailed => "uart_records_failed_total"

def all : List Counter :=
  [bytesIngested, bytesEvicted, bytesResynced, framesExtracted, recordsEvicted, recordsSent,
    recordsFailed]

end Counter

/-- The published name of the gauge, the buffered share of the byte ring. -/
def fillGaugeName : String :=
  "uart_byte_ring_fill_ratio"

/-- Something that the relay reports. -/
inductive Signal where
  | journal (entry : Entry)
  | increment (counter : Counter) (amount : Nat)
  | fill (ratio : Float)

namespace Signal

/-- The journal line of a signal, if it is one. -/
def entry? : Signal -> Option Entry
  | journal entry => some entry
  | _ => none

/-- The amount by which a signal increments the given counter, if it does. -/
def amount? (counter : Counter) : Signal -> Option Nat
  | increment other amount => if other = counter then some amount else none
  | _ => none

/-- The value to which a signal sets the gauge, if it does. -/
def ratio? : Signal -> Option Float
  | fill ratio => some ratio
  | _ => none

/-- The journal after the given signals. -/
def entries (signals : List Signal) : List Entry :=
  signals.filterMap entry?

/-- A counter after the given signals.  It is absent as long as nothing
increments it; an increment by zero makes it present. -/
def total? (counter : Counter) (signals : List Signal) : Option Nat :=
  match signals.filterMap (amount? counter) with
  | [] => none
  | amounts => some (amounts.foldl Nat.add 0)

/-- The gauge after the given signals, absent until it is first set. -/
def lastRatio? (signals : List Signal) : Option Float :=
  (signals.filterMap ratio?).getLast?

end Signal
end TelemetryRelay
