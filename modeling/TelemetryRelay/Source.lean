import TelemetryRelay.Settings.Basic

/-!
# Sources

A scripted source replays prepared chunks of bytes, and after the last one
reports the end of the stream.  With a pace, a chunk is withheld for a while,
counted from the first read that waits for it.  The time of delivery then
stands: a read that gives up leaves it, like everything else, as it is, and
the next read waits for the same moment.

A chunk that is longer than the reader's buffer is delivered in pieces, each
of which counts as a chunk for the pace.  A piece without any byte cannot be
told from the end of the stream, so an empty chunk ends it.
-/

namespace TelemetryRelay

inductive SourceError where
  /-- The device cannot be opened, or fails. -/
  | device (reason : String)
  /-- The settings of the line are not acceptable. -/
  | settings (fault : SerialSettings.Fault)
  /-- The end of the stream has been reported before. -/
  | closed
deriving DecidableEq, Repr

def SourceError.message : SourceError -> String
  | device reason => s!"Serial port error: {reason}"
  | settings fault => fault.message
  | closed => "Serial source closed"

/-- A source that replays prepared chunks. -/
structure Source where
  device : String
  /-- Chunks that are still to be delivered. -/
  chunks : List (List UInt8)
  /-- Everything that was written back. -/
  written : List UInt8
  /-- How long each chunk is withheld. -/
  pace : Option Nat
  /-- When the chunk that is being waited for is delivered. -/
  deadline : Option Nat
  /-- The end of the stream has been reported. -/
  closed : Bool
  /-- Number of bytes delivered. -/
  bytesRead : Nat
deriving DecidableEq, Repr

namespace Source

def scripted (chunks : List (List UInt8)) (pace : Option Nat) : Source :=
  { device := "mock", chunks, written := [], pace, deadline := none, closed := false,
    bytesRead := 0 }

def scriptedEntry (chunks : List (List UInt8)) : Entry :=
  .scriptedSource chunks.length

/-- The outcome of a delivery: bytes, the source without them, and a journal
line.  No bytes at all mean the end of the stream. -/
structure Delivered where
  bytes : List UInt8
  source : Source
  entry : Entry

def reportEnd (source : Source) : Delivered :=
  { bytes := [], source := { source with closed := true }, entry := .endOfStream source.device }

/-- Deliver the front of the next chunk, up to `size` bytes of it. -/
def deliver (source : Source) (size : Nat) : Delivered :=
  match source.chunks with
  | [] => source.reportEnd
  | chunk :: later =>
      let piece := chunk.take size
      let chunks := if size < chunk.length then chunk.drop size :: later else later
      if piece = [] then
        { source with chunks, deadline := none }.reportEnd
      else
        { bytes := piece
          source := { source with
            chunks
            deadline := none
            bytesRead := source.bytesRead + piece.length }
          entry := .chunkRead piece.length source.device }

/-- When a read that is waiting now gets its chunk, if it has to wait for a
pace at all. -/
def deliveryTime? (source : Source) (now : Nat) : Option Nat :=
  match source.pace, source.chunks with
  | some pace, _ :: _ => some (source.deadline.getD (now + pace))
  | _, _ => none

/-- What a read finds when it asks the source. -/
inductive Poll where
  /-- A result: bytes, none of them for the end of the stream or an empty
  buffer. -/
  | finished (bytes : List UInt8) (source : Source) (journal : List Entry)
  /-- The source cannot be read any more. -/
  | refused (error : SourceError)
  /-- Nothing before the given time. -/
  | waiting (due : Nat) (source : Source)

/-- Ask the source for up to `size` bytes. -/
def poll (source : Source) (now size : Nat) : Poll :=
  if source.closed then .refused .closed
  else if size = 0 then .finished [] source []
  else
    match source.deliveryTime? now with
    | some due =>
        if now < due then .waiting due { source with deadline := some due }
        else
          let delivered := source.deliver size
          .finished delivered.bytes delivered.source [delivered.entry]
    | none =>
        let delivered := source.deliver size
        .finished delivered.bytes delivered.source [delivered.entry]

/-- A source that keeps a read waiting has fixed the time of delivery. -/
theorem poll_waiting {source next : Source} {now size due : Nat}
    (waits : source.poll now size = .waiting due next) :
    source.deliveryTime? now = some due ∧ now < due ∧
      next = { source with deadline := some due } := by
  unfold poll at waits
  split at waits
  · cases waits
  · split at waits
    · cases waits
    · split at waits
      · rename_i time found
        split at waits
        · rename_i early
          cases waits
          exact ⟨found, early, rfl⟩
        · cases waits
      · cases waits

/-- Bytes that a poll brings come from a delivery. -/
theorem poll_finished {source next : Source} {now size : Nat} {bytes : List UInt8}
    {journal : List Entry} (answers : source.poll now size = .finished bytes next journal)
    (nonempty : bytes ≠ []) :
    bytes = (source.deliver size).bytes ∧ next = (source.deliver size).source := by
  unfold poll at answers
  split at answers
  · cases answers
  · split at answers
    · cases answers
      exact absurd rfl nonempty
    · split at answers
      · split at answers
        · cases answers
        · cases answers
          exact ⟨rfl, rfl⟩
      · cases answers
        exact ⟨rfl, rfl⟩

/-- How a read with a limited patience ends. -/
inductive ReadResult where
  | bytes (bytes : List UInt8)
  | failed (error : SourceError)
  | cancelled
deriving DecidableEq, Repr

/-- A read: how it ended, when, and what it left. -/
structure Read where
  result : ReadResult
  now : Nat
  source : Source
  journal : List Entry

/-- Read up to `size` bytes, giving up after `patience` if one is given.  A
delivery at the very moment of giving up still counts. -/
def read (source : Source) (now size : Nat) (patience : Option Nat) : Read :=
  match source.poll now size with
  | .finished bytes next journal => { result := .bytes bytes, now, source := next, journal }
  | .refused error => { result := .failed error, now, source, journal := [] }
  | .waiting due waiting =>
      let inTime := (patience.map fun limit => decide (due ≤ now + limit)).getD true
      if inTime then
        let delivered := waiting.deliver size
        { result := .bytes delivered.bytes
          now := due
          source := delivered.source
          journal := [delivered.entry] }
      else
        { result := .cancelled, now := now + patience.getD 0, source := waiting, journal := [] }

def write (source : Source) (bytes : List UInt8) : Source :=
  { source with written := source.written ++ bytes }

/-- Number of bytes and of chunks in a script together. -/
def scriptSize : List (List UInt8) -> Nat
  | [] => 0
  | chunk :: later => chunk.length + 1 + scriptSize later

/-- Bytes and chunks that are still to come, as a bound on the reads that can
deliver something. -/
def backlog (source : Source) : Nat :=
  scriptSize source.chunks

theorem backlog_deliver_lt (source : Source) (size : Nat)
    (bytes : (source.deliver size).bytes ≠ []) :
    (source.deliver size).source.backlog < source.backlog := by
  unfold deliver at bytes ⊢
  split at bytes
  · exact absurd rfl bytes
  · rename_i chunk later chunksEq
    simp only at bytes ⊢
    split at bytes
    · exact absurd rfl bytes
    · rename_i nonempty
      simp only [nonempty, if_false, backlog, chunksEq]
      have size_positive : 0 < size := by
        cases size with
        | zero => simp at nonempty
        | succ size => omega
      have chunk_positive : 0 < chunk.length := by
        cases chunk with
        | nil => simp at nonempty
        | cons byte chunk => simp
      split
      · simp only [scriptSize, List.length_drop]
        omega
      · simp only [scriptSize]
        omega

/-- Open the device of a serial line.  `attach` says whether the device can be
opened, and else why not; it is not asked about unacceptable settings. -/
def openDevice (settings : SerialSettings) (attach : String -> Except String Unit) :
    Except SourceError Unit × List Entry :=
  match settings.validate with
  | .error fault => (.error (.settings fault), [])
  | .ok () =>
      ((attach settings.device).mapError .device,
        [.openingSource settings.device settings.baudRate])

end Source
end TelemetryRelay
