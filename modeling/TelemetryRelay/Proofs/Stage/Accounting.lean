import TelemetryRelay.Proofs.Stage.Ledger

/-!
# A stage accounts for everything it was given

The ledgers of a fresh stage begin with empty rings and totals of zero.  What
they say of such a stage after any calls is collected here: the received
stream splits into segments and buffered bytes, the totals are the lengths of
these, and the segments that became frames have the shape of frames, did not
overlap, and are what the records hold.
-/

namespace TelemetryRelay
namespace Stage

open Window (IsFrame)

/-- The account of a stage that received the given bytes, from which the given
segments left in turn, and whose records left as listed. -/
structure Accounted (window : Nat) (received : List UInt8) (segments : List Segment)
    (dismissed : List Dismissal) (stage : Stage) : Prop where
  /-- The segments, and then the buffered bytes, are the stream. -/
  stream : received = segments.flatMap Segment.bytes ++ stage.bytes.toList
  bytesIngested : stage.totals.bytesIngested = received.length
  bytesEvicted : stage.totals.bytesEvicted = (Segment.bytesBy .evicted segments).length
  bytesResynced : stage.totals.bytesResynced = (Segment.bytesBy .resynced segments).length
  framesExtracted : stage.totals.framesExtracted = (Segment.frames segments).length
  recordsEvicted : stage.totals.recordsEvicted = (Dismissal.droppedRecords dismissed).length
  /-- Every received byte is counted once. -/
  balance : stage.totals.bytesIngested =
    stage.totals.bytesEvicted + stage.totals.bytesResynced +
      ((Segment.frames segments).map List.length).sum + stage.bufferedBytes
  /-- Each segment is the piece of the stream that begins at its offset. -/
  located : forall index segment, segments[index]? = some segment ->
    (received.drop (Segment.offset segments index)).take segment.bytes.length = segment.bytes
  /-- A segment ends before any later one begins. -/
  apart : forall first second segment, first < second -> segments[first]? = some segment ->
    Segment.offset segments first + segment.bytes.length ≤ Segment.offset segments second
  framed : forall frame, frame ∈ Segment.frames segments ->
    IsFrame frame ∧ frame.length ≤ window
  /-- The record of a frame is the frame and zeros. -/
  padded : forall frame, frame ∈ Segment.frames segments ->
    (Record.pad frame).bytes = frame ++ List.replicate (recordWidth - frame.length) 0
  /-- The records of the frames left the stage or are waiting, in order. -/
  staged : (Segment.frames segments).map Record.pad =
    dismissed.map Dismissal.record ++ stage.records.toList

section

variable {settings : Settings} (accepted : settings.validate = .ok ())

theorem stream_ofSettings (events : List Event) :
    events.flatMap Event.bytes =
      ((ofSettings settings accepted).segments events).flatMap Segment.bytes ++
        ((ofSettings settings accepted).replay events).bytes.toList := by
  have positive := (settings.validate_eq_ok_iff.1 accepted).byteCapacity_positive
  have empty : (ofSettings settings accepted).bytes.toList = [] := Ring.toList_blank positive
  have balanced := stream_replay (sound_ofSettings accepted) events
  rw [empty, List.nil_append] at balanced
  exact balanced

theorem records_ofSettings (events : List Event) :
    (Segment.frames ((ofSettings settings accepted).segments events)).map Record.pad =
      ((ofSettings settings accepted).dismissed events).map Dismissal.record ++
        ((ofSettings settings accepted).replay events).records.toList := by
  have positive := (settings.validate_eq_ok_iff.1 accepted).recordCapacity_positive
  have empty : (ofSettings settings accepted).records.toList = [] := Ring.toList_blank positive
  have balanced := records_replay (sound_ofSettings accepted) events
  rw [empty, List.nil_append] at balanced
  exact balanced

theorem accounted_ofSettings (events : List Event) :
    Accounted settings.scan.window (events.flatMap Event.bytes)
      ((ofSettings settings accepted).segments events)
      ((ofSettings settings accepted).dismissed events)
      ((ofSettings settings accepted).replay events) := by
  have sound := sound_ofSettings accepted
  have stream := stream_ofSettings accepted events
  have totals := totals_replay sound events
  have started : (ofSettings settings accepted).totals = {} := rfl
  simp only [started, Nat.zero_add] at totals
  have framed : forall frame,
      frame ∈ Segment.frames ((ofSettings settings accepted).segments events) ->
        IsFrame frame ∧ frame.length ≤ settings.scan.window :=
    fun _ member => isFrame_of_segments sound events member
  have fits : settings.scan.window ≤ recordWidth :=
    (ofSettings settings accepted).extractor.window_le_recordWidth
  exact {
    stream
    bytesIngested := by rw [totals]
    bytesEvicted := by rw [totals]
    bytesResynced := by rw [totals]
    framesExtracted := by rw [totals]
    recordsEvicted := by rw [totals]
    balance := by
      rw [totals, bufferedBytes, ← Ring.length_toList (sound.replay events).bytes]
      conv_lhs => rw [stream]
      rw [List.length_append, Segment.length_flatMap_bytes]
    located := by
      intro index segment found
      rw [stream]
      exact Segment.take_drop_offset found
    apart := fun _ _ _ before found => Segment.offset_add_length_le before found
    framed
    padded := fun frame member => Record.bytes_pad (Nat.le_trans (framed frame member).2 fits)
    staged := records_ofSettings accepted events }

end

/-- A stage can be made from any acceptable settings, and after any calls on
it there is an account of everything that was handed to it.  Nothing is
supposed of the chunks, which may be longer than the byte ring, or of the
order of the calls. -/
theorem calls_accounted {settings : Settings} (accepted : settings.validate = .ok ())
    (calls : List Call) :
    ∃ opened, create settings = .ok opened ∧
      Accounted settings.scan.window (calls.flatMap Call.bytes)
        (opened.stage.segments (opened.stage.eventsOf calls))
        (opened.stage.dismissed (opened.stage.eventsOf calls))
        (opened.stage.after calls) := by
  refine ⟨opened settings accepted, create_eq accepted, ?_⟩
  rw [after_eq, ← bytes_eventsOf (opened settings accepted).stage]
  exact accounted_ofSettings accepted _

/-- A chunk that is longer than the byte ring, and frames behind garbage. -/
theorem overflow_accounted :
    let settings : Settings :=
      { byteCapacity := 4, recordCapacity := 1, scan := { minFill := 1, window := 4 } }
    let calls : List Call :=
      [.ingest [0x7B, 0x61, 0x7D, 0x61, 0x7B, 0x7D], .extract, .ingest [0x61, 0x7B, 0x7D], .flush,
        .nextRecord]
    settings.validate = .ok () ∧
      ∃ opened, create settings = .ok opened ∧
        Accounted settings.scan.window (calls.flatMap Call.bytes)
          (opened.stage.segments (opened.stage.eventsOf calls))
          (opened.stage.dismissed (opened.stage.eventsOf calls))
          (opened.stage.after calls) := by
  intro settings calls
  have accepted : settings.validate = .ok () := by decide +kernel
  exact ⟨accepted, calls_accounted accepted calls⟩

end Stage
end TelemetryRelay
