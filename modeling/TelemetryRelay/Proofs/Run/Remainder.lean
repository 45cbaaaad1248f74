import TelemetryRelay.Proofs.Run.Unpaced
import TelemetryRelay.Proofs.Stage.Flush

/-!
# What a run leaves behind

When the loop of a run is over, nothing more is received, but the last flush
asks for as many buffered bytes as every other attempt.  If at least that many
remain, there is no frame end among them as far as the window goes, and so no
frame.  If fewer remain, nobody has looked at them, and whole frames can be lost
with them.

What the flush did take from the byte ring became frames or was discarded on
the way to one; nothing is received any more for which it would have to make
room.  The records of the frames are handed to the sink behind the flush, unless
newer ones of the same flush took their place.
-/

namespace TelemetryRelay

namespace Window

/-- A frame start stands somewhere before a frame end. -/
def ShowsFrame (window : List UInt8) : Prop :=
  ∃ start stop : Nat, start < stop ∧ window[start]? = some frameStart ∧ window[stop]? = some frameEnd

theorem not_showsFrame {window : List UInt8} (noEnd : frameEnd ∉ window) :
    ¬ ShowsFrame window := by
  rintro ⟨_, stop, _, _, ends⟩
  exact noEnd (List.mem_of_getElem? ends)

end Window

namespace Stage

open Window (frameEnd ShowsFrame)

/-! ## What a flush leaves behind -/

/-- The segments left the byte ring of the stage during a flush, and the bytes
are still in it. -/
structure Leaves (settings : Settings) (stage : Stage) (segments : List Segment)
    (remaining : List UInt8) : Prop where
  split : stage.bytes.toList = segments.flatMap Segment.bytes ++ remaining
  routes : forall segment, segment ∈ segments ->
    segment.route = .resynced ∨ segment.route = .produced
  noEnd : settings.scan.minFill ≤ remaining.length ->
    frameEnd ∉ remaining.take settings.scan.window
  noFrame : settings.scan.minFill ≤ remaining.length ->
    ¬ ShowsFrame (remaining.take settings.scan.window)

theorem Conforms.leaves {settings : Settings} {stage : Stage} (conforms : stage.Conforms settings) :
    stage.Leaves settings (stage.segments (stage.callEvents .flush))
      (stage.perform .flush).bytes.toList := by
  have flushed := conforms.perform .flush
  have stream := stream_replay conforms.sound (stage.callEvents .flush)
  rw [bytes_callEvents, Call.bytes, List.append_nil, ← perform_eq] at stream
  have noEnd : settings.scan.minFill ≤ (stage.perform .flush).bytes.toList.length ->
      frameEnd ∉ (stage.perform .flush).bytes.toList.take settings.scan.window := by
    intro enough
    have rest : (stage.perform .flush).AtRest := atRest_flush conforms.sound
    rw [atRest_iff flushed.sound, flushed.rules, bufferedBytes,
      ← Ring.length_toList flushed.sound.bytes] at rest
    exact rest.resolve_left (Nat.not_lt.2 enough)
  exact {
    split := stream
    routes := fun _ member => route_of_attempts member
    noEnd
    noFrame := fun enough => Window.not_showsFrame (noEnd enough) }

end Stage

namespace Run

open Stage (Dismissal Segment)
open Window (ShowsFrame)

/-! ## The end of a run -/

section

variable {settings : Settings} (accepted : settings.validate = .ok ()) (source : Source)
  (sink : Sink) (now : Nat) (shutdownAfter : Option Nat)

theorem conforms_looped :
    (looped accepted source sink now shutdownAfter).state.stage.Conforms settings := by
  rw [stage_looped]
  exact (Stage.conforms_ofSettings accepted).replay _

theorem flushed_finish :
    let ended := (looped accepted source sink now shutdownAfter).state
    ended.finish.stage.bytes = (ended.stage.perform .flush).bytes ∧
      ended.finish.stage.totals = (ended.stage.perform .flush).totals := by
  intro ended
  have flushed := (conforms_looped accepted source sink now shutdownAfter).perform .flush
  have drained := Stage.replay_take_eq flushed.sound (ended.stage.perform .flush).pendingRecords
  rw [(reaches_finish _).stage, finishEvents, Stage.replay_append, ← Stage.perform_eq, drained]
  exact ⟨rfl, rfl⟩

end

/-- What became of the bytes that were buffered when the loop of a run was over
in the given state. -/
structure Closes (settings : Settings) (ended : State) (segments : List Segment)
    (frames : List (List UInt8)) (fates : List Dismissal) (added : List Delivery) : Prop where
  leaves : ended.stage.Leaves settings segments ended.finish.stage.bytes.toList
  /-- What the flush promoted are the last frames of the run. -/
  promoted : Segment.frames segments <:+ frames
  /-- Every frame left the record ring. -/
  settled : fates.map Dismissal.record = frames.map Record.pad
  handed : added.map Delivery.record = Dismissal.takenRecords fates
  /-- A full record ring of newer frames follows each that was dropped. -/
  displaced : forall index record, fates[index]? = some { record, taken := false } ->
    index + settings.recordCapacity < frames.length

/-- A run that ends with a summary leaves no frame behind that its flush could
have promoted.

The bytes that were buffered at the end of its loop were promoted, were
discarded on the way to a frame, or remain.  If at least as many remain as an
attempt asks for, then the window shows no frame end, and so no frame.  Of fewer
bytes nothing is said.  What was promoted was handed to the sink, or dropped for
newer frames. -/
theorem run_leaves_nothing_promotable {settings : Settings} (accepted : settings.validate = .ok ())
    (source : Source) (sink : Sink) (now : Nat) (shutdownAfter : Option Nat) {summary : Summary}
    (finished : (run settings source sink now shutdownAfter).result = .ok summary) :
    let ended := (looped accepted source sink now shutdownAfter).state
    let flushed := ended.stage.segments (ended.stage.callEvents .flush)
    summary = ended.finish.summary ∧
      ∃ added,
        (run settings source sink now shutdownAfter).sink.deliveries.toList =
            sink.deliveries.toList ++ added ∧
          Closes settings ended flushed (frames accepted source sink now shutdownAfter)
            (fates accepted source sink now shutdownAfter) added := by
  intro ended flushed
  rcases run_of_summary accepted source sink now shutdownAfter finished with ⟨same, sameSink⟩
  have reached := reaches_history accepted source sink now shutdownAfter
  rcases reached.deliveries with ⟨added, listed, handed, _⟩
  refine ⟨same, added, sameSink ▸ listed, {
    leaves := ?_
    promoted := ?_
    settled := fates_settled accepted source sink now shutdownAfter
    handed
    displaced := fun _ _ => fates_behind accepted source sink now shutdownAfter }⟩
  · rw [(flushed_finish accepted source sink now shutdownAfter).1]
    exact (conforms_looped accepted source sink now shutdownAfter).leaves
  · rw [frames, segments_history, Segment.frames_append]
    exact List.suffix_append _ _

/-- A run over a source without a pace leaves what working through the whole
stream at once leaves. -/
theorem remaining_unpaced {settings : Settings} (accepted : settings.validate = .ok ())
    (chunks : List (List UInt8)) (sink : Sink) :
    let source := Source.scripted chunks none
    let last := (looped accepted source sink 0 none).state.finish
    (run settings source sink 0 none).result = .ok last.summary ∧
      last.stage.bytes = (Stage.batch accepted (Source.stream chunks)).bytes ∧
      last.stage.totals = (Stage.batch accepted (Source.stream chunks)).totals := by
  intro source last
  have unasked : forall time, (none : Option Nat) = some time -> 0 < time := nofun
  have ending := ended_unpaced accepted chunks sink 0 unasked
  constructor
  · exact (run_of_ended accepted source sink 0 none ending).1
  · rw [← flushed_unpaced accepted chunks sink 0 unasked]
    exact flushed_finish accepted source sink 0 none

/-- Of three frames, two are promoted, and the second one takes the place of the
first.  The third one remains, since it reaches beyond the window. -/
theorem run_leaves_long_frame :
    let settings : Settings :=
      { byteCapacity := 7, recordCapacity := 1, scan := { minFill := 3, window := 2 } }
    let source := Source.scripted [[0x7B, 0x7D, 0x7B, 0x7D, 0x7B, 0x61, 0x7D]] none
    let sink := Sink.scripted (fun _ => 0) (fun _ => true) false
    ∃ (accepted : settings.validate = .ok ()) (summary : Summary),
      let ended := (looped accepted source sink 0 none).state
      (run settings source sink 0 none).result = .ok summary ∧
        ended.finish.stage.bytes.toList = [0x7B, 0x61, 0x7D] ∧
        ∃ added,
          (run settings source sink 0 none).sink.deliveries.toList = [] ++ added ∧
            Closes settings ended (ended.stage.segments (ended.stage.callEvents .flush))
              (frames accepted source sink 0 none) (fates accepted source sink 0 none) added := by
  intro settings source sink
  have accepted : settings.validate = .ok () := by decide +kernel
  have remaining : (Stage.batch accepted
      (Source.stream [[0x7B, 0x7D, 0x7B, 0x7D, 0x7B, 0x61, 0x7D]])).bytes.toList =
        [0x7B, 0x61, 0x7D] := by
    decide +kernel +revert
  rcases remaining_unpaced accepted [[0x7B, 0x7D, 0x7B, 0x7D, 0x7B, 0x61, 0x7D]] sink with
    ⟨finished, same, _⟩
  rw [← same] at remaining
  exact ⟨accepted, _, finished, remaining,
    (run_leaves_nothing_promotable accepted source sink 0 none finished).2⟩

/-- Of three frames, two are promoted, and the first one is dropped for the
second one.  The third one remains, since it is shorter than what an attempt
asks for. -/
theorem run_leaves_short_frame :
    let settings : Settings :=
      { byteCapacity := 6, recordCapacity := 1, scan := { minFill := 3, window := 2 } }
    let source := Source.scripted [[0x7B, 0x7D, 0x7B, 0x7D, 0x7B, 0x7D]] none
    let sink := Sink.scripted (fun _ => 0) (fun _ => true) false
    ∃ (accepted : settings.validate = .ok ()) (summary : Summary),
      let remaining := (looped accepted source sink 0 none).state.finish.stage.bytes.toList
      (run settings source sink 0 none).result = .ok summary ∧
        remaining = [0x7B, 0x7D] ∧
        ShowsFrame (remaining.take (min remaining.length settings.scan.window)) ∧
        summary.stage.framesExtracted = 2 ∧ summary.stage.recordsEvicted = 1 := by
  intro settings source sink
  have accepted : settings.validate = .ok () := by decide +kernel
  have flushed : (Stage.batch accepted
      (Source.stream [[0x7B, 0x7D, 0x7B, 0x7D, 0x7B, 0x7D]])).bytes.toList = [0x7B, 0x7D] ∧
        (Stage.batch accepted
          (Source.stream [[0x7B, 0x7D, 0x7B, 0x7D, 0x7B, 0x7D]])).totals =
          { bytesIngested := 6, framesExtracted := 2, recordsEvicted := 1 } := by
    decide +kernel +revert
  rcases remaining_unpaced accepted [[0x7B, 0x7D, 0x7B, 0x7D, 0x7B, 0x7D]] sink with
    ⟨finished, bytes, totals⟩
  rw [← bytes, ← totals] at flushed
  rcases flushed with ⟨buffered, counted⟩
  refine ⟨accepted, _, finished, buffered, ?_, congrArg StageTotals.framesExtracted counted,
    congrArg StageTotals.recordsEvicted counted⟩
  rw [buffered]
  exact ⟨0, 1, Nat.zero_lt_one, rfl, rfl⟩

end Run
end TelemetryRelay
