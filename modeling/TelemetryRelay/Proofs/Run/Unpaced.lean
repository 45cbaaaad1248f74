import TelemetryRelay.Proofs.Run.Conservation
import TelemetryRelay.Proofs.Stage.Batch

/-!
# Runs over sources without a pace

A source without a pace always has an answer, and reading comes before both
kinds of tick.  The clock of such a run therefore stands still until the
stream is over, no ticker is ever served, and all that happens before the last
flush is reception.  Since it does not matter in which pieces a stage receives
a stream, the run comes to working through the whole stream at once.

The stream is what the script has before its first empty chunk, which a reader
cannot tell from the end.
-/

namespace TelemetryRelay

/-- The bytes of a script before the first empty chunk. -/
def Source.stream (chunks : List (List UInt8)) : List UInt8 :=
  (chunks.takeWhile (· ≠ [])).flatten

namespace Source

theorem stream_cons {chunk : List UInt8} (nonempty : chunk ≠ []) (later : List (List UInt8)) :
    stream (chunk :: later) = chunk ++ stream later := by
  have goesOn : decide (chunk ≠ []) = true := decide_eq_true nonempty
  rw [stream, List.takeWhile_cons, if_pos goesOn, List.flatten_cons]
  rfl

theorem stream_nil_cons (later : List (List UInt8)) : stream ([] :: later) = [] :=
  rfl

/-- A delivery brings the beginning of the stream and leaves the rest of it;
it brings nothing only if nothing is left. -/
theorem stream_deliver (source : Source) {size : Nat} (positive : 0 < size) :
    (((source.deliver size).bytes = [] ∧ stream source.chunks = []) ∨
      ((source.deliver size).bytes ≠ [] ∧
        stream source.chunks =
          (source.deliver size).bytes ++ stream (source.deliver size).source.chunks)) := by
  unfold deliver
  cases chunksEq : source.chunks with
  | nil => exact .inl ⟨rfl, rfl⟩
  | cons chunk later =>
      cases chunk with
      | nil =>
          refine .inl ⟨?_, stream_nil_cons later⟩
          simp only [List.take_nil, if_true]
          rfl
      | cons byte chunk =>
          have some : (byte :: chunk).take size ≠ [] := by
            rw [← Nat.succ_pred_eq_of_pos positive, List.take_succ_cons]
            exact List.cons_ne_nil _ _
          simp only [if_neg some]
          refine .inr ⟨some, ?_⟩
          rw [stream_cons (List.cons_ne_nil byte chunk)]
          split
          · -- What does not fit stays in front of the later chunks, and is not empty.
            rename_i long
            have rest : (byte :: chunk).drop size ≠ [] := by
              rw [ne_eq, List.drop_eq_nil_iff]
              exact Nat.not_le.2 long
            rw [stream_cons rest, ← List.append_assoc, List.take_append_drop]
          · rename_i whole
            rw [List.take_of_length_le (Nat.le_of_not_lt whole)]

theorem poll_unpaced {source : Source} (isOpen : source.closed = false)
    (unpaced : source.pace = none) (now : Nat) {size : Nat} (positive : 0 < size) :
    source.poll now size =
      .finished (source.deliver size).bytes (source.deliver size).source
        [(source.deliver size).entry] := by
  apply poll_at_once isOpen _ positive
  rw [deliveryTime?, unpaced]

theorem pace_deliver (source : Source) (size : Nat) :
    (source.deliver size).source.pace = source.pace := by
  unfold deliver
  split
  · rfl
  · simp only
    split <;> rfl

end Source

namespace Run

open Stage (Event Dismissal)

/-! ## The loop -/

/-- What the loop over a source without a pace keeps to. -/
structure Unpaced (plan : Plan) (state : State) : Prop where
  isOpen : state.source.closed = false
  unpaced : state.source.pace = none
  early : plan.isShutDown state.now = false

/-- A turn over such a source receives a piece of the stream, or it is the
last one. -/
theorem Unpaced.turn {plan : Plan} {state : State} (unpaced : Unpaced plan state)
    (readable : 0 < plan.readChunk) :
    (∃ last, turn plan state = .ended last ∧ turnEvents plan state = [] ∧
        Source.stream state.source.chunks = [] ∧
        last.extractionTick = state.extractionTick ∧ last.uploadTick = state.uploadTick) ∨
      ∃ next piece, turn plan state = .again next ∧ turnEvents plan state = [.receive piece] ∧
        Source.stream state.source.chunks = piece ++ Source.stream next.source.chunks ∧
        Unpaced plan next ∧
        next.extractionTick = state.extractionTick ∧ next.uploadTick = state.uploadTick := by
  have answer := Source.poll_unpaced unpaced.isOpen unpaced.unpaced state.now readable
  have samePace := state.source.pace_deliver plan.readChunk
  unfold Run.turn turnEvents
  rw [unpaced.early, if_neg Bool.false_ne_true, if_neg Bool.false_ne_true, answer]
  rcases state.source.stream_deliver readable with ⟨nothing, exhausted⟩ | ⟨some, goesOn⟩
  · simp only [if_pos nothing]
    exact .inl ⟨_, rfl, trivial, exhausted, rfl, rfl⟩
  · have stillOpen := state.source.closed_deliver plan.readChunk some
    simp only [if_neg some]
    refine .inr ⟨_, _, rfl, rfl, ?_, ⟨?_, ?_, unpaced.early⟩, rfl, rfl⟩
    · cases plan.echo <;> exact goesOn
    · cases plan.echo <;> exact stillOpen.trans unpaced.isOpen
    · cases plan.echo <;> exact samePace.trans unpaced.unpaced

/-- Between two states nothing happened but the reception of a stream. -/
structure Receives (stream : List UInt8) (state : State) (events : List Event) (last : State) :
    Prop where
  extractionTick : last.extractionTick = state.extractionTick
  uploadTick : last.uploadTick = state.uploadTick
  pieces : ∃ pieces : List (List UInt8), events = pieces.map .receive ∧ pieces.flatten = stream

/-- The loop receives the stream, however it is cut, and does nothing else. -/
theorem Unpaced.loop {plan : Plan} {state : State} (unpaced : Unpaced plan state)
    (readable : 0 < plan.readChunk) :
    (loop plan state).error = none ∧
      Receives (Source.stream state.source.chunks) state (loopEvents plan state)
        (loop plan state).state := by
  -- What is expected of a state is the stream that its source still has.
  refine @loop_settles plan _
    (fun stream state => Unpaced plan state ∧ Source.stream state.source.chunks = stream) Receives
    ?_ _ state ⟨unpaced, rfl⟩
  rintro stream state ⟨unpaced, left⟩
  rcases unpaced.turn readable with
    ⟨last, ends, events, exhausted, extraction, upload⟩ |
      ⟨next, piece, again, events, whole, kept, extraction, upload⟩
  · exact .inl ⟨last, ends, extraction, upload, [], events, exhausted.symm.trans left⟩
  · refine .inr ⟨next, _, again, ⟨kept, rfl⟩, ?_⟩
    rintro later last ⟨sameExtraction, sameUpload, pieces, rest, remaining⟩
    refine ⟨sameExtraction.trans extraction, sameUpload.trans upload, piece :: pieces, ?_, ?_⟩
    · rw [events, rest]
      rfl
    · rw [List.flatten_cons, remaining, ← whole, left]

/-! ## The end of a run -/

section

variable {settings : Settings} (accepted : settings.validate = .ok ()) (source : Source)
  (sink : Sink) (now : Nat) (shutdownAfter : Option Nat)

theorem sound_flushed :
    ((looped accepted source sink now shutdownAfter).state.stage.perform .flush).Sound := by
  rw [Stage.perform_eq, stage_looped]
  exact ((Stage.sound_ofSettings accepted).replay _).replay _

theorem replay_history :
    (Stage.ofSettings settings accepted).replay
        (history accepted source sink now shutdownAfter) =
      ((looped accepted source sink now shutdownAfter).state.stage.perform .flush).takeAll.2 := by
  rw [Stage.takeAll_eq (sound_flushed accepted source sink now shutdownAfter), history_eq,
    Stage.replay_append, ← stage_looped, finishEvents, Stage.replay_append, ← Stage.perform_eq]
  rfl

theorem takenRecords_fates :
    Dismissal.takenRecords (fates accepted source sink now shutdownAfter) =
      Dismissal.takenRecords ((Stage.ofSettings settings accepted).dismissed
          (loopHistory accepted source sink now shutdownAfter)) ++
        ((looped accepted source sink now shutdownAfter).state.stage.perform .flush).takeAll.1 := by
  have sound := sound_flushed accepted source sink now shutdownAfter
  have pending : (Stage.perform (looped accepted source sink now shutdownAfter).state.stage
      .flush).pendingRecords = _ := (Ring.length_toList sound.records).symm
  rw [fates, history_eq, Stage.dismissed_append, Dismissal.takenRecords_append, ← stage_looped,
    finishEvents,
    Stage.dismissed_append, Dismissal.takenRecords_append, ← Stage.perform_eq,
    Stage.takenRecords_take sound, pending, List.take_length, Stage.takeAll_eq sound,
    Stage.callEvents, takenRecords_attempts, List.nil_append]

end

/-! ## The run -/

/-- The outcome of a run that ended with a summary: the records that it handed
to the sink, in order, and the totals of its stage. -/
def Outcome.Hands (outcome : Outcome) (sink : Sink) (records : List Record)
    (totals : StageTotals) : Prop :=
  ∃ (summary : Summary) (added : List Delivery),
    outcome.result = .ok summary ∧
      outcome.sink.deliveries.toList = sink.deliveries.toList ++ added ∧
      added.map Delivery.record = records ∧ summary.stage = totals

section

variable {settings : Settings} (accepted : settings.validate = .ok ())
  (chunks : List (List UInt8)) (sink : Sink) (now : Nat) {shutdownAfter : Option Nat}
  (later : forall time, shutdownAfter = some time -> 0 < time)

include later

/-- A run over a fresh source without a pace begins such a loop, unless it is
asked to shut down at once. -/
theorem unpaced_begun :
    Unpaced (planOf settings now shutdownAfter)
      (begun accepted (Source.scripted chunks none) sink now) where
  isOpen := rfl
  unpaced := rfl
  early := by
    change (shutdownAfter.map (now + ·)).any (· ≤ now) = false
    cases request : shutdownAfter with
    | none => rfl
    | some time =>
        have positive := later time request
        simp only [Option.map_some, Option.any_some, decide_eq_false_iff_not]
        omega

theorem ended_unpaced :
    (looped accepted (Source.scripted chunks none) sink now shutdownAfter).error = none :=
  ((unpaced_begun accepted chunks sink now later).loop (Settings.readChunk_positive accepted)).1

theorem flushed_unpaced :
    (looped accepted (Source.scripted chunks none) sink now shutdownAfter).state.stage.perform
        .flush = Stage.batch accepted (Source.stream chunks) := by
  rcases (unpaced_begun accepted chunks sink now later).loop (Settings.readChunk_positive accepted) with
    ⟨_, _, _, pieces, events, whole⟩
  have receives : loopHistory accepted (Source.scripted chunks none) sink now shutdownAfter =
      pieces.map .receive := events
  have stream : pieces.flatten = Source.stream chunks := whole
  rw [stage_looped, receives, Stage.replay_receive (Stage.sound_ofSettings accepted), stream]
  rfl

theorem takenRecords_loopHistory_unpaced :
    Dismissal.takenRecords ((Stage.ofSettings settings accepted).dismissed
      (loopHistory accepted (Source.scripted chunks none) sink now shutdownAfter)) = [] := by
  rcases (unpaced_begun accepted chunks sink now later).loop (Settings.readChunk_positive accepted) with
    ⟨_, _, _, pieces, events, _⟩
  have receives : loopHistory accepted (Source.scripted chunks none) sink now shutdownAfter =
      pieces.map .receive := events
  rw [receives]
  exact Stage.takenRecords_receive _ pieces

theorem hands_unpaced :
    (run settings (Source.scripted chunks none) sink now shutdownAfter).Hands sink
      (Stage.batch accepted (Source.stream chunks)).takeAll.1
      (Stage.batch accepted (Source.stream chunks)).takeAll.2.totals := by
  have ending := ended_unpaced accepted chunks sink now later
  rcases handed_of_ended accepted _ sink now shutdownAfter ending with
    ⟨summary, added, finished, listed, handed, totals⟩
  refine ⟨summary, added, finished, listed, ?_, ?_⟩
  · rw [handed, takenRecords_fates, takenRecords_loopHistory_unpaced accepted chunks sink now later,
      flushed_unpaced accepted chunks sink now later, List.nil_append]
  · rw [totals, replay_history, flushed_unpaced accepted chunks sink now later]

end

/-- A run over a fresh source without a pace, unless it is asked to shut down
at once, serves no ticker.  It hands over the records, and counts the totals,
of a fresh stage that receives the stream at once and is flushed and emptied.

Another run does the same if it has the same stream, rings of the same sizes
and the same rules of extraction.  How the stream is cut, how much is read at
a time, the intervals of both tickers, the sink and the time of the request to
shut down make no difference. -/
theorem unpaced_run_eq_batch {settings : Settings} (accepted : settings.validate = .ok ())
    (chunks : List (List UInt8)) (sink : Sink) (now : Nat) (shutdownAfter : Option Nat)
    (later : forall time, shutdownAfter = some time -> 0 < time) :
    let source := Source.scripted chunks none
    let last := (looped accepted source sink now shutdownAfter).state
    let batch := Stage.batch accepted (Source.stream chunks)
    ((∃ pieces : List (List UInt8),
          loopHistory accepted source sink now shutdownAfter = pieces.map .receive ∧
            pieces.flatten = Source.stream chunks) ∧
        last.extractionTick.due = now ∧ last.uploadTick.due = now) ∧
      (run settings source sink now shutdownAfter).Hands sink batch.takeAll.1
        batch.takeAll.2.totals ∧
      forall (other : Settings) (otherChunks : List (List UInt8)) (otherSink : Sink)
        (otherNow : Nat) (otherShutdown : Option Nat),
        other.validate = .ok () ->
        other.byteCapacity = settings.byteCapacity ->
        other.recordCapacity = settings.recordCapacity -> other.scan = settings.scan ->
        Source.stream otherChunks = Source.stream chunks ->
        (forall time, otherShutdown = some time -> 0 < time) ->
        (run other (Source.scripted otherChunks none) otherSink otherNow otherShutdown).Hands
          otherSink batch.takeAll.1 batch.takeAll.2.totals := by
  intro source last batch
  rcases (unpaced_begun accepted chunks sink now later).loop (Settings.readChunk_positive accepted) with
    ⟨_, extraction, upload, pieces⟩
  refine ⟨⟨pieces, congrArg Ticker.due extraction, congrArg Ticker.due upload⟩,
    hands_unpaced accepted chunks sink now later, ?_⟩
  intro other otherChunks otherSink otherNow otherShutdown otherAccepted byteCapacity
    recordCapacity scan same otherLater
  have hands := hands_unpaced otherAccepted otherChunks otherSink otherNow otherLater
  rw [same, Stage.batch_congr accepted otherAccepted _ byteCapacity recordCapacity scan] at hands
  exact hands

/-- A frame that arrives in two chunks before an empty one, and the same frame
read byte by byte over another source. -/
theorem unpaced_runs_of_cut_frame :
    let settings : Settings :=
      { byteCapacity := 4, recordCapacity := 1, scan := { minFill := 1, window := 4 } }
    let other : Settings := { settings with extractInterval := 1, serial := { readChunk := 1 } }
    let sink := Sink.scripted (fun _ => 7) (fun _ => false) false
    ∃ accepted : settings.validate = .ok (),
      let batch := Stage.batch accepted [0x61, 0x7B, 0x7D]
      (run settings (Source.scripted [[0x61, 0x7B], [0x7D], [], [0x7B]] none) sink 0
          (some 1)).Hands sink batch.takeAll.1 batch.takeAll.2.totals ∧
        (run other (Source.scripted [[0x61], [0x7B, 0x7D]] none) sink 5 none).Hands sink
          batch.takeAll.1 batch.takeAll.2.totals := by
  intro settings other sink
  have accepted : settings.validate = .ok () := by decide +kernel
  have otherAccepted : other.validate = .ok () := by decide +kernel
  have later : forall time, some 1 = some time -> 0 < time := by
    intro time same
    cases same
    exact Nat.zero_lt_one
  rcases unpaced_run_eq_batch accepted [[0x61, 0x7B], [0x7D], [], [0x7B]] sink 0 (some 1) later with
    ⟨_, hands, others⟩
  exact ⟨accepted, hands,
    others other [[0x61], [0x7B, 0x7D]] sink 5 none otherAccepted rfl rfl rfl rfl nofun⟩

end Run
end TelemetryRelay
