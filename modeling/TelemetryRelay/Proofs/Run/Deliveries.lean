import TelemetryRelay.Proofs.Run.History
import TelemetryRelay.Proofs.Stage.Accounting

/-!
# What a run delivers

Every frame that a run extracts either reaches the sink or is dropped from the
record ring for want of room.  The sink is handed each record at most once, in
the order of extraction, and a refused record is not handed over again.
A record is dropped only if at least as many frames are extracted after it as
the record ring holds, so that the newest ones always arrive, those that the
last flush extracts included.

This is said of runs that end with a summary.  It depends neither on when
bytes arrive, nor on how long sends take and which of them fail, nor on when
the request to shut down comes.
-/

namespace TelemetryRelay
namespace Run

open Stage (Event Dismissal Segment)

variable {settings : Settings} (accepted : settings.validate = .ok ()) (source : Source)
  (sink : Sink) (now : Nat) (shutdownAfter : Option Nat)

def begun : State :=
  start settings accepted (Stage.opened settings accepted) source sink now

def looped : Exit :=
  loop (planOf settings now shutdownAfter) (begun accepted source sink now)

/-- The events of a run that is not ended by its source. -/
def history : List Event :=
  loopEvents (planOf settings now shutdownAfter) (begun accepted source sink now) ++
    finishEvents (looped accepted source sink now shutdownAfter).state

/-- The frames that the extractor produces during a run, in order. -/
def frames : List (List UInt8) :=
  Segment.frames
    ((Stage.ofSettings settings accepted).segments
      (history accepted source sink now shutdownAfter))

/-- What became of the frames of a run, in order. -/
def fates : List Dismissal :=
  (Stage.ofSettings settings accepted).dismissed (history accepted source sink now shutdownAfter)

def State.outcome (state : State) (result : Except Failure Summary) : Outcome :=
  { result, now := state.now, source := state.source, sink := state.sink,
    signals := state.signals.toList }

theorem run_eq :
    run settings source sink now shutdownAfter =
      let exit := looped accepted source sink now shutdownAfter
      match exit.error with
      | some error => exit.state.outcome (.error (.source error))
      | none => exit.state.finish.outcome (.ok exit.state.finish.summary) := by
  unfold run
  split
  · rename_i rejected
    rw [accepted] at rejected
    cases rejected
  · rfl

theorem run_of_ended (ending : (looped accepted source sink now shutdownAfter).error = none) :
    (run settings source sink now shutdownAfter).result =
        .ok (looped accepted source sink now shutdownAfter).state.finish.summary ∧
      (run settings source sink now shutdownAfter).sink =
        (looped accepted source sink now shutdownAfter).state.finish.sink := by
  rw [run_eq accepted]
  simp only [ending]
  exact ⟨rfl, rfl⟩

theorem run_of_failed {error : SourceError}
    (failing : (looped accepted source sink now shutdownAfter).error = some error) :
    (run settings source sink now shutdownAfter).result = .error (.source error) := by
  rw [run_eq accepted]
  simp only [failing]
  rfl

theorem run_of_summary {summary : Summary}
    (finished : (run settings source sink now shutdownAfter).result = .ok summary) :
    summary = (looped accepted source sink now shutdownAfter).state.finish.summary ∧
      (run settings source sink now shutdownAfter).sink =
        (looped accepted source sink now shutdownAfter).state.finish.sink := by
  cases ending : (looped accepted source sink now shutdownAfter).error with
  | some error =>
      rw [run_of_failed accepted source sink now shutdownAfter ending] at finished
      cases finished
  | none =>
      have ended := run_of_ended accepted source sink now shutdownAfter ending
      rw [ended.1] at finished
      cases finished
      exact ⟨rfl, ended.2⟩

theorem reaches_history :
    Reaches (begun accepted source sink now) (history accepted source sink now shutdownAfter)
      (looped accepted source sink now shutdownAfter).state.finish :=
  (reaches_loop (planOf settings now shutdownAfter) (begun accepted source sink now)).trans
    (reaches_finish _)

/-- A run that ends with a summary went through its whole history. -/
theorem reaches_run {summary : Summary}
    (finished : (run settings source sink now shutdownAfter).result = .ok summary) :
    ∃ last : State,
      Reaches (begun accepted source sink now) (history accepted source sink now shutdownAfter)
          last ∧
        (run settings source sink now shutdownAfter).sink = last.sink ∧
        summary = last.summary := by
  obtain ⟨same, sameSink⟩ := run_of_summary accepted source sink now shutdownAfter finished
  exact ⟨_, reaches_history accepted source sink now shutdownAfter, sameSink, same⟩

/-- A run that its source does not end has a summary.  What it hands to the
sink and what it counts can be read off its history. -/
theorem handed_of_ended (ending : (looped accepted source sink now shutdownAfter).error = none) :
    ∃ (summary : Summary) (added : List Delivery),
      (run settings source sink now shutdownAfter).result = .ok summary ∧
        (run settings source sink now shutdownAfter).sink.deliveries.toList =
          sink.deliveries.toList ++ added ∧
        added.map Delivery.record =
          Dismissal.takenRecords (fates accepted source sink now shutdownAfter) ∧
        summary.stage =
          ((Stage.ofSettings settings accepted).replay
            (history accepted source sink now shutdownAfter)).totals := by
  have finished := (run_of_ended accepted source sink now shutdownAfter ending).1
  rcases reaches_run accepted source sink now shutdownAfter finished with
    ⟨last, reached, sameSink, same⟩
  rcases reached.deliveries with ⟨added, listed, handed, _⟩
  refine ⟨_, added, finished, sameSink ▸ listed, handed, ?_⟩
  rw [same]
  exact congrArg Stage.totals reached.stage

theorem records_after_history :
    ((Stage.ofSettings settings accepted).replay
      (history accepted source sink now shutdownAfter)).records.toList = [] := by
  have looping : (looped accepted source sink now shutdownAfter).state.stage =
      (Stage.ofSettings settings accepted).replay _ :=
    (reaches_loop (planOf settings now shutdownAfter) (begun accepted source sink now)).stage
  have flushed := ((Stage.sound_ofSettings accepted).replay
    (loopEvents (planOf settings now shutdownAfter) (begun accepted source sink now))).replay
    (Stage.callEvents (looped accepted source sink now shutdownAfter).state.stage .flush)
  rw [history, Stage.replay_append, finishEvents, Stage.replay_append,
    Stage.toList_replay_take flushed, Stage.perform_eq, ← looping, Stage.pendingRecords]
  rw [← looping] at flushed
  rw [← Ring.length_toList flushed.records, List.drop_length]

/-! ## The account -/

/-- The account of a run that ended with the given summary.  The fates are
those of the frames, one by one; the deliveries are those that the run added
to what the sink had been handed before. -/
structure Accounted (settings : Settings) (frames : List (List UInt8)) (fates : List Dismissal)
    (added : List Delivery) (summary : Summary) : Prop where
  framesExtracted : summary.stage.framesExtracted = frames.length
  /-- Every frame left the stage, so that none is pending. -/
  settled : fates.map Dismissal.record = frames.map Record.pad
  /-- The sink was handed what was taken, and that once. -/
  handed : added.map Delivery.record = Dismissal.takenRecords fates
  subsequence : (added.map Delivery.record).Sublist (frames.map Record.pad)
  sent : summary.sent = added.countP Delivery.accepted
  failed : summary.failed = added.countP fun delivery => !delivery.accepted
  handed_counted : added.length = summary.sent + summary.failed
  recordsEvicted : summary.stage.recordsEvicted = (Dismissal.droppedRecords fates).length
  balance : added.length + summary.stage.recordsEvicted = summary.stage.framesExtracted
  /-- A full record ring of newer frames follows each that was dropped. -/
  behind : forall index record, fates[index]? = some { record, taken := false } ->
    index + settings.recordCapacity < frames.length
  newest : (frames.map Record.pad).drop (frames.length - settings.recordCapacity) <:+
    added.map Delivery.record

/-- If whatever was dropped is far behind, the newest records were taken. -/
theorem newest_taken {fates : List Dismissal} {capacity : Nat}
    (behind : forall index record, fates[index]? = some { record, taken := false } ->
      index + capacity < fates.length) :
    (fates.map Dismissal.record).drop (fates.length - capacity) <:+
      Dismissal.takenRecords fates := by
  have taken : forall dismissal, dismissal ∈ fates.drop (fates.length - capacity) ->
      dismissal.taken = true := by
    intro dismissal member
    rcases List.mem_iff_getElem?.1 member with ⟨index, found⟩
    rw [List.getElem?_drop] at found
    rcases dismissal with ⟨record, taken⟩
    cases taken with
    | true => rfl
    | false =>
        have far := behind _ record found
        omega
  rw [← List.map_drop, ← Dismissal.takenRecords_eq_map taken]
  refine ⟨Dismissal.takenRecords (fates.take (fates.length - capacity)), ?_⟩
  rw [← Dismissal.takenRecords_append, List.take_append_drop]

/-- Every frame of a run was taken or dropped in the end. -/
theorem fates_settled :
    (fates accepted source sink now shutdownAfter).map Dismissal.record =
      (frames accepted source sink now shutdownAfter).map Record.pad := by
  have staged := Stage.records_ofSettings accepted (history accepted source sink now shutdownAfter)
  rw [records_after_history, List.append_nil] at staged
  exact staged.symm

theorem length_fates :
    (fates accepted source sink now shutdownAfter).length =
      (frames accepted source sink now shutdownAfter).length := by
  have settled := congrArg List.length (fates_settled accepted source sink now shutdownAfter)
  rw [List.length_map, List.length_map] at settled
  exact settled

/-- A fresh record ring is empty, so that the newer frames alone fill it. -/
theorem fates_behind {index : Nat} {record : Record}
    (found : (fates accepted source sink now shutdownAfter)[index]? =
      some { record, taken := false }) :
    index + settings.recordCapacity < (frames accepted source sink now shutdownAfter).length := by
  have far := Stage.dropped_behind (Stage.sound_ofSettings accepted) _ found
  have capacity : (Stage.ofSettings settings accepted).records.capacity =
    settings.recordCapacity := Ring.capacity_blank _
  have empty : (Stage.ofSettings settings accepted).records.length = 0 := rfl
  rw [capacity, empty, Nat.zero_add] at far
  exact far

theorem all_taken
    (few : (frames accepted source sink now shutdownAfter).length ≤ settings.recordCapacity) :
    Dismissal.takenRecords (fates accepted source sink now shutdownAfter) =
        (frames accepted source sink now shutdownAfter).map Record.pad ∧
      Dismissal.droppedRecords (fates accepted source sink now shutdownAfter) = [] := by
  have settled := fates_settled accepted source sink now shutdownAfter
  have sizes := length_fates accepted source sink now shutdownAfter
  have partition :=
    Dismissal.length_takenRecords_add (fates accepted source sink now shutdownAfter)
  have newest := newest_taken fun index record found =>
    sizes ▸ fates_behind accepted source sink now shutdownAfter found
  rw [sizes, Nat.sub_eq_zero_of_le few, List.drop_zero] at newest
  have all := (Dismissal.takenRecords_sublist _).antisymm newest.sublist
  have size := congrArg List.length all
  rw [List.length_map] at size
  constructor
  · rw [all, settled]
  · apply List.eq_nil_of_length_eq_zero
    omega

theorem length_deliveries (added : List Delivery) :
    added.length =
      added.countP Delivery.accepted + added.countP fun delivery => !delivery.accepted := by
  simpa using List.length_eq_countP_add_countP Delivery.accepted (l := added)

/-- The totals of the stage, and what the sink was handed, make up the
account. -/
theorem accounted_of_handed {summary : Summary} {added : List Delivery}
    (totals : summary.stage =
      ((Stage.ofSettings settings accepted).replay
        (history accepted source sink now shutdownAfter)).totals)
    (handed : added.map Delivery.record =
      Dismissal.takenRecords (fates accepted source sink now shutdownAfter))
    (sent : summary.sent = added.countP Delivery.accepted)
    (failed : summary.failed = added.countP fun delivery => !delivery.accepted) :
    Accounted settings (frames accepted source sink now shutdownAfter)
      (fates accepted source sink now shutdownAfter) added summary := by
  have account := Stage.accounted_ofSettings accepted
    (history accepted source sink now shutdownAfter)
  have settled := fates_settled accepted source sink now shutdownAfter
  have sizes := length_fates accepted source sink now shutdownAfter
  have framesExtracted : summary.stage.framesExtracted =
      (frames accepted source sink now shutdownAfter).length :=
    (congrArg StageTotals.framesExtracted totals).trans account.framesExtracted
  have recordsEvicted : summary.stage.recordsEvicted =
      (Dismissal.droppedRecords (fates accepted source sink now shutdownAfter)).length :=
    (congrArg StageTotals.recordsEvicted totals).trans account.recordsEvicted
  have partition :=
    Dismissal.length_takenRecords_add (fates accepted source sink now shutdownAfter)
  have handedCount := congrArg List.length handed
  rw [List.length_map] at handedCount
  have newest := newest_taken fun index record found =>
    sizes ▸ fates_behind accepted source sink now shutdownAfter found
  rw [settled, sizes] at newest
  exact {
    framesExtracted
    settled
    handed
    subsequence := by
      rw [handed, ← settled]
      exact Dismissal.takenRecords_sublist _
    sent
    failed
    handed_counted := by rw [sent, failed, ← length_deliveries]
    recordsEvicted
    balance := by omega
    behind := fun _ _ found => fates_behind accepted source sink now shutdownAfter found
    newest := handed ▸ newest }

/-- Whatever the source delivers and when, however long sends take, whichever
of them fail, and whenever the request to shut down comes: a run that ends
with a summary accounts for every frame it extracted. -/
theorem run_accounted {summary : Summary}
    (finished : (run settings source sink now shutdownAfter).result = .ok summary) :
    ∃ added : List Delivery,
      (run settings source sink now shutdownAfter).sink.deliveries.toList =
          sink.deliveries.toList ++ added ∧
        (forall index delivery, added[index]? = some delivery ->
          delivery.accepted = sink.accepts (sink.deliveries.size + index)) ∧
        summary.stage =
          ((Stage.ofSettings settings accepted).replay
            (history accepted source sink now shutdownAfter)).totals ∧
        ((Stage.ofSettings settings accepted).replay
          (history accepted source sink now shutdownAfter)).pendingRecords = 0 ∧
        Accounted settings (frames accepted source sink now shutdownAfter)
          (fates accepted source sink now shutdownAfter) added summary := by
  rcases reaches_run accepted source sink now shutdownAfter finished with
    ⟨last, reached, sameSink, rfl⟩
  rcases reached.deliveries with ⟨added, listed, handed, outcomes, sent, failed⟩
  have totals : last.summary.stage = ((Stage.ofSettings settings accepted).replay
      (history accepted source sink now shutdownAfter)).totals :=
    congrArg Stage.totals reached.stage
  have sound := (Stage.sound_ofSettings accepted).replay
    (history accepted source sink now shutdownAfter)
  refine ⟨added, sameSink ▸ listed, outcomes, totals, ?_, ?_⟩
  · rw [Stage.pendingRecords, ← Ring.length_toList sound.records, records_after_history]
    rfl
  · -- The run begins with counts of zero.
    exact accounted_of_handed accepted source sink now shutdownAfter totals handed
      (sent.trans (Nat.zero_add _)) (failed.trans (Nat.zero_add _))

/-- Two frames arrive at once where one record fits, and the sink refuses what
it is sent first. -/
theorem run_of_two_frames_accounted :
    let settings : Settings :=
      { byteCapacity := 4, recordCapacity := 1, scan := { minFill := 1, window := 2 } }
    let source := Source.scripted [[0x7B, 0x7D, 0x7B, 0x7D]] none
    let sink := Sink.scripted (fun _ => 0) (fun index => index != 0) false
    ∃ (accepted : settings.validate = .ok ()) (summary : Summary),
      (run settings source sink 0 none).result = .ok summary ∧
        ∃ added : List Delivery,
          (run settings source sink 0 none).sink.deliveries.toList = added ∧
            Accounted settings (frames accepted source sink 0 none)
              (fates accepted source sink 0 none) added summary := by
  intro settings source sink
  have accepted : settings.validate = .ok () := by decide +kernel
  -- The first turn reads the chunk, the second one the end of the stream.
  have ending : (looped accepted source sink 0 none).error = none := by
    have first : turn (planOf settings 0 none) (begun accepted source sink 0) = .again _ := rfl
    rw [looped, loop_eq, first]
    simp only
    rw [loop_eq]
    rfl
  have finished := (run_of_ended accepted source sink 0 none ending).1
  rcases run_accounted accepted source sink 0 none finished with ⟨added, listed, _, _, _, account⟩
  exact ⟨accepted, _, finished, added, listed, account⟩

end Run
end TelemetryRelay
