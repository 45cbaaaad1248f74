import TelemetryRelay.Proofs.Run.Termination

/-!
# Runs that fail

Two things can make a run fail: settings that are not acceptable, and a source
that has reported its end before.  The first is found out before anything
begins.  The second is found out by the first turn, since a source that is
open stays so until a turn reads the end, and that turn is the last one.  A run
that fails has therefore received nothing, sent nothing and counted nothing,
and leaves its source as it was.

Every other run ends with a summary, and its last turn tells why.  Either the
request to shut down has come, or the source reports its end.  The latter
closes the source, and nothing else does.
-/

namespace TelemetryRelay
namespace Run

/-! ## Sources that are closed -/

section

variable {plan : Plan} {state : State}

theorem loop_of_closed (closed : state.source.closed = true)
    (early : plan.isShutDown state.now = false) :
    loop plan state = { state, error := some .closed } := by
  have fails : turn plan state = .failed .closed state := by
    rw [turn, early, if_neg Bool.false_ne_true, Source.poll_of_closed closed]
  rw [loop_eq, fails]

theorem loop_of_shutDown (request : plan.isShutDown state.now = true) :
    loop plan state = { state := state.log [.shutdownRequested], error := none } := by
  have ends : turn plan state = .ended (state.log [.shutdownRequested]) := by
    rw [turn, if_pos request]
  rw [loop_eq, ends]

theorem loop_error_iff {error : SourceError} :
    (loop plan state).error = some error ↔
      state.source.closed = true ∧ plan.isShutDown state.now = false ∧ error = .closed := by
  constructor
  · intro failing
    have closed := closed_of_loop_failed failing
    cases early : plan.isShutDown state.now with
    | true =>
        rw [loop_of_shutDown early] at failing
        cases failing
    | false =>
        rw [loop_of_closed closed early] at failing
        cases failing
        exact ⟨closed, rfl, rfl⟩
  · rintro ⟨closed, early, rfl⟩
    rw [loop_of_closed closed early]

/-! ## Sources that are open -/

theorem Turns.stillOpen {count : Nat} {last : State} (turns : Turns plan count state last)
    (isOpen : state.source.closed = false) : last.source.closed = false := by
  induction turns with
  | none => exact isOpen
  | next goesOn _ inductionHypothesis => exact inductionHypothesis (turn_again_open goesOn).2

/-- The next turn reads the end of the stream. -/
def State.IsOver (plan : Plan) (state : State) : Prop :=
  plan.isShutDown state.now = false ∧
    ∃ source journal, state.source.poll state.now plan.readChunk = .finished [] source journal

/-- A turn that ends the loop does so for one of two reasons, and closes an
open source for one of them only. -/
theorem closed_of_ended {last : State} (ends : turn plan state = .ended last)
    (readable : 0 < plan.readChunk) :
    (plan.isShutDown state.now = true ∨ state.IsOver plan) ∧
      (state.source.closed = false -> (last.source.closed = true ↔ state.IsOver plan)) := by
  have course := course plan state
  rw [ends] at course
  cases course with
  | shutDown request =>
      refine ⟨.inl request, fun isOpen => ⟨fun closed => ?_, fun finished => ?_⟩⟩
      · exact absurd (isOpen.symm.trans closed) Bool.false_ne_true
      · exact absurd (finished.1.symm.trans request) Bool.false_ne_true
  | atEnd early answer =>
      have finished : state.IsOver plan := ⟨early, _, _, answer⟩
      have closed := Source.closed_poll_nothing readable answer
      exact ⟨.inr finished, fun _ => ⟨fun _ => finished, fun _ => closed⟩⟩

end

/-! ## Whole runs -/

/-- Nothing was sent, nothing was counted, and the source is as it was. -/
structure Outcome.Untouched (outcome : Outcome) (source : Source) (sink : Sink) (now : Nat) :
    Prop where
  source : outcome.source = source
  sink : outcome.sink = sink
  now : outcome.now = now
  counters : forall counter, Signal.total? counter outcome.signals = none
  gauge : Signal.lastRatio? outcome.signals = none

/-- A run ends with a summary: the turns of its loop lead to one that ends it,
and what is left then is flushed and drained. -/
structure Completes (plan : Plan) (first before last : State) (outcome : Outcome) : Prop where
  turns : ∃ count, Turns plan count first before
  ended : turn plan before = .ended last
  reason : plan.isShutDown before.now = true ∨ before.IsOver plan
  result : outcome.result = .ok last.finish.summary
  sink : outcome.sink = last.finish.sink
  drained : last.finish.stage.pendingRecords = 0 ∧ last.finish.stage.nextRecord? = none
  /-- Every frame was sent, in vain or not, or dropped for want of room. -/
  settled : last.finish.sent + last.finish.failed + last.finish.stage.totals.recordsEvicted =
    last.finish.stage.totals.framesExtracted
  closes : first.source.closed = false -> (outcome.source.closed = true ↔ before.IsOver plan)

section

variable {settings : Settings} (accepted : settings.validate = .ok ()) (source : Source)
  (sink : Sink) (now : Nat) (shutdownAfter : Option Nat)

/-- The request comes at the start if it is to come after no time. -/
theorem isShutDown_planOf (settings : Settings) :
    (planOf settings now shutdownAfter).isShutDown now = false ↔ shutdownAfter ≠ some 0 := by
  rw [Plan.isShutDown, planOf]
  cases shutdownAfter with
  | none =>
      constructor
      · intro _ impossible
        cases impossible
      · intro _
        rfl
  | some time =>
      simp only [Option.map_some, Option.any_some, decide_eq_false_iff_not, ne_eq,
        Option.some.injEq]
      omega

theorem looped_error_iff {error : SourceError} :
    (looped accepted source sink now shutdownAfter).error = some error ↔
      source.closed = true ∧ shutdownAfter ≠ some 0 ∧ error = .closed := by
  rw [← isShutDown_planOf now shutdownAfter settings]
  exact loop_error_iff

theorem run_of_rejected {fault : Settings.Fault} (rejected : settings.validate = .error fault) :
    run settings source sink now shutdownAfter =
      { result := .error (.settings fault), now, source, sink, signals := [] } := by
  unfold run
  split
  · rename_i other rejectedToo
    rw [rejected] at rejectedToo
    cases rejectedToo
    rfl
  · rename_i acceptedToo
    rw [rejected] at acceptedToo
    cases acceptedToo

theorem run_of_closed (closed : source.closed = true) (later : shutdownAfter ≠ some 0) :
    run settings source sink now shutdownAfter =
      (begun accepted source sink now).outcome (.error (.source .closed)) := by
  have early : (planOf settings now shutdownAfter).isShutDown now = false :=
    (isShutDown_planOf now shutdownAfter settings).2 later
  have first : looped accepted source sink now shutdownAfter =
      { state := begun accepted source sink now, error := some .closed } :=
    loop_of_closed closed early
  rw [run_eq accepted, first]

theorem turn_of_exit {plan : Plan} {state : State} {exit : Exit}
    (ends : (turn plan state).exit? = some exit) (unfailing : exit.error = none) :
    turn plan state = .ended exit.state := by
  cases taken : turn plan state with
  | again next =>
      rw [taken] at ends
      cases ends
  | ended last =>
      rw [taken] at ends
      cases ends
      rfl
  | failed error last =>
      rw [taken] at ends
      cases ends
      cases unfailing

theorem completes_of_ended (ending : (looped accepted source sink now shutdownAfter).error = none) :
    ∃ before last, Completes (planOf settings now shutdownAfter) (begun accepted source sink now)
      before last (run settings source sink now shutdownAfter) := by
  rcases exists_turns_to_exit (planOf settings now shutdownAfter)
    (begun accepted source sink now) with ⟨count, before, turns, ends⟩
  have ended := turn_of_exit ends ending
  obtain ⟨reason, closes⟩ := closed_of_ended ended (Settings.readChunk_positive accepted)
  obtain ⟨finished, sameSink⟩ := run_of_ended accepted source sink now shutdownAfter ending
  have stage := (reaches_history accepted source sink now shutdownAfter).stage
  rcases run_accounted accepted source sink now shutdownAfter finished with
    ⟨added, _, _, _, nothing, account⟩
  have pending : (looped accepted source sink now shutdownAfter).state.finish.stage.pendingRecords =
      0 := stage ▸ nothing
  have settled := account.balance
  rw [account.handed_counted] at settled
  exact ⟨before, _, {
    turns := ⟨count, turns⟩
    ended
    reason
    result := finished
    sink := sameSink
    drained := ⟨pending, nextRecord?_of_none_pending pending⟩
    settled
    closes := by
      intro isOpen
      rw [run_source accepted]
      exact closes (turns.stillOpen isOpen) }⟩

include accepted in
theorem result_error_iff {failure : Failure} :
    (run settings source sink now shutdownAfter).result = .error failure ↔
      source.closed = true ∧ shutdownAfter ≠ some 0 ∧ failure = .source .closed := by
  cases ending : (looped accepted source sink now shutdownAfter).error with
  | some error =>
      obtain ⟨closed, later, rfl⟩ :=
        (looped_error_iff accepted source sink now shutdownAfter).1 ending
      rw [run_of_failed accepted source sink now shutdownAfter ending]
      constructor
      · intro same
        cases same
        exact ⟨closed, later, rfl⟩
      · rintro ⟨_, _, rfl⟩
        rfl
  | none =>
      -- Had the source been closed in time, the loop would have failed.
      rw [(run_of_ended accepted source sink now shutdownAfter ending).1]
      constructor
      · intro impossible
        cases impossible
      · rintro ⟨closed, later, _⟩
        have failing := (looped_error_iff accepted source sink now shutdownAfter).2
          ⟨closed, later, rfl⟩
        rw [ending] at failing
        cases failing

end

section

variable {settings : Settings} {source : Source} {sink : Sink} {now : Nat}
  {shutdownAfter : Option Nat} {failure : Failure}

theorem run_error_iff :
    (run settings source sink now shutdownAfter).result = .error failure ↔
      (∃ fault, settings.validate = .error fault ∧ failure = .settings fault) ∨
        settings.validate = .ok () ∧ source.closed = true ∧ shutdownAfter ≠ some 0 ∧
          failure = .source .closed := by
  cases judged : settings.validate with
  | error fault =>
      rw [run_of_rejected source sink now shutdownAfter judged]
      constructor
      · intro same
        cases same
        exact .inl ⟨fault, rfl, rfl⟩
      · rintro (⟨other, same, rfl⟩ | ⟨impossible, _⟩)
        · cases same
          rfl
        · cases impossible
  | ok =>
      rw [result_error_iff judged source sink now shutdownAfter]
      constructor
      · intro failing
        exact .inr ⟨rfl, failing⟩
      · rintro (⟨fault, impossible, _⟩ | ⟨_, failing⟩)
        · cases impossible
        · exact failing

theorem untouched_of_failed
    (failing : (run settings source sink now shutdownAfter).result = .error failure) :
    (run settings source sink now shutdownAfter).Untouched source sink now := by
  rcases run_error_iff.1 failing with ⟨fault, rejected, _⟩ | ⟨accepted, closed, later, _⟩
  · rw [run_of_rejected source sink now shutdownAfter rejected]
    exact ⟨rfl, rfl, rfl, fun _ => rfl, rfl⟩
  · -- The two journal lines of the beginning are all that was emitted.
    rw [run_of_closed accepted source sink now shutdownAfter closed later]
    exact ⟨rfl, rfl, rfl, fun _ => rfl, rfl⟩

end

/-- A run fails exactly if its settings are not acceptable or its source is
closed and the request to shut down does not come at the start, and then
nothing has been touched.  Any other run ends with a summary, all its records
drained, and closes an open source exactly if it came to the end of the
stream. -/
theorem run_fails_untouched (settings : Settings) (source : Source) (sink : Sink) (now : Nat)
    (shutdownAfter : Option Nat) :
    let outcome := run settings source sink now shutdownAfter
    (forall failure, outcome.result = .error failure ↔
        (∃ fault, settings.validate = .error fault ∧ failure = .settings fault) ∨
          settings.validate = .ok () ∧ source.closed = true ∧ shutdownAfter ≠ some 0 ∧
            failure = .source .closed) ∧
      (forall failure, outcome.result = .error failure -> outcome.Untouched source sink now) ∧
      forall accepted : settings.validate = .ok (),
        ¬(source.closed = true ∧ shutdownAfter ≠ some 0) ->
          ∃ before last,
            Completes (planOf settings now shutdownAfter) (begun accepted source sink now) before
              last outcome := by
  refine ⟨fun _ => run_error_iff, fun _ => untouched_of_failed, ?_⟩
  intro accepted unfailing
  apply completes_of_ended
  cases ending : (looped accepted source sink now shutdownAfter).error with
  | none => rfl
  | some error =>
      obtain ⟨closed, later, _⟩ :=
        (looped_error_iff accepted source sink now shutdownAfter).1 ending
      exact absurd ⟨closed, later⟩ unfailing

/-- Settings that leave no room for a read, a source that an earlier run has
read to its end, the same source when the request comes at the start, and a
source that is open. -/
theorem runs_over_closed_source :
    let settings : Settings :=
      { byteCapacity := 2, recordCapacity := 1, scan := { minFill := 1, window := 2 } }
    let rejected : Settings := { settings with serial := { readChunk := 0 } }
    let sink := Sink.scripted (fun _ => 1) (fun _ => true) false
    let opened := Source.scripted [[0x7B, 0x7D]] (some 4)
    let closed := { opened with closed := true }
    ∃ accepted : settings.validate = .ok (),
      (run rejected closed sink 0 none).Untouched closed sink 0 ∧
        (run settings closed sink 0 (some 5)).Untouched closed sink 0 ∧
        (∃ before last,
          Completes (planOf settings 0 (some 0)) (begun accepted closed sink 0) before last
            (run settings closed sink 0 (some 0))) ∧
        ∃ before last,
          Completes (planOf settings 0 (some 5)) (begun accepted opened sink 0) before last
            (run settings opened sink 0 (some 5)) := by
  intro settings rejected sink opened closed
  have accepted : settings.validate = .ok () := by decide +kernel
  have fault : ∃ fault, rejected.validate = .error fault := ⟨_, rfl⟩
  rcases run_fails_untouched rejected closed sink 0 none with ⟨fails, untouched, _⟩
  rcases run_fails_untouched settings closed sink 0 (some 5) with ⟨failsLater, untouchedLater, _⟩
  rcases run_fails_untouched settings closed sink 0 (some 0) with ⟨_, _, completes⟩
  rcases run_fails_untouched settings opened sink 0 (some 5) with ⟨_, _, completesOpened⟩
  refine ⟨accepted, ?_, ?_, ?_, ?_⟩
  · obtain ⟨fault, judged⟩ := fault
    exact untouched _ ((fails _).2 (.inl ⟨fault, judged, rfl⟩))
  · exact untouchedLater _ ((failsLater _).2 (.inr ⟨accepted, rfl, nofun, rfl⟩))
  · exact completes accepted fun ⟨_, later⟩ => later rfl
  · exact completesOpened accepted fun ⟨impossible, _⟩ => Bool.noConfusion impossible

end Run
end TelemetryRelay
