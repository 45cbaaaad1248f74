import TelemetryRelay.Proofs.Stage.Ledger
import TelemetryRelay.Run

/-!
# What happens to the stage during a run

A run interleaves reception, extraction and uploads as its clock and its
source have it, and ends with a flush and a drain.  To the stage this is a
sequence of events like any other.  The definitions below read the sequence
off the turns of the loop; they decide nothing that the loop does not decide.

`Reaches` relates two states of a run by the events between them.  The later
stage is the earlier one after these events, and what the sink was handed in
the meantime is exactly what the events took from the stage, in the same
order, whether or not the sends succeeded.  Single activities establish it,
and it composes, so that it holds of the loop, of the drain and of the whole
run without regard to how they are interleaved.
-/

namespace TelemetryRelay
namespace Run

open Stage (Event Dismissal)

/-! ## The events of a run -/

def waitingEvents (state : State) : List Event :=
  if state.extractionTick.isDue state.now then [.attempt]
  else if state.uploadTick.isDue state.now then [.take]
  else []

def turnEvents (plan : Plan) (state : State) : List Event :=
  if plan.isShutDown state.now then []
  else
    match state.source.poll state.now plan.readChunk with
    | .refused _ => []
    | .finished bytes _ _ => if bytes = [] then [] else [.receive bytes]
    | .waiting _ _ => waitingEvents state

def loopEvents (plan : Plan) (state : State) : List Event :=
  match _outcome : turn plan state with
  | .again next => turnEvents plan state ++ loopEvents plan next
  | .ended _ | .failed _ _ => turnEvents plan state
termination_by (state.source.backlog, state.ticksLeft, state.timeLeft)
decreasing_by
  exact turn_decreases _outcome

/-- The events of the end of a run: a flush, and the records it leaves. -/
def finishEvents (state : State) : List Event :=
  state.stage.callEvents .flush ++
    List.replicate (state.stage.perform .flush).pendingRecords .take

/-! ## What lies between two states -/

/-- The events between two states, as the stage and the sink saw them. -/
structure Reaches (state : State) (events : List Event) (next : State) : Prop where
  stage : next.stage = state.stage.replay events
  accepts : next.sink.accepts = state.sink.accepts
  deliveries : ∃ added : List Delivery,
    next.sink.deliveries.toList = state.sink.deliveries.toList ++ added ∧
      added.map Delivery.record = Dismissal.takenRecords (state.stage.dismissed events) ∧
      (forall index delivery, added[index]? = some delivery ->
        delivery.accepted = state.sink.accepts (state.sink.deliveries.size + index)) ∧
      next.sent = state.sent + added.countP Delivery.accepted ∧
      next.failed = state.failed + added.countP fun delivery => !delivery.accepted

namespace Reaches

variable {state between next : State} {events later : List Event}

theorem of_same (stage : next.stage = state.stage) (sink : next.sink = state.sink)
    (sent : next.sent = state.sent) (failed : next.failed = state.failed) :
    Reaches state [] next :=
  { stage
    accepts := congrArg Sink.accepts sink
    deliveries := ⟨[], by rw [sink, List.append_nil], rfl, nofun, sent, failed⟩ }

/-- An event that takes no record does not concern the sink. -/
theorem of_event {event : Event} (stage : next.stage = state.stage.undergo event)
    (untaken : Dismissal.takenRecords (state.stage.dismissals event) = [])
    (sink : next.sink = state.sink) (sent : next.sent = state.sent)
    (failed : next.failed = state.failed) : Reaches state [event] next :=
  { stage
    accepts := congrArg Sink.accepts sink
    deliveries :=
      ⟨[], by rw [sink, List.append_nil],
        by rw [Stage.dismissed, Stage.gather, Stage.gather, List.append_nil, untaken]; rfl,
        nofun, sent, failed⟩ }

theorem trans (first : Reaches state events between) (second : Reaches between later next) :
    Reaches state (events ++ later) next := by
  rcases first.deliveries with ⟨added, listed, records, outcomes, sent, failed⟩
  rcases second.deliveries with ⟨more, moreListed, moreRecords, moreOutcomes, moreSent, moreFailed⟩
  refine ⟨?_, second.accepts.trans first.accepts, added ++ more, ?_, ?_, ?_, ?_, ?_⟩
  · rw [second.stage, first.stage, Stage.replay_append]
  · rw [moreListed, listed, List.append_assoc]
  · rw [List.map_append, records, moreRecords, first.stage, ← Dismissal.takenRecords_append,
      ← Stage.dismissed_append]
  · intro index delivery found
    rcases Nat.lt_or_ge index added.length with here | behind
    · rw [List.getElem?_append_left here] at found
      exact outcomes index delivery found
    · rw [List.getElem?_append_right behind] at found
      have size := congrArg List.length listed
      rw [List.length_append, Array.length_toList, Array.length_toList] at size
      rw [moreOutcomes _ delivery found, first.accepts]
      congr 1
      omega
  · rw [moreSent, sent, List.countP_append, Nat.add_assoc]
  · rw [moreFailed, failed, List.countP_append, Nat.add_assoc]

end Reaches

/-! ## Single activities -/

namespace State

/-- A delivery is noted by the sink as one it accepted or refused, and counted
accordingly.  The stage is left alone. -/
theorem deliver_effects (state : State) (record : Record) :
    let accepted := state.sink.accepts state.sink.deliveries.size
    let time := state.now + state.sink.delay state.sink.deliveries.size
    (state.deliver record).stage = state.stage ∧
      (state.deliver record).sink.accepts = state.sink.accepts ∧
      (state.deliver record).sink.deliveries.toList =
        state.sink.deliveries.toList ++ [Delivery.mk time record accepted] ∧
      (state.deliver record).sent = state.sent + (if accepted then 1 else 0) ∧
      (state.deliver record).failed = state.failed + (if accepted then 0 else 1) := by
  cases outcome : state.sink.accepts state.sink.deliveries.size <;>
    simp [deliver, Sink.send, outcome, report, log]

end State

theorem reaches_receive (state : State) (echo : Bool) (bytes : List UInt8) :
    Reaches state [.receive bytes] (state.receive echo bytes) :=
  .of_event rfl rfl rfl rfl rfl

theorem takenRecords_attempt (stage : Stage) :
    Dismissal.takenRecords (stage.dismissals .attempt) = [] := by
  rw [Stage.dismissals, Dismissal.takenRecords_all, if_neg Bool.false_ne_true]

theorem reaches_serveExtraction (state : State) :
    Reaches state [.attempt] state.serveExtraction :=
  .of_event rfl (takenRecords_attempt state.stage) rfl rfl rfl

/-- A taken record is handed to the sink, whatever becomes of it there. -/
theorem reaches_deliver {state : State} {record : Record} {rest : Stage}
    (found : state.stage.nextRecord? = some (record, rest)) :
    Reaches state [.take] ({ state with stage := rest }.deliver record) := by
  rcases State.deliver_effects { state with stage := rest } record with
    ⟨stage, accepts, deliveries, sent, failed⟩
  refine ⟨?_, accepts, _, deliveries, ?_, ?_, ?_, ?_⟩
  · rw [stage, Stage.replay_cons, Stage.replay_nil, Stage.undergo, found]
  · have dismissals : state.stage.dismissals .take = Dismissal.all true [record] := by
      rw [Stage.dismissals, found]
      rfl
    rw [Stage.dismissed, Stage.gather, Stage.gather, List.append_nil, dismissals]
    rfl
  · intro index delivery single
    rcases List.getElem?_eq_some_iff.1 single with ⟨inside, same⟩
    rw [List.length_singleton, Nat.lt_one_iff] at inside
    subst inside
    rw [← same]
    rfl
  · rw [sent, List.countP_singleton]
  · rw [failed, List.countP_singleton]
    cases state.sink.accepts state.sink.deliveries.size <;> rfl

theorem reaches_take_nothing {state : State} (none : state.stage.nextRecord? = none) :
    Reaches state [.take] state := by
  refine .of_event ?_ ?_ rfl rfl rfl
  · rw [Stage.undergo, none]
  · rw [Stage.dismissals, none]
    rfl

/-- Where the ticker stands plays no part. -/
theorem reaches_serveUpload (state : State) : Reaches state [.take] state.serveUpload := by
  unfold State.serveUpload
  simp only
  split
  · rename_i none
    have served := reaches_take_nothing none
    exact ⟨served.stage, served.accepts, served.deliveries⟩
  · rename_i record rest found
    have served : Reaches { state with uploadTick := state.uploadTick.serve state.now } [.take] _ :=
      reaches_deliver found
    exact ⟨served.stage, served.accepts, served.deliveries⟩

/-! ## The loop -/

theorem reaches_waitingTurn (plan : Plan) (delivery : Nat) (state : State) :
    Reaches state (waitingEvents state) (waitingTurn plan delivery state) := by
  unfold waitingEvents waitingTurn
  split
  · exact reaches_serveExtraction state
  · split
    · exact reaches_serveUpload state
    · exact .of_same rfl rfl rfl rfl

/-- The state that a turn leaves, however it ends. -/
def Turn.state : Turn -> State
  | again state | ended state | failed _ state => state

theorem reaches_turn (plan : Plan) (state : State) :
    Reaches state (turnEvents plan state) (turn plan state).state := by
  unfold turn turnEvents
  by_cases shutDown : plan.isShutDown state.now = true
  · rw [if_pos shutDown, if_pos shutDown]
    exact .of_same rfl rfl rfl rfl
  · rw [if_neg shutDown, if_neg shutDown]
    cases state.source.poll state.now plan.readChunk with
    | refused error => exact .of_same rfl rfl rfl rfl
    | waiting due source =>
        have waited := reaches_waitingTurn plan due { state with source }
        exact ⟨waited.stage, waited.accepts, waited.deliveries⟩
    | finished bytes source journal =>
        by_cases none : bytes = []
        · simp only [if_pos none]
          exact .of_same rfl rfl rfl rfl
        · simp only [if_neg none]
          have received := reaches_receive ({ state with source }.log journal) plan.echo bytes
          exact ⟨received.stage, received.accepts, received.deliveries⟩

theorem loop_eq (plan : Plan) (state : State) :
    loop plan state =
      match turn plan state with
      | .again next => loop plan next
      | .ended last => { state := last, error := none }
      | .failed error last => { state := last, error := some error } := by
  rw [loop]
  cases turn plan state <;> rfl

theorem loopEvents_eq (plan : Plan) (state : State) :
    loopEvents plan state =
      match turn plan state with
      | .again next => turnEvents plan state ++ loopEvents plan next
      | .ended _ | .failed _ _ => turnEvents plan state := by
  rw [loopEvents]
  cases turn plan state <;> rfl

/-- What holds between the states before and after every turn, and composes,
holds between those before and after the loop. -/
theorem loop_composes {plan : Plan} {leads : State -> List Event -> State -> Prop}
    (turns : forall state, leads state (turnEvents plan state) (turn plan state).state)
    (composes : forall {first between last : State} {events later : List Event},
      leads first events between -> leads between later last -> leads first (events ++ later) last)
    (state : State) : leads state (loopEvents plan state) (loop plan state).state := by
  induction state using loop.induct plan with
  | case1 state next goesOn inductionHypothesis =>
      have first := turns state
      rw [loop_eq, loopEvents_eq]
      rw [goesOn] at first ⊢
      exact composes first inductionHypothesis
  | case2 state last ends =>
      have only := turns state
      rw [loop_eq, loopEvents_eq]
      rw [ends] at only ⊢
      exact only
  | case3 state error last fails =>
      have only := turns state
      rw [loop_eq, loopEvents_eq]
      rw [fails] at only ⊢
      exact only

/-- A loop goes on as long as its turns keep to an expectation, and ends
without an error if one of them ends it.  What is then settled for the last
turn is settled for the turns before it, one by one. -/
theorem loop_settles {plan : Plan} {ι : Type} {keeps : ι -> State -> Prop}
    {settles : ι -> State -> List Event -> State -> Prop}
    (turns : forall {expected state}, keeps expected state ->
      (∃ last, turn plan state = .ended last ∧
          settles expected state (turnEvents plan state) last) ∨
        ∃ next left, turn plan state = .again next ∧ keeps left next ∧
          forall later last, settles left next later last ->
            settles expected state (turnEvents plan state ++ later) last)
    {expected : ι} {state : State} (kept : keeps expected state) :
    (loop plan state).error = none ∧
      settles expected state (loopEvents plan state) (loop plan state).state := by
  induction state using loop.induct plan generalizing expected with
  | case1 state next goesOn inductionHypothesis =>
      rcases turns kept with ⟨_, ends, _⟩ | ⟨_, _, again, left, before⟩
      · rw [goesOn] at ends
        cases ends
      · rw [goesOn] at again
        cases again
        rcases inductionHypothesis left with ⟨ending, settled⟩
        rw [loop_eq, loopEvents_eq, goesOn]
        exact ⟨ending, before _ _ settled⟩
  | case2 state last ends =>
      rcases turns kept with ⟨_, same, settled⟩ | ⟨_, _, again, _⟩
      · rw [ends] at same
        cases same
        rw [loop_eq, loopEvents_eq, ends]
        exact ⟨rfl, settled⟩
      · rw [ends] at again
        cases again
  | case3 state error last fails =>
      rcases turns kept with ⟨_, ends, _⟩ | ⟨_, _, again, _⟩
      · rw [fails] at ends
        cases ends
      · rw [fails] at again
        cases again

theorem reaches_loop (plan : Plan) (state : State) :
    Reaches state (loopEvents plan state) (loop plan state).state :=
  loop_composes (reaches_turn plan) Reaches.trans state

/-! ## The end -/

theorem drain_nothing {state : State} (none : state.stage.nextRecord? = none) (count : Nat) :
    state.drain count = state := by
  cases count with
  | zero => rfl
  | succ count => rw [State.drain, none]

theorem reaches_drain (count : Nat) (state : State) :
    Reaches state (List.replicate count .take) (state.drain count) := by
  induction count generalizing state with
  | zero => exact .of_same rfl rfl rfl rfl
  | succ count inductionHypothesis =>
      rw [List.replicate_succ]
      cases found : state.stage.nextRecord? with
      | none =>
          have rest := inductionHypothesis state
          rw [drain_nothing found] at rest ⊢
          exact (reaches_take_nothing found).trans rest
      | some next =>
          rw [State.drain, found]
          exact (reaches_deliver found).trans (inductionHypothesis _)

theorem takenRecords_attempts (count : Nat) (stage : Stage) :
    Dismissal.takenRecords (stage.dismissed (List.replicate count .attempt)) = [] := by
  rw [Stage.dismissed, Stage.gather_piecewise _ _ rfl Dismissal.takenRecords_append]
  apply Stage.gather_eq_nil
  intro stage event member
  rw [List.eq_of_mem_replicate member]
  exact takenRecords_attempt stage

theorem reaches_finish (state : State) : Reaches state (finishEvents state) state.finish := by
  have flushed : Reaches state (state.stage.callEvents .flush)
      { state with stage := state.stage.perform .flush } :=
    { stage := state.stage.perform_eq .flush
      accepts := rfl
      deliveries :=
        ⟨[], by rw [List.append_nil], (takenRecords_attempts _ _).symm, nofun, rfl, rfl⟩ }
  refine flushed.trans ?_
  unfold State.finish
  simp only
  have drained := reaches_drain (state.stage.perform .flush).pendingRecords
    (({ state with stage := state.stage.perform .flush }.report state.stage.flush.signals).log
      [.flushed state.stage.flush.result (state.stage.perform .flush).pendingRecords])
  exact ⟨drained.stage, drained.accepts, drained.deliveries⟩

end Run
end TelemetryRelay
