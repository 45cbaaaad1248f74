import TelemetryRelay.Proofs.Run.Conservation
import TelemetryRelay.Proofs.Stage.Batch
import TelemetryRelay.Proofs.Stage.Flush

/-!
# Runs come to an end

None of the three loops of a run counts its turns.  The first takes turns until
one of them ends it, the flush makes attempts until one makes no progress, and
the drain takes records until none is left.  `Turns`, `Stage.Exhausts` and
`Drains` say what these loops do one turn at a time and set no bound, so that
it is something to be proved that they get anywhere.

Ticks recur for ever, a slow sink makes them late, and late ticks are made up
for.  None of this keeps the run from its source.  The time of the next
delivery stands once it is fixed; a tick that is served moves its ticker on,
and with no tick to serve the clock moves.  Hence the ticks before the
delivery and the time up to it, taken together, are a state's patience: every
turn that is not a read uses some of it up, however much time that turn takes.
-/

namespace TelemetryRelay
namespace Run

/-! ## Turn by turn -/

/-- How a turn ends the loop, if it does. -/
def Turn.exit? : Turn -> Option Exit
  | again _ => none
  | ended last => some { state := last, error := none }
  | failed error last => some { state := last, error := some error }

/-- The loop goes on for so many turns, which lead from one state to another. -/
inductive Turns (plan : Plan) : Nat -> State -> State -> Prop
  | none {state : State} : Turns plan 0 state state
  | next {count : Nat} {state between last : State} (goesOn : turn plan state = .again between)
      (later : Turns plan count between last) : Turns plan (count + 1) state last

section

variable {plan : Plan}

/-- The loop gets to a turn that ends it, and comes to what this turn leaves. -/
theorem exists_turns_to_exit (plan : Plan) (state : State) :
    ∃ count last, Turns plan count state last ∧
      (turn plan last).exit? = some (loop plan state) := by
  induction state using loop.induct plan with
  | case1 state next goesOn inductionHypothesis =>
      rcases inductionHypothesis with ⟨count, last, later, ends⟩
      rw [loop_eq, goesOn]
      exact ⟨count + 1, last, .next goesOn later, ends⟩
  | case2 state last ends =>
      rw [loop_eq, ends]
      exact ⟨0, state, .none, by rw [ends]; rfl⟩
  | case3 state error last fails =>
      rw [loop_eq, fails]
      exact ⟨0, state, .none, by rw [fails]; rfl⟩

theorem Turns.le_of_exit {count more : Nat} {state last other : State} {exit : Exit}
    (turns : Turns plan count state last) (ends : (turn plan last).exit? = some exit)
    (others : Turns plan more state other) : more ≤ count := by
  induction turns generalizing more with
  | none =>
      cases others with
      | none => exact Nat.le_refl 0
      | next goesOn =>
          rw [goesOn] at ends
          cases ends
  | next goesOn _ inductionHypothesis =>
      cases others with
      | none => exact Nat.zero_le _
      | next same later =>
          rw [goesOn] at same
          cases same
          exact Nat.succ_le_succ (inductionHypothesis ends later)

/-! ## Between two reads -/

def State.patience (state : State) : Nat :=
  state.ticksLeft + state.timeLeft

/-- The turn that comes is a read: it hands a piece of the script to the
stage, and what the source still has to deliver becomes less. -/
def State.IsRead (plan : Plan) (state : State) : Prop :=
  ∃ piece next, piece ≠ [] ∧ turnEvents plan state = [.receive piece] ∧
    turn plan state = .again next ∧ next.source.backlog < state.source.backlog

theorem isRead_of_backlog_lt {state next : State} (goesOn : turn plan state = .again next)
    (less : next.source.backlog < state.source.backlog) : state.IsRead plan := by
  have course := course plan state
  rw [goesOn] at course
  cases course with
  | reads early answer nonempty =>
      refine ⟨_, _, nonempty, ?_, goesOn, less⟩
      rw [turnEvents, early, if_neg Bool.false_ne_true, answer]
      exact if_neg nonempty
  | waits _ answer =>
      -- A source that is not ready keeps what it has.
      obtain ⟨_, _, rfl⟩ := Source.poll_waiting answer
      rw [waitingTurn_source] at less
      exact absurd less (Nat.lt_irrefl _)

/-- A turn that is no read costs patience, whatever it does. -/
theorem patience_lt {state next : State} (goesOn : turn plan state = .again next)
    (noRead : ¬state.IsRead plan) :
    next.source.backlog = state.source.backlog ∧ next.patience < state.patience := by
  unfold State.patience
  rcases turn_advances goesOn with less | ⟨same, ⟨ticks, time⟩ | ⟨ticks, time⟩⟩
  · exact absurd (isRead_of_backlog_lt goesOn less) noRead
  · exact ⟨same, Nat.add_lt_add_of_lt_of_le ticks time⟩
  · exact ⟨same, Nat.add_lt_add_of_le_of_lt (Nat.le_of_eq ticks) time⟩

/-- The loop is over, or the source is read, before the patience of a state is
exhausted. -/
theorem read_within_patience (plan : Plan) (state : State) :
    ∃ count next, count ≤ state.patience ∧ Turns plan count state next ∧
      next.source.backlog = state.source.backlog ∧
      (next.IsRead plan ∨ ∃ exit, (turn plan next).exit? = some exit) := by
  -- The induction is on the patience; a read or the end of the loop needs none.
  induction patience : state.patience using Nat.strongRecOn generalizing state with
  | ind patience inductionHypothesis =>
      subst patience
      by_cases read : state.IsRead plan
      · exact ⟨0, state, Nat.zero_le _, .none, rfl, .inl read⟩
      · cases taken : turn plan state with
        | again between =>
            obtain ⟨same, less⟩ := patience_lt taken read
            rcases inductionHypothesis _ less between rfl with
              ⟨count, next, few, turns, unread, found⟩
            exact ⟨count + 1, next, Nat.lt_of_le_of_lt few less, .next taken turns,
              unread.trans same, found⟩
        | ended last => exact ⟨0, state, Nat.zero_le _, .none, rfl, .inr ⟨_, by rw [taken]; rfl⟩⟩
        | failed error last =>
            exact ⟨0, state, Nat.zero_le _, .none, rfl, .inr ⟨_, by rw [taken]; rfl⟩⟩

end

/-! ## The end of a run -/

def State.flushed (state : State) : State :=
  ({ state with stage := state.stage.flush.stage }.report state.stage.flush.signals).log
    [.flushed state.stage.flush.result state.stage.flush.stage.pendingRecords]

theorem summary_finish (state : State) :
    state.finish.summary = (state.flushed.drain state.flushed.stage.pendingRecords).summary :=
  rfl

/-- Records are taken and sent, so many of them, until none is left. -/
inductive Drains : Nat -> State -> State -> Prop
  | nothing {state : State} (nothing : state.stage.nextRecord? = none) : Drains 0 state state
  | record {count : Nat} {state last : State} {record : Record} {rest : Stage}
      (taken : state.stage.nextRecord? = some (record, rest))
      (later : Drains count ({ state with stage := rest }.deliver record) last) :
      Drains (count + 1) state last

theorem nextRecord?_of_none_pending {stage : Stage} (nothing : stage.pendingRecords = 0) :
    stage.nextRecord? = none := by
  have empty : stage.records.isEmpty = true := beq_iff_eq.2 nothing
  rw [Stage.nextRecord?, Ring.pop?, if_pos empty]
  rfl

theorem drains_drain {state : State} {bound : Nat} (enough : state.stage.pendingRecords ≤ bound) :
    ∃ count, count ≤ state.stage.pendingRecords ∧ Drains count state (state.drain bound) := by
  induction bound generalizing state with
  | zero =>
      have nothing := nextRecord?_of_none_pending (Nat.le_zero.1 enough)
      exact ⟨0, Nat.zero_le _, .nothing nothing⟩
  | succ bound inductionHypothesis =>
      cases taken : state.stage.nextRecord? with
      | none =>
          rw [drain_nothing taken]
          exact ⟨0, Nat.zero_le _, .nothing taken⟩
      | some next =>
          rcases next with ⟨record, rest⟩
          have sameStage : (State.deliver { state with stage := rest } record).stage = rest :=
            (State.deliver_effects { state with stage := rest } record).1
          have fewer : rest.pendingRecords < state.stage.pendingRecords :=
            Stage.length_nextRecord?_lt taken
          have enoughLater :
              (State.deliver { state with stage := rest } record).stage.pendingRecords ≤ bound := by
            rw [sameStage]
            omega
          rcases inductionHypothesis enoughLater with ⟨count, few, drains⟩
          rw [sameStage] at few
          rw [State.drain, taken]
          exact ⟨count + 1, Nat.lt_of_le_of_lt few fewer, .record taken drains⟩

/-! ## The run -/

/-- A run that begins with the given state comes to an end. -/
structure Ends (plan : Plan) (first : State) (exit : Exit) (result : Except Failure Summary) :
    Prop where
  /-- The loop takes some number of turns and no more than these. -/
  turns : ∃ count last, Turns plan count first last ∧ (turn plan last).exit? = some exit ∧
    forall more other, Turns plan more first other -> more ≤ count
  /-- However far the loop has come, the next read is not put off for ever. -/
  reads : forall count state, Turns plan count first state ->
    ∃ waits next, waits ≤ state.patience ∧ Turns plan waits state next ∧
      next.source.backlog = state.source.backlog ∧
      (next.IsRead plan ∨ ∃ exit, (turn plan next).exit? = some exit)
  failed : forall error, exit.error = some error -> result = .error (.source error)
  /-- The flush and the drain end as well, and the summary is that of the
  state behind them. -/
  finished : exit.error = none ->
    ∃ attempts sends drained, attempts ≤ exit.state.stage.bufferedBytes ∧
      Stage.Exhausts attempts exit.state.stage exit.state.flushed.stage ∧
      sends ≤ exit.state.flushed.stage.pendingRecords ∧
      Drains sends exit.state.flushed drained ∧ result = .ok drained.summary

/-- Every run comes to an end: its loop after a number of turns, its flush
after no more attempts with progress than bytes are buffered, its drain after
no more sends than records are pending.  This holds of all acceptable
settings, of a source in any state and with any pace, of a sink that takes any
time for a send, and whenever the request to shut down comes. -/
theorem run_ends {settings : Settings} (accepted : settings.validate = .ok ()) (source : Source)
    (sink : Sink) (now : Nat) (shutdownAfter : Option Nat) :
    Ends (planOf settings now shutdownAfter) (begun accepted source sink now)
      (looped accepted source sink now shutdownAfter)
      (run settings source sink now shutdownAfter).result where
  turns := by
    rcases exists_turns_to_exit (planOf settings now shutdownAfter)
      (begun accepted source sink now) with ⟨count, last, turns, ends⟩
    exact ⟨count, last, turns, ends, fun _ _ others => turns.le_of_exit ends others⟩
  reads := fun _ state _ => read_within_patience _ state
  failed := fun _ failing => run_of_failed accepted source sink now shutdownAfter failing
  finished := by
    intro ending
    have sound : (looped accepted source sink now shutdownAfter).state.stage.Sound := by
      rw [stage_looped]
      exact (Stage.sound_ofSettings accepted).replay _
    rcases Stage.exhausts_flush sound with ⟨attempts, few, exhausts⟩
    rcases drains_drain (Nat.le_refl
      (looped accepted source sink now shutdownAfter).state.flushed.stage.pendingRecords) with
      ⟨sends, fewSends, drains⟩
    have result := (run_of_ended accepted source sink now shutdownAfter ending).1
    rw [summary_finish] at result
    exact ⟨attempts, sends, _, few, exhausts, fewSends, drains, result⟩

/-- Both tickers are due every millisecond, a chunk is withheld for three, and
a send takes twenty, so that every tick is late. -/
theorem run_with_late_ticks_ends :
    let settings : Settings :=
      { byteCapacity := 4, recordCapacity := 2, extractInterval := 1, uploadInterval := 1
        scan := { minFill := 1, window := 2 } }
    let source := Source.scripted [[0x7B, 0x7D], [0x7B, 0x7D]] (some 3)
    let sink := Sink.scripted (fun _ => 20) (fun index => index != 0) false
    ∃ accepted : settings.validate = .ok (),
      Ends (planOf settings 0 (some 100)) (begun accepted source sink 0)
        (looped accepted source sink 0 (some 100))
        (run settings source sink 0 (some 100)).result := by
  intro settings source sink
  have accepted : settings.validate = .ok () := by decide +kernel
  exact ⟨accepted, run_ends accepted source sink 0 (some 100)⟩

end Run
end TelemetryRelay
