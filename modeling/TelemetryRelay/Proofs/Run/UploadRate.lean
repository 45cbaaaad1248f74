import Mathlib.Data.List.Chain
import TelemetryRelay.Proofs.Run.Deliveries

/-!
# How often records are uploaded

A loop sends a record when its upload ticker is due and a record is waiting.
The ticker is served late when reads, attempts or earlier sends keep the loop
busy, and a send may take any time.  Neither makes the sends come faster than
the interval between uploads allows.  A ticker that is served within the
tolerance keeps its schedule, which may bring the next send nearer by as much
as the tolerance; one that is served later starts afresh.  Ticks that find no
record send nothing and move the schedule on all the same.

`Paces` says this of the sends between two states of a loop, with the moment
at which the ticker is due next as the bound for whatever follows, so that it
composes.  The drain behind the loop sends without regard to the ticker and is
not spoken of here.
-/

namespace TelemetryRelay
namespace Run

open Stage (Event)

/-! ## The sends of a loop -/

/-- The time at which a send starts, if the events of a turn take a record and
one is waiting. -/
def State.sends (state : State) (events : List Event) : List Nat :=
  match events, state.stage.nextRecord? with
  | [.take], some _ => [state.now]
  | _, _ => []

/-- The time at which a turn starts to send a record, if it does. -/
def turnSends (plan : Plan) (state : State) : List Nat :=
  state.sends (turnEvents plan state)

/-- The times at which a loop starts to send a record, in order. -/
def loopSends (plan : Plan) (state : State) : List Nat :=
  match _outcome : turn plan state with
  | .again next => turnSends plan state ++ loopSends plan next
  | .ended _ | .failed _ _ => turnSends plan state
termination_by (state.source.backlog, state.ticksLeft, state.timeLeft)
decreasing_by
  exact turn_decreases _outcome

theorem loopSends_eq (plan : Plan) (state : State) :
    loopSends plan state =
      match turn plan state with
      | .again next => turnSends plan state ++ loopSends plan next
      | .ended _ | .failed _ _ => turnSends plan state := by
  rw [loopSends]
  cases turn plan state <;> rfl

/-- The times at which the first turns of a loop, so many of them at most, start
to send a record. -/
def sendsWithin (plan : Plan) : Nat -> State -> List Nat
  | 0, _ => []
  | turns + 1, state =>
      match turn plan state with
      | .again next => turnSends plan state ++ sendsWithin plan turns next
      | .ended _ | .failed _ _ => turnSends plan state

theorem sendsWithin_prefix_loopSends (plan : Plan) (turns : Nat) (state : State) :
    sendsWithin plan turns state <+: loopSends plan state := by
  induction turns generalizing state with
  | zero => exact List.nil_prefix
  | succ turns inductionHypothesis =>
      rw [sendsWithin, loopSends_eq]
      cases turn plan state with
      | again next => exact (List.prefix_append_right_inj _).2 (inductionHypothesis next)
      | ended | failed => exact List.prefix_rfl

/-- The sends that started at the given times lie between two states.  They
keep to the schedule of the upload ticker, and the sink has noted when each of
them was over. -/
structure Paces (state : State) (starts : List Nat) (next : State) : Prop where
  period : next.uploadTick.period = state.uploadTick.period
  /-- Each send, and whatever comes behind the last one, waits for its turn. -/
  due : state.uploadTick.due + starts.length * state.uploadTick.period ≤ next.uploadTick.due
  waited : forall index start, starts[index]? = some start ->
    state.uploadTick.due + index * state.uploadTick.period ≤ start
  apart : starts.IsChain fun first second =>
    first + state.uploadTick.period ≤ second + Ticker.tolerance
  last : forall start, starts.getLast? = some start ->
    start + state.uploadTick.period ≤ next.uploadTick.due + Ticker.tolerance
  delay : next.sink.delay = state.sink.delay
  deliveries : ∃ added : List Delivery,
    next.sink.deliveries.toList = state.sink.deliveries.toList ++ added ∧
      added.map Delivery.time = starts.mapIdx fun index start =>
        start + state.sink.delay (state.sink.deliveries.size + index)

namespace Paces

/-- Without a send the ticker may have been served, in vain. -/
theorem of_none {state next : State} (period : next.uploadTick.period = state.uploadTick.period)
    (due : state.uploadTick.due ≤ next.uploadTick.due) (sink : next.sink = state.sink) :
    Paces state [] next where
  period := period
  due := by
    rw [List.length_nil, Nat.zero_mul]
    exact due
  waited := nofun
  apart := .nil
  last := nofun
  delay := congrArg Sink.delay sink
  deliveries := ⟨[], by rw [sink, List.append_nil], rfl⟩

theorem trans {state between next : State} {starts more : List Nat}
    (first : Paces state starts between) (second : Paces between more next) :
    Paces state (starts ++ more) next := by
  have waits := second.waited
  have due := second.due
  have apart := second.apart
  have last := second.last
  rw [first.period] at waits due apart last
  have moved := first.due
  exact {
    period := second.period.trans first.period
    due := by
      rw [List.length_append, Nat.add_mul]
      omega
    waited := by
      intro index start found
      rcases Nat.lt_or_ge index starts.length with here | behind
      · rw [List.getElem?_append_left here] at found
        exact first.waited index start found
      · rw [List.getElem?_append_right behind] at found
        have later := waits _ start found
        have whole : (index - starts.length) * state.uploadTick.period +
            starts.length * state.uploadTick.period = index * state.uploadTick.period := by
          rw [← Nat.add_mul, Nat.sub_add_cancel behind]
        omega
    apart := by
      refine List.isChain_append.2 ⟨first.apart, apart, ?_⟩
      -- The first send behind waits for the ticker that the last one in front set.
      intro start isLast later isFirst
      have gap := first.last start isLast
      rw [Option.mem_def, List.head?_eq_getElem?] at isFirst
      have wait := waits 0 later isFirst
      omega
    last := by
      intro start isLast
      rw [List.getLast?_append] at isLast
      cases ending : more.getLast? with
      | none =>
          rw [ending, Option.none_or] at isLast
          have gap := first.last start isLast
          omega
      | some final =>
          rw [ending, Option.some_or] at isLast
          exact last start (ending.trans isLast)
    delay := second.delay.trans first.delay
    deliveries := by
      rcases first.deliveries with ⟨added, listed, times⟩
      rcases second.deliveries with ⟨others, othersListed, othersTimes⟩
      have number := congrArg List.length times
      rw [List.length_map, List.length_mapIdx] at number
      have size : between.sink.deliveries.size = state.sink.deliveries.size + starts.length := by
        rw [← Array.length_toList, listed, List.length_append, Array.length_toList, number]
      refine ⟨added ++ others, ?_, ?_⟩
      · rw [othersListed, listed, List.append_assoc]
      · rw [List.map_append, times, othersTimes, List.mapIdx_append, first.delay, size]
        simp only [Nat.add_assoc, Nat.add_comm starts.length] }

end Paces

/-! ## Turns -/

/-- A ticker that is served moves on by a period at least, and so far from the
time of service that the next send keeps its distance. -/
theorem serve_paces (ticker : Ticker) {now : Nat} (due : ticker.isDue now = true) :
    ticker.due + ticker.period ≤ (ticker.serve now).due ∧
      now + ticker.period ≤ (ticker.serve now).due + Ticker.tolerance := by
  have reached : ticker.due ≤ now := by simpa [Ticker.isDue] using due
  simp only [Ticker.serve]
  split <;> omega

theorem paces_serveUpload {state : State} (due : state.uploadTick.isDue state.now = true) :
    Paces state (state.sends [.take]) state.serveUpload := by
  have reached : state.uploadTick.due ≤ state.now := by simpa [Ticker.isDue] using due
  obtain ⟨later, gap⟩ := serve_paces state.uploadTick due
  obtain ⟨_, _, served⟩ := state.serveUpload_keeps
  unfold State.sends
  cases found : state.stage.nextRecord? with
  | none =>
      have sink : state.serveUpload.sink = state.sink := by
        simp only [State.serveUpload, found]
      have period : state.serveUpload.uploadTick.period = state.uploadTick.period := by
        rw [served]
        rfl
      refine .of_none period ?_ sink
      rw [served]
      omega
  | some next =>
      rcases next with ⟨record, rest⟩
      have sent : state.serveUpload =
          { state with
            uploadTick := state.uploadTick.serve state.now
            stage := rest }.deliver record := by
        simp only [State.serveUpload, found]
      rcases State.deliver_effects
        { state with uploadTick := state.uploadTick.serve state.now, stage := rest } record with
        ⟨_, _, deliveries, _⟩
      have clock := State.deliver_clock
        { state with uploadTick := state.uploadTick.serve state.now, stage := rest } record
      exact {
        period := by
          rw [served]
          rfl
        due := by
          rw [served]
          simpa using later
        waited := by
          intro index start single
          rcases List.getElem?_eq_some_iff.1 single with ⟨inside, same⟩
          obtain rfl : index = 0 := Nat.lt_one_iff.1 inside
          rw [← same, Nat.zero_mul]
          exact reached
        apart := .singleton state.now
        last := by
          rintro _ ⟨⟩
          rw [served]
          exact gap
        delay := sent ▸ clock.2
        deliveries := by
          rw [sent]
          exact ⟨_, deliveries, rfl⟩ }

theorem paces_waitingTurn (plan : Plan) (delivery : Nat) (state : State) :
    Paces state (state.sends (waitingEvents state)) (waitingTurn plan delivery state) := by
  unfold waitingEvents waitingTurn
  by_cases attempt : state.extractionTick.isDue state.now = true
  · rw [if_pos attempt, if_pos attempt]
    exact .of_none rfl (Nat.le_refl _) rfl
  · rw [if_neg attempt, if_neg attempt]
    by_cases upload : state.uploadTick.isDue state.now = true
    · rw [if_pos upload, if_pos upload]
      exact paces_serveUpload upload
    · rw [if_neg upload, if_neg upload]
      exact .of_none rfl (Nat.le_refl _) rfl

theorem paces_turn (plan : Plan) (state : State) :
    Paces state (turnSends plan state) (turn plan state).state := by
  unfold turnSends turnEvents turn
  by_cases shutDown : plan.isShutDown state.now = true
  · rw [if_pos shutDown, if_pos shutDown]
    exact .of_none rfl (Nat.le_refl _) rfl
  · rw [if_neg shutDown, if_neg shutDown]
    cases state.source.poll state.now plan.readChunk with
    | refused error => exact .of_none rfl (Nat.le_refl _) rfl
    | waiting due source =>
        have waited := paces_waitingTurn plan due { state with source }
        exact ⟨waited.period, waited.due, waited.waited, waited.apart, waited.last, waited.delay,
          waited.deliveries⟩
    | finished bytes source journal =>
        by_cases none : bytes = []
        · simp only [if_pos none]
          exact .of_none rfl (Nat.le_refl _) rfl
        · simp only [if_neg none]
          exact .of_none rfl (Nat.le_refl _) rfl

theorem paces_loop (plan : Plan) (state : State) :
    Paces state (loopSends plan state) (loop plan state).state := by
  induction state using loop.induct plan with
  | case1 state next goesOn inductionHypothesis =>
      have first := paces_turn plan state
      rw [goesOn] at first
      rw [loop_eq, loopSends_eq, goesOn]
      exact first.trans inductionHypothesis
  | case2 state last ends =>
      have only := paces_turn plan state
      rw [ends] at only
      rw [loop_eq, loopSends_eq, ends]
      exact only
  | case3 state error last fails =>
      have only := paces_turn plan state
      rw [fails] at only
      rw [loop_eq, loopSends_eq, fails]
      exact only

/-! ## Runs -/

/-- Whatever the source, the sink and the request to shut down do to a run, its
uploads are rate limited.  At least as many intervals have passed when one of
them starts as there are uploads before it, and two in a row are an interval
apart, less five milliseconds at most.  These uploads are all that the sink is handed before
the drain: it has noted each of them at the end of the time that it takes, and
what it is handed later comes behind them. -/
theorem uploads_rate_limited {settings : Settings} (accepted : settings.validate = .ok ())
    (source : Source) (sink : Sink) (now : Nat) (shutdownAfter : Option Nat) :
    let starts := loopSends (planOf settings now shutdownAfter) (begun accepted source sink now)
    (forall index start, starts[index]? = some start ->
        now + index * settings.uploadInterval ≤ start) ∧
      starts.IsChain (fun first second => first + settings.uploadInterval ≤ second + 5) ∧
      ∃ uploads drained : List Delivery,
        (looped accepted source sink now shutdownAfter).state.sink.deliveries.toList =
            sink.deliveries.toList ++ uploads ∧
          (run settings source sink now shutdownAfter).sink.deliveries.toList =
            sink.deliveries.toList ++ uploads ++ drained ∧
          uploads.map Delivery.time = starts.mapIdx fun index start =>
            start + sink.delay (sink.deliveries.size + index) := by
  intro starts
  have paces : Paces (begun accepted source sink now) starts
      (looped accepted source sink now shutdownAfter).state :=
    paces_loop (planOf settings now shutdownAfter) (begun accepted source sink now)
  rcases paces.deliveries with ⟨uploads, listed, times⟩
  refine ⟨paces.waited, paces.apart, uploads, ?_⟩
  cases ending : (looped accepted source sink now shutdownAfter).error with
  | some error =>
      refine ⟨[], listed, ?_, times⟩
      rw [run_eq accepted, List.append_nil]
      simp only [ending]
      exact listed
  | none =>
      rcases (reaches_finish (looped accepted source sink now shutdownAfter).state).deliveries with
        ⟨drained, listedLater, _⟩
      refine ⟨drained, listed, ?_, times⟩
      rw [(run_of_ended accepted source sink now shutdownAfter ending).2, listedLater, listed]
      rfl

/-- A read that gave up has fixed the first delivery for the moment at which the
run starts.  The first send takes so long that the second one is five
milliseconds late, which is still in time, so that the third one comes a single
millisecond after it. -/
theorem uploads_rate_limited_with_late_tick :
    let settings : Settings :=
      { byteCapacity := 6, recordCapacity := 3, extractInterval := 1, uploadInterval := 6
        scan := { minFill := 1, window := 2 } }
    let script := Source.scripted [[0x7B, 0x7D, 0x7B, 0x7D, 0x7B, 0x7D], [0x7D]] (some 13)
    let source := (script.read 0 6 (some 12)).source
    let sink := Sink.scripted (fun index => if index = 0 then 11 else 0) (fun _ => true) false
    ∃ accepted : settings.validate = .ok (),
      ∃ later, loopSends (planOf settings 13 none) (begun accepted source sink 13) =
          13 :: 24 :: 25 :: later ∧
        (13 :: 24 :: 25 :: later).IsChain fun first second => first + 6 ≤ second + 5 := by
  intro settings script source sink
  have accepted : settings.validate = .ok () := by decide +kernel
  refine ⟨accepted, ?_⟩
  have first : sendsWithin (planOf settings 13 none) 8 (begun accepted source sink 13) =
      [13, 24, 25] := by
    decide +kernel +revert
  have apart := (uploads_rate_limited accepted source sink 13 none).2.1
  rcases sendsWithin_prefix_loopSends (planOf settings 13 none) 8
    (begun accepted source sink 13) with ⟨later, sends⟩
  rw [first] at sends
  rw [← sends] at apart
  exact ⟨later, sends.symm, apart⟩

end Run
end TelemetryRelay
