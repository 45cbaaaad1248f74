import TelemetryRelay.Proofs.Run.Deliveries
import TelemetryRelay.Proofs.Source.Delivery

/-!
# What runs take from their source

A turn of a run asks its source for bytes, and often gives the request up
again: another activity comes first, the request to shut down arrives, or the
run is over while a chunk is still withheld.  None of this loses or repeats a
byte.  What `Yields` says of a single poll it says of a whole run, and of one
run after the other on the same source.

The bytes of a run are read off the events of its loop, so that they are what
its stage received.  A run over a source that has reported its end fails, but
then nothing had been received.
-/

namespace TelemetryRelay
namespace Run

open Stage (Event)

/-! ## One run -/

def echoOf (echo : Bool) (bytes : List UInt8) : List UInt8 :=
  if echo then bytes else []

theorem echoOf_nil (echo : Bool) : echoOf echo [] = [] :=
  ite_self _

theorem echoOf_append (echo : Bool) (first second : List UInt8) :
    echoOf echo (first ++ second) = echoOf echo first ++ echoOf echo second := by
  cases echo <;> rfl

/-- The bytes that events bring leave the source, and are written back to it
if they are to be echoed. -/
def Supplied (echo : Bool) (source : Source) (events : List Event) (next : Source) : Prop :=
  source.Yields (events.flatMap Event.bytes) (echoOf echo (events.flatMap Event.bytes)) next

theorem Supplied.of_silent {echo : Bool} {source next : Source} {events : List Event}
    (silent : events.flatMap Event.bytes = []) (yields : source.Yields [] [] next) :
    Supplied echo source events next := by
  rw [Supplied, silent, echoOf_nil]
  exact yields

theorem Supplied.trans {echo : Bool} {source between next : Source} {events later : List Event}
    (first : Supplied echo source events between) (second : Supplied echo between later next) :
    Supplied echo source (events ++ later) next := by
  rw [Supplied, List.flatMap_append, echoOf_append]
  exact Source.Yields.trans first second

theorem supplied_receive {state : State} {echo : Bool} {source : Source} {bytes : List UInt8}
    (yields : source.Yields bytes [] state.source) :
    Supplied echo source [.receive bytes] (state.receive echo bytes).source := by
  have only : [Event.receive bytes].flatMap Event.bytes = bytes := List.append_nil bytes
  rw [Supplied, only]
  cases echo with
  | false => exact yields
  | true =>
      have written := yields.written
      rw [List.append_nil] at written
      exact ⟨yields.chunks, yields.bytesRead, congrArg (· ++ bytes) written⟩

theorem bytes_waitingEvents (state : State) :
    (waitingEvents state).flatMap Event.bytes = [] := by
  unfold waitingEvents
  split
  · rfl
  · split <;> rfl

theorem waitingTurn_source (plan : Plan) (delivery : Nat) (state : State) :
    (waitingTurn plan delivery state).source = state.source := by
  unfold waitingTurn
  split
  · rfl
  · split
    · exact state.serveUpload_keeps.1
    · rfl

/-- However a turn ends, what it received is gone from the source and nothing
else is. -/
theorem supplied_turn (plan : Plan) (state : State) :
    Supplied plan.echo state.source (turnEvents plan state) (turn plan state).state.source := by
  unfold turn turnEvents
  by_cases shutDown : plan.isShutDown state.now = true
  · rw [if_pos shutDown, if_pos shutDown]
    exact .of_silent rfl (.refl _)
  · rw [if_neg shutDown, if_neg shutDown]
    cases answer : state.source.poll state.now plan.readChunk with
    | refused error => exact .of_silent rfl (.refl _)
    | waiting due source =>
        -- The time of delivery is kept for the next poll.
        obtain ⟨_, _, rfl⟩ := Source.poll_waiting answer
        refine .of_silent (bytes_waitingEvents state) ?_
        change state.source.Yields [] [] (waitingTurn plan due _).source
        rw [waitingTurn_source]
        exact ⟨rfl, rfl, (List.append_nil _).symm⟩
    | finished bytes source journal =>
        have yields := Source.yields_poll_finished answer
        by_cases none : bytes = []
        · subst none
          exact .of_silent rfl yields
        · simp only [if_neg none]
          exact supplied_receive yields

theorem supplied_loop (plan : Plan) (state : State) :
    Supplied plan.echo state.source (loopEvents plan state) (loop plan state).state.source :=
  @loop_composes plan (fun first events last => Supplied plan.echo first.source events last.source)
    (supplied_turn plan) Supplied.trans state

theorem drain_source (count : Nat) (state : State) : (state.drain count).source = state.source := by
  induction count generalizing state with
  | zero => rfl
  | succ count inductionHypothesis =>
      rw [State.drain]
      split
      · rfl
      · rw [inductionHypothesis, State.deliver_source]

theorem finish_source (state : State) : state.finish.source = state.source :=
  drain_source _ _

/-! ### Runs that fail -/

theorem turn_again_open {plan : Plan} {state next : State} (goesOn : turn plan state = .again next) :
    state.source.closed = false ∧ next.source.closed = false := by
  have course := course plan state
  rw [goesOn] at course
  cases isClosed : state.source.closed with
  | true =>
      cases course with
      | reads _ answer | waits _ answer =>
          rw [Source.poll_of_closed isClosed] at answer
          cases answer
  | false =>
      refine ⟨rfl, ?_⟩
      cases course with
      | reads _ answer nonempty =>
          obtain ⟨sameBytes, sameSource⟩ := Source.poll_finished answer nonempty
          have stillOpen := state.source.closed_deliver plan.readChunk (sameBytes ▸ nonempty)
          rw [← sameSource, isClosed] at stillOpen
          cases plan.echo <;> exact stillOpen
      | waits _ answer =>
          obtain ⟨_, _, rfl⟩ := Source.poll_waiting answer
          rw [waitingTurn_source]
          exact isClosed

theorem closed_of_loop_failed {plan : Plan} {state : State} {error : SourceError}
    (failed : (loop plan state).error = some error) : state.source.closed = true := by
  induction state using loop.induct plan with
  | case1 state next goesOn inductionHypothesis =>
      rw [loop_eq, goesOn] at failed
      have closed := inductionHypothesis failed
      rw [(turn_again_open goesOn).2] at closed
      cases closed
  | case2 state last ends =>
      rw [loop_eq, ends] at failed
      cases failed
  | case3 state failure last fails =>
      have course := course plan state
      rw [fails] at course
      cases course with
      | refused _ answer => exact Source.closed_of_poll_refused answer

/-- Nothing happens to the stage of a run over such a source. -/
theorem loopEvents_of_closed {plan : Plan} {state : State} (closed : state.source.closed = true) :
    loopEvents plan state = [] := by
  have silent : turnEvents plan state = [] := by
    unfold turnEvents
    rw [Source.poll_of_closed closed]
    exact ite_self _
  rw [loopEvents_eq]
  split
  · rename_i next goesOn
    rw [(turn_again_open goesOn).1] at closed
    cases closed
  · exact silent
  · exact silent

section

variable {settings : Settings} (accepted : settings.validate = .ok ()) (source : Source)
  (sink : Sink) (now : Nat) (shutdownAfter : Option Nat)

/-- The events of the loop of a run, the flush and the drain at its end
apart. -/
def loopHistory : List Event :=
  loopEvents (planOf settings now shutdownAfter) (begun accepted source sink now)

theorem history_eq :
    history accepted source sink now shutdownAfter =
      loopHistory accepted source sink now shutdownAfter ++
        finishEvents (looped accepted source sink now shutdownAfter).state :=
  rfl

theorem stage_looped :
    (looped accepted source sink now shutdownAfter).state.stage =
      (Stage.ofSettings settings accepted).replay
        (loopHistory accepted source sink now shutdownAfter) :=
  (reaches_loop (planOf settings now shutdownAfter) (begun accepted source sink now)).stage

/-- What leaves the byte ring during a run leaves it in the loop or at the
flush.  The drain takes records only. -/
theorem segments_history :
    let last := (looped accepted source sink now shutdownAfter).state
    (Stage.ofSettings settings accepted).segments
        (history accepted source sink now shutdownAfter) =
      (Stage.ofSettings settings accepted).segments
          (loopHistory accepted source sink now shutdownAfter) ++
        last.stage.segments (last.stage.callEvents .flush) := by
  intro last
  rw [history_eq, finishEvents, Stage.segments_append, Stage.segments_append,
    Stage.segments_takes, List.append_nil, ← stage_looped]

def received : List UInt8 :=
  (loopHistory accepted source sink now shutdownAfter).flatMap Event.bytes

/-- A run leaves the source that its loop leaves, whether or not it ends with
a summary. -/
theorem run_source :
    (run settings source sink now shutdownAfter).source =
      (looped accepted source sink now shutdownAfter).state.source := by
  rw [run_eq accepted]
  simp only
  split
  · rfl
  · exact finish_source _

theorem supplied_run :
    source.Yields (received accepted source sink now shutdownAfter)
      (echoOf settings.serial.echo (received accepted source sink now shutdownAfter))
      (run settings source sink now shutdownAfter).source := by
  rw [run_source accepted]
  exact supplied_loop (planOf settings now shutdownAfter) (begun accepted source sink now)

theorem bytes_finishEvents (state : State) : (finishEvents state).flatMap Event.bytes = [] := by
  refine List.flatMap_eq_nil_iff.2 ?_
  intro event member
  rcases List.mem_append.1 member with attempted | taken
  · rw [List.eq_of_mem_replicate attempted]
    rfl
  · rw [List.eq_of_mem_replicate taken]
    rfl

theorem bytes_history :
    (history accepted source sink now shutdownAfter).flatMap Event.bytes =
      received accepted source sink now shutdownAfter := by
  rw [history_eq, List.flatMap_append, bytes_finishEvents, List.append_nil]
  rfl

end

/-- The received bytes as the summary of a run counts them.  A run that failed
has no summary. -/
def Outcome.bytesIngested (outcome : Outcome) : Nat :=
  match outcome.result with
  | .ok summary => summary.stage.bytesIngested
  | .error _ => 0

theorem bytesIngested_run {settings : Settings} (accepted : settings.validate = .ok ())
    (source : Source) (sink : Sink) (now : Nat) (shutdownAfter : Option Nat) :
    (run settings source sink now shutdownAfter).bytesIngested =
      (received accepted source sink now shutdownAfter).length := by
  cases ending : (looped accepted source sink now shutdownAfter).error with
  | some error =>
      have closed : source.closed = true := closed_of_loop_failed ending
      have nothing : received accepted source sink now shutdownAfter = [] := by
        rw [received, loopHistory, loopEvents_of_closed closed]
        rfl
      rw [nothing, Outcome.bytesIngested,
        run_of_failed accepted source sink now shutdownAfter ending]
      rfl
  | none =>
      have finished := (run_of_ended accepted source sink now shutdownAfter ending).1
      obtain ⟨last, reached, _, same⟩ :=
        reaches_run accepted source sink now shutdownAfter finished
      have counted := (Stage.accounted_ofSettings accepted
        (history accepted source sink now shutdownAfter)).bytesIngested
      rw [bytes_history] at counted
      rw [Outcome.bytesIngested, finished, same]
      exact (congrArg (fun stage => stage.totals.bytesIngested) reached.stage).trans counted

/-! ## One run after the other -/

/-- The circumstances of a run: where its records go, when it starts, and when
it is asked to shut down, if it is. -/
structure Session where
  sink : Sink
  now : Nat
  shutdownAfter : Option Nat

def outcomes (settings : Settings) (source : Source) : List Session -> List Outcome
  | [] => []
  | session :: later =>
      let outcome := run settings source session.sink session.now session.shutdownAfter
      outcome :: outcomes settings outcome.source later

def sourceAfter (settings : Settings) (source : Source) : List Session -> Source
  | [] => source
  | session :: later =>
      sourceAfter settings
        (run settings source session.sink session.now session.shutdownAfter).source later

/-- The bytes that the stages of the runs receive, one run after the other. -/
def receivedBy {settings : Settings} (accepted : settings.validate = .ok ()) (source : Source) :
    List Session -> List UInt8
  | [] => []
  | session :: later =>
      received accepted source session.sink session.now session.shutdownAfter ++
        receivedBy accepted
          (run settings source session.sink session.now session.shutdownAfter).source later

section

variable {settings : Settings} (accepted : settings.validate = .ok ())

theorem yields_sourceAfter (source : Source) (sessions : List Session) :
    source.Yields (receivedBy accepted source sessions)
      (echoOf settings.serial.echo (receivedBy accepted source sessions))
      (sourceAfter settings source sessions) := by
  induction sessions generalizing source with
  | nil =>
      rw [receivedBy, echoOf_nil]
      exact .refl source
  | cons session later inductionHypothesis =>
      rw [receivedBy, echoOf_append]
      exact (supplied_run accepted source _ _ _).trans (inductionHypothesis _)

theorem bytesIngested_outcomes (source : Source) (sessions : List Session) :
    ((outcomes settings source sessions).map Outcome.bytesIngested).sum =
      (receivedBy accepted source sessions).length := by
  induction sessions generalizing source with
  | nil => rfl
  | cons session later inductionHypothesis =>
      rw [outcomes, List.map_cons, List.sum_cons, inductionHypothesis, bytesIngested_run accepted,
        receivedBy, List.length_append]

/-- Runs over one scripted source lose no byte, repeat none and keep the
order.  It does not matter how many runs there are, when each of them is asked
to shut down, how long its sends take, or whether chunks are paced.

The received bytes are those of the events that make up the stage of a
run. -/
theorem runs_conserve_bytes (chunks : List (List UInt8)) (pace : Option Nat)
    (sessions : List Session) :
    let source := Source.scripted chunks pace
    let last := sourceAfter settings source sessions
    let ingested := receivedBy accepted source sessions
    ingested ++ last.chunks.flatten = chunks.flatten ∧
      ((outcomes settings source sessions).map Outcome.bytesIngested).sum = last.bytesRead ∧
      last.written = (if settings.serial.echo then ingested else []) ∧
      forall (source : Source) (session : Session),
        ∃ events : List Event,
          received accepted source session.sink session.now session.shutdownAfter =
              events.flatMap Event.bytes ∧
            (looped accepted source session.sink session.now session.shutdownAfter).state.stage =
              (Stage.ofSettings settings accepted).replay events := by
  intro source last ingested
  have yields := yields_sourceAfter accepted source sessions
  refine ⟨yields.chunks, ?_, yields.written, ?_⟩
  · rw [bytesIngested_outcomes accepted, yields.bytesRead]
    exact (Nat.zero_add _).symm
  · intro source session
    exact ⟨_, rfl, stage_looped accepted source session.sink session.now session.shutdownAfter⟩

end

/-- A chunk that is read in two pieces, a request to shut down that comes while
the second piece is withheld, and a byte ring that cannot hold everything. -/
theorem runs_conserve_split_chunk :
    let settings : Settings :=
      { byteCapacity := 2, serial := { readChunk := 2, echo := true }
        scan := { minFill := 1, window := 2 } }
    let source := Source.scripted [[1, 2, 3], [4, 5]] (some 10)
    let sink := Sink.scripted (fun _ => 3) (fun _ => false) false
    let sessions : List Session := [⟨sink, 0, some 15⟩, ⟨sink, 15, none⟩, ⟨sink, 40, some 0⟩]
    ∃ accepted : settings.validate = .ok (),
      let last := sourceAfter settings source sessions
      let ingested := receivedBy accepted source sessions
      ingested ++ last.chunks.flatten = [1, 2, 3, 4, 5] ∧
        ((outcomes settings source sessions).map Outcome.bytesIngested).sum = last.bytesRead ∧
        last.written = ingested := by
  intro settings source sink sessions
  have accepted : settings.validate = .ok () := by decide +kernel
  rcases runs_conserve_bytes accepted [[1, 2, 3], [4, 5]] (some 10) sessions with
    ⟨whole, counted, echoed, _⟩
  exact ⟨accepted, whole, counted, echoed⟩

end Run
end TelemetryRelay
