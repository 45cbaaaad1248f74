import TelemetryRelay.Proofs.Run.Failures
import TelemetryRelay.Proofs.Run.Unpaced
import TelemetryRelay.Proofs.Source.Schedule

/-!
# When the end of a stream is reported

A source tells the end of its stream by a read that returns nothing although
it had room.  An empty chunk of a script is read in the same way.  So the end is
reported at the first empty chunk, and what stands behind that chunk is never
delivered, neither to a reader nor to a run.

`Source.remaining` is what a source has still to deliver before it reports the
end.  A read, a turn of a run, and therefore a schedule and a run, take their
bytes from the front of it, and the end is reported only when it is used up.
-/

namespace TelemetryRelay
namespace Source

/-! ## What is still to be delivered -/

/-- The bytes before the end of the stream, as the source is going to report
it. -/
def remaining (source : Source) : List UInt8 :=
  if source.closed then [] else stream source.chunks

theorem remaining_of_closed {source : Source} (closed : source.closed = true) :
    source.remaining = [] := by
  rw [remaining, if_pos closed]

section

variable {source : Source} {size : Nat}

theorem remaining_deliver (isOpen : source.closed = false) (room : 0 < size) :
    source.remaining = (source.deliver size).bytes ++ (source.deliver size).source.remaining := by
  rw [remaining, isOpen, if_neg Bool.false_ne_true]
  rcases source.stream_deliver room with ⟨nothing, exhausted⟩ | ⟨some, goesOn⟩
  · rw [nothing, exhausted, remaining_of_closed (closed_deliver_nothing nothing)]
    rfl
  · rw [remaining, source.closed_deliver size some, isOpen, if_neg Bool.false_ne_true]
    exact goesOn

/-- What a poll with room brings comes from a delivery, also if it is
nothing. -/
theorem deliver_of_poll_finished {next : Source} {now : Nat} {bytes : List UInt8}
    {journal : List Entry} (room : 0 < size)
    (answers : source.poll now size = .finished bytes next journal) :
    source.closed = false ∧ bytes = (source.deliver size).bytes ∧
      next = (source.deliver size).source := by
  unfold poll at answers
  split at answers
  · cases answers
  · rename_i notClosed
    rw [if_neg (Nat.ne_of_gt room)] at answers
    refine ⟨Bool.eq_false_iff.2 notClosed, ?_⟩
    split at answers
    · split at answers
      · cases answers
      · cases answers
        exact ⟨rfl, rfl⟩
    · cases answers
      exact ⟨rfl, rfl⟩

/-! ## Reads and schedules -/

namespace Reads

variable {now : Nat} {patience : Option Nat} {read : Read}

theorem remaining (reads : source.Reads now size patience read) (room : 0 < size) :
    source.remaining = read.result.returned ++ read.source.remaining := by
  cases reads with
  | refused closed => exact (remaining_of_closed closed).symm ▸ rfl
  | idle _ noRoom => exact absurd noRoom (Nat.ne_of_gt room)
  | delivered isOpen room => exact remaining_deliver isOpen room
  | cancelled => rfl

theorem of_nothing (reads : source.Reads now size patience read) (room : 0 < size)
    (nothing : read.result = .bytes []) :
    source.remaining = [] ∧ read.source.closed = true := by
  have left := reads.remaining room
  cases reads with
  | refused | cancelled => cases nothing
  | idle _ noRoom => exact absurd noRoom (Nat.ne_of_gt room)
  | delivered =>
      have none : (source.deliver size).bytes = [] := ReadResult.bytes.inj nothing
      have closed := closed_deliver_nothing none
      rw [remaining_of_closed closed, List.append_nil] at left
      exact ⟨left.trans none, closed⟩

/-- Without a limit to its patience, a read of an open source returns something
or reports the end. -/
theorem of_patient (reads : source.Reads now size none read) (room : 0 < size) :
    read.source.closed = true ∨ read.result.returned ≠ [] := by
  cases reads with
  | refused closed => exact .inl closed
  | idle _ noRoom => exact absurd noRoom (Nat.ne_of_gt room)
  | delivered =>
      by_cases nothing : (source.deliver size).bytes = []
      · exact .inl (closed_deliver_nothing nothing)
      · exact .inr nothing
  | cancelled _ _ limited => cases limited

end Reads

end

namespace Moment

theorem remaining_after (moment : Moment) {action : Action} (room : action.HasRoom) :
    moment.source.remaining = moment.returned action ++ (moment.after action).source.remaining := by
  cases action with
  | read size patience => exact (moment.source.reads_read moment.now size patience).remaining room
  | wait | write => rfl

theorem remaining_follow (moment : Moment) {actions : List Action}
    (rooms : forall action, action ∈ actions -> action.HasRoom) :
    moment.source.remaining =
      moment.returnedBy actions ++ (moment.follow actions).source.remaining := by
  induction actions generalizing moment with
  | nil => rfl
  | cons action later inductionHypothesis =>
      have rest := inductionHypothesis (moment.after action) fun action member =>
        rooms action (List.mem_cons_of_mem _ member)
      rw [moment.remaining_after (rooms action List.mem_cons_self), rest, returnedBy,
        List.append_assoc]
      rfl

theorem returnedBy_of_closed {moment : Moment} {actions : List Action}
    (rooms : forall action, action ∈ actions -> action.HasRoom)
    (closed : (moment.follow actions).source.closed = true) :
    moment.returnedBy actions = moment.source.remaining := by
  rw [moment.remaining_follow rooms, remaining_of_closed closed, List.append_nil]

/-- Patient reads come to the end, since each of them before it returns at least
one byte. -/
theorem closed_of_reads (moment : Moment) {sizes : List Nat}
    (rooms : forall size, size ∈ sizes -> 0 < size)
    (enough : moment.source.remaining.length < sizes.length) :
    (moment.follow (sizes.map (Action.read · none))).source.closed = true := by
  induction sizes generalizing moment with
  | nil => exact absurd enough (Nat.not_lt_zero _)
  | cons size later inductionHypothesis =>
      have room : 0 < size := rooms size List.mem_cons_self
      have reads := moment.source.reads_read moment.now size none
      rcases reads.of_patient room with closed | some
      · exact @Moment.follow_keeps (fun source => source.closed = true) Moment.closed_after _
          closed (later.map (Action.read · none))
      · apply inductionHypothesis (moment.after (.read size none)) fun size member =>
          rooms size (List.mem_cons_of_mem _ member)
        have shorter := congrArg List.length (reads.remaining room)
        have positive := List.length_pos_iff.2 some
        rw [List.length_append] at shorter
        rw [List.length_cons] at enough
        simp only [after]
        omega

end Moment

end Source

namespace Run

open Stage (Event)

/-! ## Runs -/

theorem remaining_turn {plan : Plan} (readable : 0 < plan.readChunk) (state : State) :
    state.source.remaining =
      (turnEvents plan state).flatMap Event.bytes ++ (turn plan state).state.source.remaining := by
  unfold turn turnEvents
  by_cases shutDown : plan.isShutDown state.now = true
  · rw [if_pos shutDown, if_pos shutDown]
    rfl
  · rw [if_neg shutDown, if_neg shutDown]
    cases answer : state.source.poll state.now plan.readChunk with
    | refused error => rfl
    | waiting due source =>
        obtain ⟨_, _, rfl⟩ := Source.poll_waiting answer
        simp only [bytes_waitingEvents, List.nil_append, Turn.state, waitingTurn_source]
        rfl
    | finished bytes source journal =>
        obtain ⟨isOpen, rfl, rfl⟩ := Source.deliver_of_poll_finished readable answer
        have left := Source.remaining_deliver isOpen readable
        by_cases none : (state.source.deliver plan.readChunk).bytes = []
        · rw [none] at left
          simp only [if_pos none]
          exact left
        · simp only [if_neg none, List.flatMap_singleton]
          cases plan.echo <;> exact left

theorem remaining_loop {plan : Plan} (readable : 0 < plan.readChunk) (state : State) :
    state.source.remaining =
      (loopEvents plan state).flatMap Event.bytes ++
        (loop plan state).state.source.remaining := by
  apply @loop_composes plan (fun first events last =>
    first.source.remaining = events.flatMap Event.bytes ++ last.source.remaining)
  · exact remaining_turn readable
  · intro first between last events later here behind
    rw [here, behind, List.flatMap_append, List.append_assoc]

/-- A loop that is not asked to shut down ends with the end of the stream. -/
theorem closed_loop {plan : Plan} (readable : 0 < plan.readChunk) (unasked : plan.shutdown = none)
    (state : State) : (loop plan state).state.source.closed = true := by
  have early (now : Nat) : plan.isShutDown now = false := by
    rw [Plan.isShutDown, unasked]
    rfl
  induction state using loop.induct plan with
  | case1 state next goesOn inductionHypothesis =>
      rw [loop_eq, goesOn]
      exact inductionHypothesis
  | case2 state last ends =>
      have course := course plan state
      rw [ends] at course
      rw [loop_eq, ends]
      cases course with
      | shutDown request =>
          rw [early] at request
          cases request
      | atEnd _ answer => exact Source.closed_poll_nothing readable answer
  | case3 state error last fails =>
      have course := course plan state
      rw [fails] at course
      rw [loop_eq, fails]
      cases course with
      | refused _ answer => exact Source.closed_of_poll_refused answer

section

variable {settings : Settings} (accepted : settings.validate = .ok ()) (source : Source)
  (sink : Sink) (now : Nat)

theorem received_of_unasked :
    received accepted source sink now none = source.remaining := by
  have readable := Settings.readChunk_positive accepted
  have left := @remaining_loop (planOf settings now none) readable
    (begun accepted source sink now)
  rw [Source.remaining_of_closed (closed_loop readable rfl _), List.append_nil] at left
  exact left.symm

include accepted

theorem summary_of_unasked (isOpen : source.closed = false) :
    ∃ summary, (run settings source sink now none).result = .ok summary ∧
      summary.stage.bytesIngested = source.remaining.length := by
  have ending : (looped accepted source sink now none).error = none := by
    cases failing : (looped accepted source sink now none).error with
    | none => rfl
    | some error =>
        have closed := ((looped_error_iff accepted source sink now none).1 failing).1
        rw [isOpen] at closed
        cases closed
  have finished := (run_of_ended accepted source sink now none ending).1
  have counted := bytesIngested_run accepted source sink now none
  rw [Outcome.bytesIngested, finished, received_of_unasked] at counted
  exact ⟨_, finished, counted⟩

end

/-! ## The end of a script -/

/-- Whoever is told the end of a script has got the given bytes. -/
structure EndsBehind (bytes : List UInt8) (chunks : List (List UInt8)) (pace : Option Nat) :
    Prop where
  /-- A read with room returns nothing only when the earlier ones have returned
  the bytes, and then the source is closed. -/
  reported : forall (now : Nat) (actions : List Source.Action) (size : Nat)
    (patience : Option Nat),
    let start : Source.Moment := { now, source := .scripted chunks pace }
    let last := start.follow actions
    (forall action, action ∈ actions -> action.HasRoom) -> 0 < size ->
      (last.source.read last.now size patience).result = .bytes [] ->
        start.returnedBy actions = bytes ∧
          (last.source.read last.now size patience).source.closed = true
  /-- A source is not closed before. -/
  closed : forall (now : Nat) (actions : List Source.Action),
    let start : Source.Moment := { now, source := .scripted chunks pace }
    (forall action, action ∈ actions -> action.HasRoom) ->
      (start.follow actions).source.closed = true -> start.returnedBy actions = bytes
  /-- Whoever keeps reading is told. -/
  reached : forall (now : Nat) (sizes : List Nat),
    let start : Source.Moment := { now, source := .scripted chunks pace }
    (forall size, size ∈ sizes -> 0 < size) -> bytes.length < sizes.length ->
      (start.follow (sizes.map (.read · none))).source.closed = true
  /-- A run that is not asked to shut down receives the bytes and completes. -/
  ingested : forall {settings : Settings} (accepted : settings.validate = .ok ()) (sink : Sink)
    (now : Nat),
    received accepted (.scripted chunks pace) sink now none = bytes ∧
      ∃ summary, (run settings (.scripted chunks pace) sink now none).result = .ok summary ∧
        summary.stage.bytesIngested = bytes.length

/-- The end of a script is reported at its first empty chunk, or behind its last
chunk if there is no empty one.  So it is reported behind everything that is
scripted if and only if no byte is scripted behind an empty chunk. -/
theorem end_reported_at_first_empty_chunk (chunks : List (List UInt8)) (pace : Option Nat) :
    EndsBehind (Source.stream chunks) chunks pace ∧
      (EndsBehind chunks.flatten chunks pace ↔ (chunks.dropWhile (· ≠ [])).flatten = []) := by
  have ends : EndsBehind (Source.stream chunks) chunks pace := {
    reported := by
      intro now actions size patience start last rooms room nothing
      have reads := last.source.reads_read last.now size patience
      obtain ⟨exhausted, closed⟩ := reads.of_nothing room nothing
      have left := start.remaining_follow rooms
      rw [exhausted, List.append_nil] at left
      exact ⟨left.symm, closed⟩
    closed := by
      intro now actions start rooms closed
      exact Source.Moment.returnedBy_of_closed rooms closed
    reached := by
      intro now sizes start rooms enough
      exact start.closed_of_reads rooms enough
    ingested := by
      intro settings accepted sink now
      exact ⟨received_of_unasked accepted _ sink now, summary_of_unasked accepted _ sink now rfl⟩ }
  have whole : chunks.flatten =
      Source.stream chunks ++ (chunks.dropWhile (· ≠ [])).flatten := by
    rw [Source.stream, ← List.flatten_append, List.takeWhile_append_dropWhile]
  refine ⟨ends, ?_, ?_⟩
  · intro everything
    -- Reading on and on returns the stream, and by supposition everything.
    let start : Source.Moment := { now := 0, source := .scripted chunks pace }
    let sizes := List.replicate ((Source.stream chunks).length + 1) 1
    have rooms : forall size, size ∈ sizes -> 0 < size := by
      intro size member
      rw [List.eq_of_mem_replicate member]
      exact Nat.zero_lt_one
    have closed := ends.reached 0 sizes rooms (by rw [List.length_replicate]; omega)
    have readRooms : forall action, action ∈ sizes.map (Source.Action.read · none) ->
        action.HasRoom := by
      intro action member
      rcases List.mem_map.1 member with ⟨size, inSizes, rfl⟩
      exact rooms size inSizes
    have same := (ends.closed 0 _ readRooms closed).symm.trans
      (everything.closed 0 _ readRooms closed)
    rw [whole] at same
    exact List.append_right_eq_self.1 same.symm
  · intro nothing
    rw [whole, nothing, List.append_nil]
    exact ends

/-- The second read is told the end of the stream while a chunk is queued. -/
theorem empty_chunk_hides_later_chunk :
    let chunks : List (List UInt8) := [[0x61], [], [0x62]]
    let start : Source.Moment := { now := 0, source := .scripted chunks none }
    let last := start.after (.read 8 none)
    last.source.chunks = [[], [0x62]] ∧
      (last.source.read last.now 8 none).result = .bytes [] ∧
      (last.source.read last.now 8 none).source.chunks = [[0x62]] ∧
      (last.source.read last.now 8 none).source.closed = true ∧
      ¬ EndsBehind chunks.flatten chunks none := by
  intro chunks start last
  have queued : last.source.chunks = [[], [0x62]] := by decide +kernel
  have told : (last.source.read last.now 8 none).result = .bytes [] := by decide +kernel
  have left : (last.source.read last.now 8 none).source.chunks = [[0x62]] := by decide +kernel
  have closed : (last.source.read last.now 8 none).source.closed = true := by decide +kernel
  refine ⟨queued, told, left, closed, ?_⟩
  intro ends
  have returned := (ends.reported 0 [.read 8 none] 8 none (by
    intro action member
    rw [List.mem_singleton.1 member]
    exact Nat.zero_lt_succ 7) (Nat.zero_lt_succ 7) told).1
  exact absurd returned (by decide +kernel)

end Run
end TelemetryRelay
