import TelemetryRelay.Proofs.Source.Schedule

/-!
# When a source with a pace delivers

A source with a pace withholds each piece of its script for a while, counted
from the first read that asks for it.  Which read that is can be told from the
reads alone: it is the first one after the last read that returned bytes.  The
source keeps no such history.  It has a deadline, which a read may fix, keep or
clear, and reads that are given up come and go in between.

`Paced` says that the deadline always stands for that history.  It holds of a
source that has not been read and is kept by every action, so that the outcome
of a read follows from the time of the first one, however many were given up
since then.
-/

namespace TelemetryRelay
namespace Source

/-! ## The first read that waits -/

namespace Moment

/-- The time of the first read since bytes were returned, after one more
action. -/
def firstAfter (moment : Moment) (first : Option Nat) : Action -> Option Nat
  | .read size patience =>
      if moment.returned (.read size patience) = [] then some (first.getD moment.now) else none
  | .wait _ | .write _ => first

/-- The time of the first read since bytes were returned, after one action
after the other. -/
def firstRead (moment : Moment) (first : Option Nat) : List Action -> Option Nat
  | [] => first
  | action :: later => (moment.after action).firstRead (moment.firstAfter first action) later

end Moment

/-- The deadline of a source stands for the time of the first read since bytes
were returned.  Without a chunk there is nothing to wait for. -/
structure Paced (pace : Nat) (first : Option Nat) (source : Source) : Prop where
  withholds : source.pace = some pace
  full : forall chunk, chunk ∈ source.chunks -> chunk ≠ []
  isOpen : source.chunks ≠ [] -> source.closed = false
  deadline : source.chunks ≠ [] -> source.deadline = first.map (· + pace)

namespace Paced

variable {pace : Nat} {first : Option Nat} {source : Source}

theorem scripted {chunks : List (List UInt8)} (full : forall chunk, chunk ∈ chunks -> chunk ≠ []) :
    (Source.scripted chunks (some pace)).Paced pace none :=
  ⟨rfl, full, fun _ => rfl, fun _ => rfl⟩

/-- Every read since then waits for the same moment. -/
theorem deliveryTime (paced : source.Paced pace first) (queued : source.chunks ≠ []) (now : Nat) :
    source.deliveryTime? now = some (first.getD now + pace) := by
  have deadline := paced.deadline queued
  cases chunks : source.chunks with
  | nil => exact absurd chunks queued
  | cons chunk later =>
      rw [deliveryTime?, paced.withholds, chunks, deadline]
      cases first <;> rfl

/-- A delivery brings the front of a chunk, and whoever asks next begins to
wait anew. -/
theorem deliver (paced : source.Paced pace first) {chunk : List UInt8} {later : List (List UInt8)}
    (chunks : source.chunks = chunk :: later) {size : Nat} (room : 0 < size) :
    (source.deliver size).bytes = chunk.take size ∧ chunk.take size ≠ [] ∧
      (source.deliver size).source.Paced pace none := by
  have isOpen := paced.isOpen (chunks ▸ List.cons_ne_nil chunk later)
  have full := paced.full
  rw [chunks] at full
  have piece : chunk.take size ≠ [] := by
    rw [ne_eq, List.take_eq_nil_iff]
    rintro (none | empty)
    · exact absurd none (Nat.ne_of_gt room)
    · exact full chunk List.mem_cons_self empty
  have delivered : source.deliver size =
      { bytes := chunk.take size
        source := { source with
          chunks := if size < chunk.length then chunk.drop size :: later else later
          deadline := none
          bytesRead := source.bytesRead + (chunk.take size).length }
        entry := .chunkRead (chunk.take size).length source.device } := by
    simp only [Source.deliver, chunks, if_neg piece]
  rw [delivered]
  refine ⟨rfl, piece, paced.withholds, ?_, fun _ => isOpen, fun _ => rfl⟩
  intro other member
  split at member
  · rename_i more
    rcases List.mem_cons.1 member with rest | behind
    · rw [rest, ne_eq, List.drop_eq_nil_iff, Nat.not_le]
      exact more
    · exact full other (List.mem_cons_of_mem chunk behind)
  · exact full other (List.mem_cons_of_mem chunk member)

/-- Nothing is ever queued again behind the end of a script. -/
theorem of_nothing (paced : source.Paced pace first) (nothing : source.chunks = []) {next : Source}
    (samePace : next.pace = source.pace) (same : next.chunks = source.chunks)
    (any : Option Nat) : next.Paced pace any where
  withholds := samePace.trans paced.withholds
  full := same ▸ paced.full
  isOpen := fun queued => absurd (same.trans nothing) queued
  deadline := fun queued => absurd (same.trans nothing) queued

end Paced

/-! ## How a read of it ends -/

/-- The ways in which a read can end, with what the next read waits for.  The
first read since bytes were returned was at the given time, which is that of
this read if there was none before. -/
inductive Meets (pace first : Nat) (source : Source) (now size : Nat) (patience : Option Nat)
    (read : Read) : Prop
  | nothing (none : source.chunks = []) (atOnce : read.now = now)
      (result : read.result = if source.closed then .failed .closed else .bytes [])
      (next : forall any, read.source.Paced pace any)
  | inTime {chunk : List UInt8} {later : List (List UInt8)} (chunks : source.chunks = chunk :: later)
      (patient : forall limit, patience = some limit -> first + pace ≤ now + limit)
      (onTime : read.now = max now (first + pace)) (result : read.result = .bytes (chunk.take size))
      (nonempty : chunk.take size ≠ []) (next : read.source.Paced pace none)
  | givenUp {limit : Nat} (queued : source.chunks ≠ []) (limited : patience = some limit)
      (tooLate : now + limit < first + pace) (time : read.now = now + limit)
      (result : read.result = .cancelled) (next : read.source.Paced pace (some first))

theorem Paced.meets {pace : Nat} {first : Option Nat} {source : Source}
    (paced : source.Paced pace first) (now : Nat) {size : Nat} (room : 0 < size)
    (patience : Option Nat) :
    source.Meets pace (first.getD now) now size patience (source.read now size patience) := by
  have reads := source.reads_read now size patience
  generalize source.read now size patience = read at reads ⊢
  cases chunks : source.chunks with
  | nil =>
      have untimed : source.deliveryTime? now = none := by
        rw [deliveryTime?, paced.withholds, chunks]
      have ended : source.deliver size = source.reportEnd := by rw [Source.deliver, chunks]
      cases reads with
      | refused closed =>
          exact .nothing chunks rfl (if_pos closed).symm (paced.of_nothing chunks rfl rfl)
      | idle _ noRoom => exact absurd noRoom (Nat.ne_of_gt room)
      | delivered isOpen _ onTime =>
          rw [untimed] at onTime
          refine .nothing chunks onTime ?_ ?_
          · rw [ended, isOpen]
            rfl
          · rw [ended]
            exact paced.of_nothing chunks rfl rfl
      | cancelled _ _ _ fixed =>
          rw [untimed] at fixed
          cases fixed
  | cons chunk later =>
      have queued : source.chunks ≠ [] := chunks ▸ List.cons_ne_nil chunk later
      have isOpen := paced.isOpen queued
      have fixed := paced.deliveryTime queued now
      cases reads with
      | refused closed =>
          rw [closed] at isOpen
          cases isOpen
      | idle _ noRoom => exact absurd noRoom (Nat.ne_of_gt room)
      | delivered _ _ onTime patient =>
          obtain ⟨bytes, nonempty, next⟩ := paced.deliver chunks room
          rw [fixed] at onTime
          refine .inTime chunks ?_ onTime (congrArg ReadResult.bytes bytes) nonempty next
          intro limit limited
          have inTime := patient limit limited
          rw [onTime] at inTime
          exact Nat.le_trans (Nat.le_max_right now _) inTime
      | cancelled _ _ limited same tooLate =>
          -- The deadline is the one that the first read fixed, or it is fixed now.
          rw [fixed] at same
          cases same
          exact .givenUp queued limited tooLate rfl rfl
            ⟨paced.withholds, paced.full, fun _ => isOpen, fun _ => rfl⟩

theorem Paced.after {pace : Nat} {first : Option Nat} {moment : Moment}
    (paced : moment.source.Paced pace first) {action : Action} (room : action.HasRoom) :
    (moment.after action).source.Paced pace (moment.firstAfter first action) := by
  cases action with
  | wait => exact paced
  | write bytes => exact ⟨paced.withholds, paced.full, paced.isOpen, paced.deadline⟩
  | read size patience =>
      rw [Moment.firstAfter, Moment.returned]
      cases paced.meets moment.now room patience with
      | nothing _ _ _ next => exact next _
      | inTime _ _ _ result nonempty next =>
          rw [result, if_neg (by exact nonempty)]
          exact next
      | givenUp _ _ _ _ result next =>
          rw [result, if_pos (by rfl)]
          exact next

theorem Paced.follow {pace : Nat} {first : Option Nat} {moment : Moment}
    (paced : moment.source.Paced pace first) (actions : List Action)
    (room : forall action, action ∈ actions -> action.HasRoom) :
    (moment.follow actions).source.Paced pace (moment.firstRead first actions) := by
  induction actions generalizing moment first with
  | nil => exact paced
  | cons action later inductionHypothesis =>
      exact inductionHypothesis (paced.after (room action List.mem_cons_self))
        fun other member => room other (List.mem_cons_of_mem action member)

/-! ## Schedules -/

/-- The outcome of a read is determined by the time of the first read since
bytes were returned, by the pace, and by the patience. -/
structure Punctual (pace first : Nat) (moment : Moment) (size : Nat) (patience : Option Nat)
    (read : Read) : Prop where
  /-- With a chunk queued, bytes are returned exactly if they come in time. -/
  returns : moment.source.chunks ≠ [] ->
    ((∃ bytes, bytes ≠ [] ∧ read.result = .bytes bytes) ↔
      forall limit, patience = some limit -> first + pace ≤ moment.now + limit)
  /-- They are the front of that chunk and come on time. -/
  onTime : forall chunk later, moment.source.chunks = chunk :: later ->
    forall bytes, read.result = .bytes bytes ->
      bytes = chunk.take size ∧ read.now = max moment.now (first + pace)
  /-- Otherwise the read is given up when its patience is over. -/
  givenUp : moment.source.chunks ≠ [] -> forall limit, patience = some limit ->
    moment.now + limit < first + pace ->
      read.result = .cancelled ∧ read.now = moment.now + limit
  /-- With nothing queued, a read reports the end or is refused, at once. -/
  atOnce : moment.source.chunks = [] ->
    read.now = moment.now ∧
      read.result = if moment.source.closed then .failed .closed else .bytes []

theorem Meets.punctual {pace first : Nat} {moment : Moment} {size : Nat} {patience : Option Nat}
    {read : Read} (meets : moment.source.Meets pace first moment.now size patience read) :
    Punctual pace first moment size patience read := by
  cases meets with
  | nothing none atOnce result =>
      exact {
        returns := fun queued => absurd none queued
        onTime := by
          intro chunk later chunks
          rw [none] at chunks
          cases chunks
        givenUp := fun queued => absurd none queued
        atOnce := fun _ => ⟨atOnce, result⟩ }
  | inTime chunks patient onTime result nonempty =>
      exact {
        returns := fun _ => ⟨fun _ => patient, fun _ => ⟨_, nonempty, result⟩⟩
        onTime := by
          intro chunk later same bytes returned
          rw [chunks] at same
          cases same
          rw [result] at returned
          cases returned
          exact ⟨rfl, onTime⟩
        givenUp := fun _ limit limited tooLate =>
          absurd (patient limit limited) (Nat.not_le.2 tooLate)
        atOnce := by
          intro none
          rw [none] at chunks
          cases chunks }
  | givenUp queued limited tooLate time result =>
      exact {
        returns := by
          refine fun _ => ⟨?_, fun patient => absurd (patient _ limited) (Nat.not_le.2 tooLate)⟩
          rintro ⟨bytes, _, returned⟩
          rw [result] at returned
          cases returned
        onTime := by
          intro _ _ _ bytes returned
          rw [result] at returned
          cases returned
        givenUp := by
          intro _ other same _
          rw [limited] at same
          cases same
          exact ⟨result, time⟩
        atOnce := fun none => absurd none queued }

/-- The time of a delivery is fixed by the first read that waits for it.  Later
reads neither put it off nor bring it forward, however often reads are given up
and however much time passes in between, and the next piece of the script,
which may be the rest of a chunk, is waited for from its own first read on. -/
theorem delivery_time_fixed_by_first_read {chunks : List (List UInt8)}
    (full : forall chunk, chunk ∈ chunks -> chunk ≠ []) (pace now : Nat) (actions : List Action)
    (room : forall action, action ∈ actions -> action.HasRoom) {size : Nat} (positive : 0 < size)
    (patience : Option Nat) :
    let start : Moment := { now, source := scripted chunks (some pace) }
    let last := start.follow actions
    Punctual pace ((start.firstRead none actions).getD last.now) last size patience
      (last.source.read last.now size patience) := by
  intro start last
  have paced : last.source.Paced pace (start.firstRead none actions) :=
    (Paced.scripted full : start.source.Paced pace none).follow actions room
  exact (paced.meets last.now positive patience).punctual

/-- A read is given up and time passes; the next read comes back at the very
moment of giving up with the first two bytes of the chunk, and the third byte
is waited for anew. -/
theorem delivery_times_of_split_chunk :
    let start : Moment := { now := 3, source := scripted [[1, 2, 3]] (some 10) }
    let actions : List Action := [.read 2 (some 5), .wait 1]
    let last := start.follow actions
    let read := last.source.read last.now 2 (some 4)
    let later := start.follow (actions ++ [.read 2 (some 4)])
    last.now = 9 ∧ (start.firstRead none actions).getD last.now = 3 ∧
      read.result = .bytes [1, 2] ∧ read.now = 13 ∧
      (later.source.read later.now 2 (some 9)).result = .cancelled ∧
      (later.source.read later.now 2 none).now = 23 := by
  intro start actions last read later
  have full : forall chunk, chunk ∈ [[1, 2, 3]] -> chunk ≠ ([] : List UInt8) := by decide
  have room : forall action, action ∈ actions -> action.HasRoom := by
    simp [actions, Action.HasRoom]
  have roomLater : forall action, action ∈ actions ++ [.read 2 (some 4)] -> action.HasRoom := by
    simp [actions, Action.HasRoom]
  have time : last.now = 9 := by decide +kernel
  have chunks : last.source.chunks = [[1, 2, 3]] := by decide +kernel
  have first : (start.firstRead none actions).getD last.now = 3 := by decide +kernel
  have timeLater : later.now = 13 := by decide +kernel
  have chunksLater : later.source.chunks = [[3]] := by decide +kernel
  have firstLater : (start.firstRead none (actions ++ [.read 2 (some 4)])).getD later.now = 13 := by
    decide +kernel
  have punctual : Punctual 10 3 last 2 (some 4) read :=
    first ▸ delivery_time_fixed_by_first_read full 10 3 actions room (by decide) (some 4)
  have thirdByte : forall patience,
      Punctual 10 13 later 2 patience (later.source.read later.now 2 patience) := by
    intro patience
    rw [← firstLater]
    exact delivery_time_fixed_by_first_read full 10 3 _ roomLater (by decide) patience
  have inTime : forall limit, some 4 = some limit -> 3 + 10 ≤ last.now + limit := by
    rintro _ ⟨⟩
    omega
  obtain ⟨bytes, _, result⟩ := (punctual.returns (chunks ▸ List.cons_ne_nil _ _)).2 inTime
  obtain ⟨rfl, onTime⟩ := punctual.onTime _ _ chunks bytes result
  obtain ⟨other, _, resultLater⟩ :=
    ((thirdByte none).returns (chunksLater ▸ List.cons_ne_nil _ _)).2 nofun
  have onTimeLater := ((thirdByte none).onTime _ _ chunksLater other resultLater).2
  refine ⟨time, first, result, ?_, ?_, ?_⟩
  · rw [onTime, time]
    rfl
  · exact ((thirdByte (some 9)).givenUp (chunksLater ▸ List.cons_ne_nil _ _) 9 rfl (by omega)).1
  · rw [onTimeLater, timeLater]
    rfl

end Source
end TelemetryRelay
