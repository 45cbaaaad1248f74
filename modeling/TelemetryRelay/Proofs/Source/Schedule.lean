import TelemetryRelay.Proofs.Source.Delivery

/-!
# Reads that are given up

A read of a source with a pace may have to wait, and whoever waits for it may
lose patience.  A read that is given up has fixed the time of delivery, for the
next read to keep, and nothing else.  In particular it takes no chunk out of the
script, not even in part.

A schedule is any sequence of reads, with buffers of any size and with any
patience, of waits and of writes.  Over every schedule, the returned bytes and
the bytes that are still queued make up the script.  A time of delivery is fixed
only as long as there is a chunk that it concerns.  The end of the stream is
final.
-/

namespace TelemetryRelay
namespace Source

/-! ## How a read ends -/

/-- The ways in which a read can end, and what it leaves in each case. -/
inductive Reads (source : Source) (now size : Nat) (patience : Option Nat) : Read -> Prop
  | refused (closed : source.closed = true) :
      Reads source now size patience
        { result := .failed .closed, now, source, journal := [] }
  /-- There is no room for any byte. -/
  | idle (isOpen : source.closed = false) (noRoom : size = 0) :
      Reads source now size patience { result := .bytes [], now, source, journal := [] }
  | delivered (isOpen : source.closed = false) (room : 0 < size) {time : Nat}
      (onTime : time = (source.deliveryTime? now).elim now (max now))
      (patient : forall limit, patience = some limit -> time ≤ now + limit) :
      Reads source now size patience
        { result := .bytes (source.deliver size).bytes
          now := time
          source := (source.deliver size).source
          journal := [(source.deliver size).entry] }
  | cancelled (isOpen : source.closed = false) (room : 0 < size) {limit due : Nat}
      (limited : patience = some limit) (fixed : source.deliveryTime? now = some due)
      (tooLate : now + limit < due) :
      Reads source now size patience
        { result := .cancelled
          now := now + limit
          source := { source with deadline := some due }
          journal := [] }

theorem chunks_of_deliveryTime {source : Source} {now due : Nat}
    (fixed : source.deliveryTime? now = some due) : source.chunks ≠ [] := by
  intro none
  rw [deliveryTime?, none] at fixed
  cases pace : source.pace <;> rw [pace] at fixed <;> cases fixed

theorem deliver_fixed {source : Source} (script : source.chunks ≠ []) (deadline : Option Nat)
    (size : Nat) : ({ source with deadline } : Source).deliver size = source.deliver size := by
  cases chunks : source.chunks with
  | nil => exact absurd chunks script
  | cons chunk later =>
      simp only [deliver, chunks]

theorem reads_read (source : Source) (now size : Nat) (patience : Option Nat) :
    source.Reads now size patience (source.read now size patience) := by
  cases isOpen : source.closed with
  | true =>
      rw [read, poll_of_closed isOpen]
      exact .refused isOpen
  | false =>
      rcases Nat.eq_zero_or_pos size with noRoom | room
      · have answer : source.poll now size = .finished [] source [] := by
          rw [poll, isOpen, if_neg Bool.false_ne_true, if_pos noRoom]
        rw [read, answer]
        exact .idle isOpen noRoom
      · cases fixed : source.deliveryTime? now with
        | none =>
            rw [read, poll_at_once isOpen fixed room]
            exact .delivered isOpen room (fixed ▸ rfl) fun limit _ => Nat.le_add_right now limit
        | some due =>
            rcases Nat.lt_or_ge now due with early | arrived
            · rw [read, poll_early isOpen room fixed early]
              simp only [deliver_fixed (chunks_of_deliveryTime fixed)]
              have onTime : due = (source.deliveryTime? now).elim now (max now) := by
                rw [fixed]
                exact (Nat.max_eq_right (Nat.le_of_lt early)).symm
              cases patience with
              | none =>
                  refine .delivered isOpen room onTime ?_
                  intro limit impossible
                  cases impossible
              | some limit =>
                  by_cases inTime : due ≤ now + limit
                  · simp only [Option.map_some, Option.getD_some, decide_eq_true inTime, if_true]
                    refine .delivered isOpen room onTime ?_
                    rintro _ ⟨⟩
                    exact inTime
                  · simp only [Option.map_some, Option.getD_some, decide_eq_false inTime,
                      Bool.false_eq_true, if_false]
                    exact .cancelled isOpen room rfl fixed (Nat.lt_of_not_le inTime)
            · rw [read, poll_due isOpen room fixed arrived]
              refine .delivered isOpen room ?_ fun limit _ => Nat.le_add_right now limit
              rw [fixed]
              exact (Nat.max_eq_left arrived).symm

/-! ## What a read leaves -/

def ReadResult.returned : ReadResult -> List UInt8
  | .bytes delivered => delivered
  | .failed _ | .cancelled => []

/-- A time of delivery is fixed only for a chunk that is queued. -/
def Pending (source : Source) : Prop :=
  source.deadline ≠ none -> source.chunks ≠ []

theorem pending_deliver {source : Source} (pending : source.Pending) (size : Nat) :
    (source.deliver size).source.Pending := by
  cases chunks : source.chunks with
  | nil =>
      intro fixed
      rw [deliver, chunks] at fixed
      exact absurd chunks (pending fixed)
  | cons chunk later =>
      have none : (source.deliver size).source.deadline = none := by
        simp only [deliver, chunks]
        split <;> rfl
      intro fixed
      exact absurd none fixed

namespace Reads

variable {source : Source} {now size : Nat} {patience : Option Nat} {read : Read}

theorem yields (reads : source.Reads now size patience read) :
    source.Yields read.result.returned [] read.source := by
  cases reads with
  | refused | idle => exact .refl source
  | delivered => exact source.yields_deliver size
  | cancelled => exact ⟨rfl, rfl, (List.append_nil _).symm⟩

theorem pending (reads : source.Reads now size patience read) (pending : source.Pending) :
    read.source.Pending := by
  cases reads with
  | refused | idle => exact pending
  | delivered => exact pending_deliver pending size
  | cancelled _ _ _ fixed =>
      have script := chunks_of_deliveryTime fixed
      exact fun _ => script

theorem of_closed (reads : source.Reads now size patience read) (closed : source.closed = true) :
    read = { result := .failed .closed, now, source, journal := [] } := by
  cases reads with
  | refused => rfl
  | idle isOpen | delivered isOpen | cancelled isOpen =>
      rw [closed] at isOpen
      cases isOpen

theorem of_cancelled (reads : source.Reads now size patience read)
    (cancelled : read.result = .cancelled) :
    ∃ limit due, patience = some limit ∧ source.deliveryTime? now = some due ∧
      now + limit < due ∧ read.source = { source with deadline := some due } := by
  cases reads with
  | refused | idle | delivered => cases cancelled
  | cancelled _ _ limited fixed tooLate => exact ⟨_, _, limited, fixed, tooLate, rfl⟩

end Reads

/-! ## Schedules -/

inductive Action where
  | read (size : Nat) (patience : Option Nat)
  | wait (duration : Nat)
  | write (bytes : List UInt8)
deriving DecidableEq, Repr

def Action.written : Action -> List UInt8
  | .write bytes => bytes
  | .read .. | .wait _ => []

/-- An action that is a read has room for at least one byte. -/
def Action.HasRoom : Action -> Prop
  | .read size _ => 0 < size
  | .wait _ | .write _ => True

/-- A source and the time at which something is done with it. -/
structure Moment where
  now : Nat
  source : Source

namespace Moment

def after (moment : Moment) : Action -> Moment
  | .read size patience =>
      let read := moment.source.read moment.now size patience
      { now := read.now, source := read.source }
  | .wait duration => { moment with now := moment.now + duration }
  | .write bytes => { moment with source := moment.source.write bytes }

def returned (moment : Moment) : Action -> List UInt8
  | .read size patience => (moment.source.read moment.now size patience).result.returned
  | .wait _ | .write _ => []

def follow (moment : Moment) (actions : List Action) : Moment :=
  actions.foldl after moment

def returnedBy (moment : Moment) : List Action -> List UInt8
  | [] => []
  | action :: later => moment.returned action ++ (moment.after action).returnedBy later

theorem yields_after (moment : Moment) (action : Action) :
    moment.source.Yields (moment.returned action) action.written (moment.after action).source := by
  cases action with
  | read size patience => exact (moment.source.reads_read moment.now size patience).yields
  | wait => exact .refl moment.source
  | write bytes => exact ⟨rfl, rfl, rfl⟩

theorem yields_follow (moment : Moment) (actions : List Action) :
    moment.source.Yields (moment.returnedBy actions) (actions.flatMap Action.written)
      (moment.follow actions).source := by
  induction actions generalizing moment with
  | nil => exact .refl moment.source
  | cons action later inductionHypothesis =>
      rw [returnedBy, List.flatMap_cons]
      exact (moment.yields_after action).trans (inductionHypothesis (moment.after action))

/-- What every action keeps of a source, every schedule keeps. -/
theorem follow_keeps {keeps : Source -> Prop}
    (steps : forall (moment : Moment) (action : Action),
      keeps moment.source -> keeps (moment.after action).source)
    {moment : Moment} (kept : keeps moment.source) (actions : List Action) :
    keeps (moment.follow actions).source := by
  induction actions generalizing moment with
  | nil => exact kept
  | cons action later inductionHypothesis => exact inductionHypothesis (steps moment action kept)

theorem pending_after (moment : Moment) (action : Action) (pending : moment.source.Pending) :
    (moment.after action).source.Pending := by
  cases action with
  | read size patience => exact (moment.source.reads_read moment.now size patience).pending pending
  | wait | write => exact pending

theorem closed_after (moment : Moment) (action : Action) (closed : moment.source.closed = true) :
    (moment.after action).source.closed = true := by
  cases action with
  | read size patience =>
      have refused := (moment.source.reads_read moment.now size patience).of_closed closed
      exact (congrArg (fun read => read.source.closed) refused).trans closed
  | wait | write => exact closed

end Moment

/-- The account of a scripted source that returned and was written the given
bytes by the given moment. -/
structure Conserved (chunks : List (List UInt8)) (returned written : List UInt8)
    (last : Moment) : Prop where
  /-- No byte is lost, repeated or moved. -/
  script : returned ++ last.source.chunks.flatten = chunks.flatten
  bytesRead : last.source.bytesRead = returned.length
  written : last.source.written = written
  pending : last.source.deadline ≠ none -> last.source.chunks ≠ []
  /-- A read that is given up fixes the time of delivery and does nothing
  else. -/
  cancelled : forall size patience,
    (last.source.read last.now size patience).result = .cancelled ->
      ∃ limit due, patience = some limit ∧ last.source.deliveryTime? last.now = some due ∧
        last.now + limit < due ∧
        (last.source.read last.now size patience).source =
          { last.source with deadline := some due }
  /-- After the end of the stream, reads are refused and change nothing. -/
  final : last.source.closed = true -> forall (later : List Action) (size : Nat)
    (patience : Option Nat),
    (last.follow later).source.closed = true ∧
      (last.follow later).source.read (last.follow later).now size patience =
        { result := .failed .closed
          now := (last.follow later).now
          source := (last.follow later).source
          journal := [] }

/-- Whatever is done with a scripted source, and however often reads of it are
given up: the returned bytes and those that are still queued make up the
script. -/
theorem schedule_conserves_bytes (chunks : List (List UInt8)) (pace : Option Nat) (now : Nat)
    (actions : List Action) :
    let start : Moment := { now, source := scripted chunks pace }
    Conserved chunks (start.returnedBy actions) (actions.flatMap Action.written)
      (start.follow actions) := by
  intro start
  have yields := start.yields_follow actions
  have fresh : start.source.Pending := fun fixed => absurd rfl fixed
  exact {
    script := yields.chunks
    bytesRead := by
      rw [yields.bytesRead]
      exact Nat.zero_add _
    written := yields.written
    pending := Moment.follow_keeps Moment.pending_after fresh actions
    cancelled := by
      intro size patience cancelled
      exact (Source.reads_read _ _ size patience).of_cancelled cancelled
    final := by
      intro closed later size patience
      have stays : ((start.follow actions).follow later).source.closed = true :=
        @Moment.follow_keeps (fun source => source.closed = true) Moment.closed_after _ closed later
      exact ⟨stays, (Source.reads_read _ _ size patience).of_closed stays⟩ }

/-- A read is given up, one has no room, a chunk is read in two pieces, and an
empty chunk ends the stream with a chunk behind it. -/
theorem schedule_over_empty_chunk :
    let chunks : List (List UInt8) := [[1, 2, 3], [], [4]]
    let start : Moment := { now := 3, source := scripted chunks (some 10) }
    let actions : List Action :=
      [.read 2 (some 5), .read 0 none, .write [9], .read 2 (some 5), .read 2 none,
        .read 2 (some 10)]
    (start.source.read start.now 2 (some 5)).result = .cancelled ∧
      (start.source.read start.now 2 (some 5)).source =
        { start.source with deadline := some 13 } ∧
      (start.follow actions).now = 33 ∧ (start.follow actions).source.closed = true ∧
      Conserved chunks [1, 2, 3] [9] (start.follow actions) ∧
      forall later, ((start.follow actions).follow later).source.closed = true := by
  intro chunks start actions
  have cancelled : (start.source.read start.now 2 (some 5)).result = .cancelled := by
    decide +kernel
  have time : (start.follow actions).now = 33 := by decide +kernel
  have closed : (start.follow actions).source.closed = true := by decide +kernel
  have returned : start.returnedBy actions = [1, 2, 3] := by decide +kernel
  have conserved : Conserved chunks (start.returnedBy actions) [9] (start.follow actions) :=
    schedule_conserves_bytes chunks (some 10) 3 actions
  rw [returned] at conserved
  -- The law holds before anything is done, and so of the read that is given up.
  rcases (schedule_conserves_bytes chunks (some 10) 3 []).cancelled 2 (some 5) cancelled with
    ⟨_, _, _, fixed, _, same⟩
  cases fixed
  exact ⟨cancelled, same, time, closed, conserved,
    fun later => (conserved.final closed later 0 none).1⟩

end Source
end TelemetryRelay
