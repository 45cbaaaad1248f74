import TelemetryRelay.Proofs.Ring.Acceptance

/-!
# The ring is a queue that drops its oldest item

The queue here is the ring as its users may think of it: a list of items,
appended to one at a time, which gives up its first item when it is full.  It
knows no slots, no cursor and no runs.  A ring and a queue are compared by the
replies they give to the same operations and by what they hold afterwards.

The comparison is a simulation.  `Mirrors` relates a ring to a queue, every
operation keeps the relation and gives the same reply on both sides, and so
does every sequence of operations that begins with a fresh ring.
-/

namespace TelemetryRelay

universe u

/-- A queue of limited size that drops its oldest item for a new one.  The
counters tell items dropped for room from items taken out on request. -/
structure DroppingQueue (α : Type u) where
  capacity : Nat
  /-- What the queue holds, oldest first. -/
  items : List α
  accepted : Nat
  dropped : Nat
  removed : Nat

namespace Ring

variable {α : Type u}

inductive Operation (α : Type u) where
  | enqueueOne (item : α)
  | enqueueBulk (items : List α)
  | enqueue (items : List α)
  | peek (target : List α)
  | dequeue (target : List α)
  | pop
  | skipOne
  | discard (count : Nat)
  | clear

inductive Reply (α : Type u) where
  | done
  | refused (error : RingError)
  | counted (count : Nat)
  | copied (count : Nat) (target : List α)
  | item (item : Option α)
  | told (answer : Bool)

def serve (ring : Ring α) : Operation α -> Reply α × Ring α
  | .enqueueOne item =>
      match ring.enqueueOne item with
      | .ok next => (.done, next)
      | .error error => (.refused error, ring)
  | .enqueueBulk items =>
      match ring.enqueueBulk items with
      | .ok next => (.done, next)
      | .error error => (.refused error, ring)
  | .enqueue items => (.counted (ring.enqueue items).1, (ring.enqueue items).2)
  | .peek target => (.copied (ring.peek target).1 (ring.peek target).2, ring)
  | .dequeue target =>
      let (count, filled, next) := ring.dequeue target
      (.copied count filled, next)
  | .pop =>
      match ring.pop? with
      | some (item, next) => (.item (some item), next)
      | none => (.item none, ring)
  | .skipOne => (.told ring.skipOne.1, ring.skipOne.2)
  | .discard count => (.counted (ring.discard count).1, (ring.discard count).2)
  | .clear => (.done, ring.clear)

def after (ring : Ring α) : List (Operation α) -> Ring α
  | [] => ring
  | operation :: later => (ring.serve operation).2.after later

def replies (ring : Ring α) : List (Operation α) -> List (Reply α)
  | [] => []
  | operation :: later => (ring.serve operation).1 :: (ring.serve operation).2.replies later

end Ring

namespace DroppingQueue

variable {α : Type u}

def empty (capacity : Nat) : DroppingQueue α :=
  { capacity, items := [], accepted := 0, dropped := 0, removed := 0 }

/-- Append an item.  A full queue first drops its oldest one. -/
def append (queue : DroppingQueue α) (item : α) : DroppingQueue α :=
  if queue.items.length < queue.capacity then
    { queue with items := queue.items ++ [item], accepted := queue.accepted + 1 }
  else
    { queue with
      items := queue.items.tail ++ [item]
      accepted := queue.accepted + 1
      dropped := queue.dropped + 1 }

/-- Take out up to `count` of the oldest items. -/
def remove (queue : DroppingQueue α) (count : Nat) : DroppingQueue α :=
  { queue with
    items := queue.items.drop count
    removed := queue.removed + min count queue.items.length }

/-- The oldest items over the front of the places, as many as there are places
and items, with their number. -/
def copy (queue : DroppingQueue α) (target : List α) : Ring.Reply α :=
  let count := min target.length queue.items.length
  .copied count (queue.items.take count ++ target.drop count)

def serve (queue : DroppingQueue α) : Ring.Operation α -> Ring.Reply α × DroppingQueue α
  | .enqueueOne item => (.done, queue.append item)
  | .enqueueBulk items =>
      if queue.capacity < items.length then
        (.refused (.chunkTooLarge items.length queue.capacity), queue)
      else
        (.done, items.foldl append queue)
  | .enqueue items => (.counted items.length, items.foldl append queue)
  | .peek target => (queue.copy target, queue)
  | .dequeue target => (queue.copy target, queue.remove target.length)
  | .pop => (.item queue.items.head?, queue.remove 1)
  | .skipOne => (.told !queue.items.isEmpty, queue.remove 1)
  | .discard count => (.counted (min count queue.items.length), queue.remove count)
  | .clear => (.done, queue.remove queue.items.length)

def after (queue : DroppingQueue α) : List (Ring.Operation α) -> DroppingQueue α
  | [] => queue
  | operation :: later => (queue.serve operation).2.after later

def replies (queue : DroppingQueue α) : List (Ring.Operation α) -> List (Ring.Reply α)
  | [] => []
  | operation :: later => (queue.serve operation).1 :: (queue.serve operation).2.replies later

theorem capacity_append (queue : DroppingQueue α) (item : α) :
    (queue.append item).capacity = queue.capacity := by
  unfold append
  split <;> rfl

theorem capacity_appendAll (queue : DroppingQueue α) (items : List α) :
    (items.foldl append queue).capacity = queue.capacity := by
  induction items generalizing queue with
  | nil => rfl
  | cons item items inductionHypothesis =>
      rw [List.foldl_cons, inductionHypothesis, capacity_append]

theorem capacity_serve (queue : DroppingQueue α) (operation : Ring.Operation α) :
    (queue.serve operation).2.capacity = queue.capacity := by
  cases operation with
  | enqueueOne item => exact queue.capacity_append item
  | enqueueBulk items =>
      rw [serve]
      split
      · rfl
      · exact queue.capacity_appendAll items
  | enqueue items => exact queue.capacity_appendAll items
  | peek | dequeue | pop | skipOne | discard | clear => rfl

theorem capacity_after (queue : DroppingQueue α) (operations : List (Ring.Operation α)) :
    (queue.after operations).capacity = queue.capacity := by
  induction operations generalizing queue with
  | nil => rfl
  | cons operation later inductionHypothesis =>
      rw [after, inductionHypothesis, capacity_serve]

end DroppingQueue

namespace Ring

variable {α : Type u}

/-- A pass that is too long is refused and leaves the ring as it is. -/
theorem serve_enqueueBulk_of_long {ring : Ring α} {items : List α}
    (long : ring.capacity < items.length) :
    ring.serve (.enqueueBulk items) =
      (.refused (.chunkTooLarge items.length ring.capacity), ring) := by
  have refuses : ring.enqueueBulk items = .error (.chunkTooLarge items.length ring.capacity) := by
    rw [enqueueBulk, if_neg (by omega), if_pos long]
  simp only [serve, refuses]

/-- The ring holds what the queue holds and has counted what the queue has
counted. -/
structure Mirrors (ring : Ring α) (queue : DroppingQueue α) : Prop where
  valid : ring.Valid
  capacity : ring.capacity = queue.capacity
  contents : ring.toList = queue.items
  accepted : ring.totalEnqueued = queue.accepted
  dropped : ring.totalEvicted = queue.dropped
  balance : ring.totalEnqueued = ring.totalEvicted + queue.removed + ring.length

namespace Mirrors

variable {ring : Ring α} {queue : DroppingQueue α}

theorem length_eq (mirrors : ring.Mirrors queue) : ring.length = queue.items.length := by
  rw [← mirrors.contents, length_toList mirrors.valid]

/-- A full queue and a full ring both give up one item for the next. -/
theorem append_eq (mirrors : ring.Mirrors queue) (item : α) :
    queue.append item =
      { queue with
        items := queue.items.drop (ring.shortfall 1) ++ [item]
        accepted := queue.accepted + 1
        dropped := queue.dropped + ring.shortfall 1 } := by
  have room := mirrors.valid.2
  have lengths := mirrors.length_eq
  have capacities := mirrors.capacity
  unfold DroppingQueue.append
  split
  · have none : ring.shortfall 1 = 0 := by
      simp only [shortfall, free]
      omega
    rw [none]
    rfl
  · have one : ring.shortfall 1 = 1 := by
      simp only [shortfall, free]
      omega
    rw [one, List.drop_one]

theorem accept (mirrors : ring.Mirrors queue) (item : α) :
    (ring.accept item).Mirrors (queue.append item) := by
  have valid := mirrors.valid
  have balance := mirrors.balance
  have possible : ring.shortfall 1 ≤ ring.length :=
    shortfall_le_length valid valid.capacity_positive
  rw [mirrors.append_eq item]
  exact {
    valid := valid_accept valid item
    capacity := by rw [capacity_accept, mirrors.capacity]
    contents := by rw [toList_accept valid, mirrors.contents]
    accepted := congrArg (· + 1) mirrors.accepted
    dropped := congrArg (· + ring.shortfall 1) mirrors.dropped
    balance := by
      change ring.totalEnqueued + 1 =
        ring.totalEvicted + ring.shortfall 1 + queue.removed + (ring.length - ring.shortfall 1 + 1)
      omega }

theorem acceptAll (mirrors : ring.Mirrors queue) (items : List α) :
    (ring.acceptAll items).Mirrors (items.foldl DroppingQueue.append queue) := by
  induction items generalizing ring queue with
  | nil => exact mirrors
  | cons item items inductionHypothesis => exact inductionHypothesis (mirrors.accept item)

theorem remove (mirrors : ring.Mirrors queue) (count : Nat) :
    (ring.advance (min count ring.length)).Mirrors (queue.remove count) := by
  have balance := mirrors.balance
  have lengths := mirrors.length_eq
  exact {
    valid := valid_advance mirrors.valid _
    capacity := mirrors.capacity
    contents := by
      rw [toList_advance mirrors.valid (Nat.min_le_right _ _), mirrors.contents, lengths]
      change _ = queue.items.drop count
      rw [List.drop_eq_drop_iff]
      omega
    accepted := mirrors.accepted
    dropped := mirrors.dropped
    balance := by
      change ring.totalEnqueued = ring.totalEvicted +
        (queue.removed + min count queue.items.length) + (ring.length - min count ring.length)
      omega }

theorem copy (mirrors : ring.Mirrors queue) (target : List α) :
    .copied (ring.peek target).1 (ring.peek target).2 = queue.copy target := by
  rw [peek_eq mirrors.valid, mirrors.contents, mirrors.length_eq]
  rfl

theorem isEmpty_eq (mirrors : ring.Mirrors queue) : ring.isEmpty = queue.items.isEmpty := by
  rw [Ring.isEmpty, mirrors.length_eq]
  cases queue.items <;> rfl

theorem remove_of_empty (mirrors : ring.Mirrors queue) (empty : queue.items = []) :
    ring.Mirrors (queue.remove 1) := by
  have removed := mirrors.remove 1
  rw [mirrors.length_eq, empty, List.length_nil, Nat.min_zero, advance_zero mirrors.valid] at removed
  exact removed

theorem remove_one (mirrors : ring.Mirrors queue) (some : queue.items ≠ []) :
    (ring.advance 1).Mirrors (queue.remove 1) := by
  have positive := List.length_pos_iff.2 some
  have removed := mirrors.remove 1
  rw [mirrors.length_eq, Nat.min_eq_left positive] at removed
  exact removed

theorem skipOne (mirrors : ring.Mirrors queue) :
    ring.skipOne.1 = !queue.items.isEmpty ∧ ring.skipOne.2.Mirrors (queue.remove 1) := by
  rw [Ring.skipOne, mirrors.isEmpty_eq]
  cases items : queue.items with
  | nil => exact ⟨rfl, mirrors.remove_of_empty items⟩
  | cons item rest =>
      exact ⟨rfl, mirrors.remove_one (items ▸ List.cons_ne_nil item rest)⟩

theorem pop (mirrors : ring.Mirrors queue) :
    (ring.serve .pop).1 = .item queue.items.head? ∧
      (ring.serve .pop).2.Mirrors (queue.remove 1) := by
  rw [Ring.serve, pop?_eq mirrors.valid, mirrors.contents]
  cases items : queue.items with
  | nil => exact ⟨rfl, mirrors.remove_of_empty items⟩
  | cons item rest =>
      exact ⟨rfl, mirrors.remove_one (items ▸ List.cons_ne_nil item rest)⟩

/-- A ring and its queue reply alike, and go on mirroring each other. -/
theorem serve (mirrors : ring.Mirrors queue) (operation : Operation α) :
    (ring.serve operation).1 = (queue.serve operation).1 ∧
      (ring.serve operation).2.Mirrors (queue.serve operation).2 := by
  have valid := mirrors.valid
  cases operation with
  | enqueueOne item =>
      simp only [Ring.serve, enqueueOne_eq valid]
      exact ⟨rfl, mirrors.accept item⟩
  | enqueueBulk items =>
      rcases Nat.lt_or_ge ring.capacity items.length with long | fits
      · rw [serve_enqueueBulk_of_long long, DroppingQueue.serve, ← mirrors.capacity, if_pos long]
        exact ⟨rfl, mirrors⟩
      · simp only [Ring.serve, enqueueBulk_eq valid fits, DroppingQueue.serve, ← mirrors.capacity,
          if_neg (Nat.not_lt.2 fits)]
        exact ⟨trivial, mirrors.acceptAll items⟩
  | enqueue items =>
      simp only [Ring.serve, enqueue_eq valid]
      exact ⟨rfl, mirrors.acceptAll items⟩
  | peek target => exact ⟨mirrors.copy target, mirrors⟩
  | dequeue target => exact ⟨mirrors.copy target, by
      simp only [Ring.serve, dequeue_eq valid]
      exact mirrors.remove target.length⟩
  | pop => exact mirrors.pop
  | skipOne => exact ⟨congrArg Reply.told mirrors.skipOne.1, mirrors.skipOne.2⟩
  | discard count =>
      refine ⟨?_, mirrors.remove count⟩
      rw [DroppingQueue.serve, ← mirrors.length_eq]
      rfl
  | clear =>
      refine ⟨rfl, ?_⟩
      have all := mirrors.remove ring.length
      rw [Nat.min_self, ← clear_eq_advance, mirrors.length_eq] at all
      exact all

/-- The simulation over a whole sequence of operations. -/
theorem after (mirrors : ring.Mirrors queue) (operations : List (Operation α)) :
    ring.replies operations = queue.replies operations ∧
      (ring.after operations).Mirrors (queue.after operations) := by
  induction operations generalizing ring queue with
  | nil => exact ⟨rfl, mirrors⟩
  | cons operation later inductionHypothesis =>
      have step := mirrors.serve operation
      have rest := inductionHypothesis step.2
      constructor
      · rw [replies, DroppingQueue.replies, step.1, rest.1]
      · exact rest.2

end Mirrors

theorem blank_mirrors_empty [Inhabited α] {capacity : Nat} (positive : 0 < capacity) :
    (blank capacity : Ring α).Mirrors (DroppingQueue.empty capacity) where
  valid := valid_blank positive
  capacity := capacity_blank capacity
  contents := toList_blank positive
  accepted := rfl
  dropped := rfl
  balance := rfl

/-- A fresh ring and a fresh queue of the same positive capacity cannot be
told apart by any sequence of operations.  A ring over supplied storage is the
same ring as one made for the capacity.

The replies include refusals: a pass is refused exactly when it is longer than
the capacity, and then nothing at all has changed, whatever the operations
before it were. -/
theorem replies_eq_queue [Inhabited α] {capacity : Nat} (positive : 0 < capacity) :
    ∃ ring : Ring α, create capacity = .ok ring ∧
      (forall storage : Array α, storage.size = capacity -> ofStorage storage = .ok ring) ∧
      forall operations : List (Operation α),
        let last := ring.after operations
        let queue := (DroppingQueue.empty capacity).after operations
        ring.replies operations = (DroppingQueue.empty capacity).replies operations ∧
          last.toList = queue.items ∧
          last.length ≤ capacity ∧
          last.totalEnqueued = queue.accepted ∧
          last.totalEvicted = queue.dropped ∧
          last.totalEnqueued = last.totalEvicted + queue.removed + last.length ∧
          forall items : List α, capacity < items.length ->
            last.serve (.enqueueBulk items) =
              (.refused (.chunkTooLarge items.length capacity), last) := by
  refine ⟨blank capacity, if_neg (Nat.ne_of_gt positive), ?_, ?_⟩
  · intro storage size
    rw [ofStorage, size, if_neg (Nat.ne_of_gt positive)]
  · intro operations
    rcases (blank_mirrors_empty positive).after operations with ⟨replies, mirrors⟩
    have size : (Ring.after (blank capacity : Ring α) operations).capacity = capacity := by
      rw [mirrors.capacity, DroppingQueue.capacity_after]
      rfl
    refine ⟨replies, mirrors.contents, Nat.le_trans mirrors.valid.2 (Nat.le_of_eq size),
      mirrors.accepted, mirrors.dropped, mirrors.balance, ?_⟩
    intro items long
    have refused := serve_enqueueBulk_of_long (Nat.lt_of_le_of_lt (Nat.le_of_eq size) long)
    rw [size] at refused
    exact refused

/-- Two slots, three items and one more than fits in a pass. -/
theorem replies_of_two_slots :
    0 < 2 ∧ ∃ ring : Ring UInt8, create 2 = .ok ring ∧
      ring.replies [.enqueue [1, 2, 3], .enqueueBulk [4, 5, 6], .dequeue [9, 9, 9], .pop] =
        [.counted 3, .refused (.chunkTooLarge 3 2), .copied 2 [2, 3, 9], .item none] := by
  rcases @replies_eq_queue UInt8 _ 2 (by decide) with ⟨ring, made, _, agrees⟩
  exact ⟨by decide, ring, made, (agrees _).1.trans rfl⟩

end Ring
end TelemetryRelay
