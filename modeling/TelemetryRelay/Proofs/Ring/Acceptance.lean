import TelemetryRelay.Proofs.Ring.Contents

/-!
# Accepting items

A ring accepts items one by one, in a single pass, or in pieces of its
capacity.  For a valid ring these are the same: each is the repetition of
accepting one item, and they agree on the whole state, stale slots and
counters included.  The pass that drops its whole shortfall beforehand and the
repetition that drops one item at a time meet because dropping moves the read
cursor only, while the place of the next write stays where it is.

What acceptance does to contents and counters is therefore proved once, for
the repetition.
-/

namespace TelemetryRelay
namespace Ring

universe u

variable {α : Type u}

/-- Items that have to go before the given number of items can come. -/
def shortfall (ring : Ring α) (count : Nat) : Nat :=
  count - ring.free

/-- The ring after dropping the shortfall from its front. -/
def makeRoom (ring : Ring α) (count : Nat) : Ring α :=
  { ring.advance (ring.shortfall count) with
    totalEvicted := ring.totalEvicted + ring.shortfall count }

def accept (ring : Ring α) (item : α) : Ring α :=
  (ring.makeRoom 1).place item

def acceptAll (ring : Ring α) (items : List α) : Ring α :=
  items.foldl accept ring

@[simp] theorem acceptAll_nil (ring : Ring α) : ring.acceptAll [] = ring :=
  rfl

@[simp] theorem acceptAll_cons (ring : Ring α) (item : α) (items : List α) :
    ring.acceptAll (item :: items) = (ring.accept item).acceptAll items :=
  rfl

theorem acceptAll_append (ring : Ring α) (first second : List α) :
    ring.acceptAll (first ++ second) = (ring.acceptAll first).acceptAll second :=
  List.foldl_append

/-! ## Making room -/

@[simp] theorem capacity_makeRoom (ring : Ring α) (count : Nat) :
    (ring.makeRoom count).capacity = ring.capacity :=
  rfl

theorem valid_makeRoom {ring : Ring α} (valid : ring.Valid) (count : Nat) :
    (ring.makeRoom count).Valid :=
  valid_advance valid _

theorem shortfall_le_length {ring : Ring α} (valid : ring.Valid) {count : Nat}
    (fits : count ≤ ring.capacity) : ring.shortfall count ≤ ring.length := by
  have room := valid.2
  simp only [shortfall, free]
  omega

theorem length_makeRoom {ring : Ring α} (valid : ring.Valid) {count : Nat}
    (fits : count ≤ ring.capacity) : (ring.makeRoom count).length + count ≤ ring.capacity := by
  have room := valid.2
  simp only [makeRoom, advance, shortfall, free]
  omega

theorem makeRoom_of_room {ring : Ring α} (valid : ring.Valid) {count : Nat}
    (room : count ≤ ring.free) : ring.makeRoom count = ring := by
  have nothing : ring.shortfall count = 0 := Nat.sub_eq_zero_of_le room
  simp only [makeRoom, nothing, advance_zero valid, Nat.add_zero]

/-- Making some of the room first does not change what making room comes
to. -/
theorem makeRoom_makeRoom {ring : Ring α} (valid : ring.Valid) {first count : Nat}
    (le : first ≤ count) (fits : count ≤ ring.capacity) :
    (ring.makeRoom first).makeRoom count = ring.makeRoom count := by
  have sum : ring.shortfall first + (ring.makeRoom first).shortfall count =
      ring.shortfall count := by
    have room := valid.2
    simp only [shortfall, free, makeRoom, advance, capacity] at room fits ⊢
    omega
  calc (ring.makeRoom first).makeRoom count
      = { (ring.advance (ring.shortfall first)).advance
            ((ring.makeRoom first).shortfall count) with
          totalEvicted := ring.totalEvicted + ring.shortfall first +
            (ring.makeRoom first).shortfall count } := rfl
    _ = ring.makeRoom count := by
      rw [advance_advance, Nat.add_assoc, sum]
      rfl

theorem writeCursor_advance (ring : Ring α) {count : Nat} (buffered : count ≤ ring.length) :
    (ring.advance count).writeCursor = ring.writeCursor := by
  simp only [writeCursor, advance, capacity, Nat.mod_add_mod]
  congr 1
  omega

/-- Room can be made before an item is placed or after it. -/
theorem makeRoom_place {ring : Ring α} (valid : ring.Valid) (item : α) {count : Nat}
    (fits : count + 1 ≤ ring.capacity) (room : ring.length < ring.capacity) :
    (ring.place item).makeRoom count = (ring.makeRoom (count + 1)).place item := by
  have same : (ring.place item).shortfall count = ring.shortfall (count + 1) := by
    simp only [shortfall, free, capacity_place]
    simp only [place]
    omega
  have buffered : ring.shortfall (count + 1) ≤ ring.length := shortfall_le_length valid fits
  have cursor : (ring.makeRoom (count + 1)).writeCursor = ring.writeCursor :=
    ring.writeCursor_advance buffered
  have size := ring.capacity_place item
  unfold makeRoom at cursor ⊢
  rw [same]
  unfold place at size ⊢
  rw [cursor]
  unfold advance
  rw [size]
  simp only [Ring.mk.injEq]
  exact ⟨trivial, trivial, by omega, trivial, trivial⟩

/-! ## The single pass -/

theorem writeCursor_lt {ring : Ring α} (valid : ring.Valid) :
    ring.writeCursor < ring.capacity :=
  Nat.mod_lt _ valid.capacity_positive

theorem writeCursor_place (ring : Ring α) (item : α) :
    (ring.place item).writeCursor = (ring.writeCursor + 1) % ring.capacity := by
  rw [writeCursor, capacity_place, writeCursor, Nat.mod_add_mod]
  rfl

/-- The slots of a filled ring, with the run up to the last slot and the run
from the first one on told apart by a case distinction. -/
theorem slots_fill_cons {ring : Ring α} (valid : ring.Valid) (item : α) (items : List α)
    (fits : items.length + 1 ≤ ring.capacity) :
    (ring.fill (item :: items)).slots = ((ring.place item).fill items).slots := by
  have inside := writeCursor_lt valid
  simp only [fill, capacity_place, writeCursor_place, List.length_cons]
  change _ = writeRun (writeRun (ring.slots.setIfInBounds ring.writeCursor item) _ _) 0 _
  rcases Nat.lt_or_ge (ring.writeCursor + 1) ring.capacity with before | last
  · have head : min (items.length + 1) (ring.capacity - ring.writeCursor) =
        min items.length (ring.capacity - (ring.writeCursor + 1)) + 1 := by omega
    rw [Nat.mod_eq_of_lt before, head, List.take_succ_cons, List.drop_succ_cons, writeRun]
  · have wraps : ring.writeCursor + 1 = ring.capacity := by omega
    have head : min (items.length + 1) (ring.capacity - ring.writeCursor) = 1 := by omega
    have all : min items.length (ring.capacity - 0) = items.length := by omega
    rw [wraps, Nat.mod_self, head, all, List.take_length, List.drop_length]
    rfl

theorem fill_cons {ring : Ring α} (valid : ring.Valid) (item : α) (items : List α)
    (fits : items.length + 1 ≤ ring.capacity) :
    ring.fill (item :: items) = (ring.place item).fill items := by
  have slots := slots_fill_cons valid item items fits
  unfold fill at slots ⊢
  simp only at slots ⊢
  rw [slots]
  simp only [place, List.length_cons, Ring.mk.injEq]
  exact ⟨trivial, trivial, by omega, by omega, trivial⟩

/-- A single pass comes to the same as accepting the items one by one. -/
theorem fill_makeRoom {ring : Ring α} (valid : ring.Valid) (items : List α)
    (fits : items.length ≤ ring.capacity) :
    (ring.makeRoom items.length).fill items = ring.acceptAll items := by
  induction items generalizing ring with
  | nil =>
      rw [List.length_nil, makeRoom_of_room valid (Nat.zero_le _)]
      rfl
  | cons item items inductionHypothesis =>
      rw [List.length_cons] at fits ⊢
      have one : (ring.makeRoom 1).length < ring.capacity :=
        length_makeRoom valid valid.capacity_positive
      have validRoom := valid_makeRoom valid 1
      have accepted : (ring.accept item).Valid := valid_place validRoom one item
      rw [acceptAll_cons, ← inductionHypothesis accepted, accept,
        makeRoom_place validRoom item fits one, makeRoom_makeRoom valid (by omega) fits,
        fill_cons (valid_makeRoom valid _) item items fits]
      rw [accept, capacity_place, capacity_makeRoom]
      exact Nat.le_of_succ_le fits

theorem evict_eq {ring : Ring α} {count : Nat} (buffered : count ≤ ring.length) :
    ring.evict count = .ok { ring.advance count with totalEvicted := ring.totalEvicted + count } := by
  rw [evict, if_neg (Nat.not_lt.2 buffered)]

theorem enqueueOne_eq {ring : Ring α} (valid : ring.Valid) (item : α) :
    ring.enqueueOne item = .ok (ring.accept item) := by
  unfold enqueueOne
  by_cases full : ring.length = ring.capacity
  · have one : ring.shortfall 1 = 1 := by
      simp only [shortfall, free]
      omega
    have isFull : ring.isFull = true := by simpa only [isFull, beq_iff_eq] using full
    have positive := valid.capacity_positive
    rw [if_pos isFull, evict_eq (by omega)]
    simp only [accept, makeRoom, one]
    rfl
  · have notFull : ring.isFull = false := by simpa only [isFull, beq_eq_false_iff_ne] using full
    have room := valid.2
    rw [accept, makeRoom_of_room valid (by simp only [free]; omega), notFull]
    rfl

theorem enqueueBulk_eq {ring : Ring α} (valid : ring.Valid) {items : List α}
    (fits : items.length ≤ ring.capacity) :
    ring.enqueueBulk items = .ok (ring.acceptAll items) := by
  unfold enqueueBulk
  by_cases none : items.length = 0
  · rw [if_pos none, List.length_eq_zero_iff.1 none]
    rfl
  · rw [if_neg none, if_neg (Nat.not_lt.2 fits), ← fill_makeRoom valid items fits]
    by_cases short : ring.free < items.length
    · have evicts : ring.evict (items.length - ring.free) = _ :=
        evict_eq (shortfall_le_length valid fits)
      rw [if_pos short, evicts]
      rfl
    · rw [if_neg short, makeRoom_of_room valid (Nat.le_of_not_lt short)]
      rfl

/-! ## Any number of items -/

@[simp] theorem capacity_accept (ring : Ring α) (item : α) :
    (ring.accept item).capacity = ring.capacity := by
  rw [accept, capacity_place, capacity_makeRoom]

theorem valid_accept {ring : Ring α} (valid : ring.Valid) (item : α) :
    (ring.accept item).Valid :=
  valid_place (valid_makeRoom valid 1) (length_makeRoom valid valid.capacity_positive) item

@[simp] theorem capacity_acceptAll (ring : Ring α) (items : List α) :
    (ring.acceptAll items).capacity = ring.capacity := by
  induction items generalizing ring with
  | nil => rfl
  | cons item items inductionHypothesis =>
      rw [acceptAll_cons, inductionHypothesis, capacity_accept]

theorem valid_acceptAll {ring : Ring α} (valid : ring.Valid) (items : List α) :
    (ring.acceptAll items).Valid := by
  induction items generalizing ring with
  | nil => exact valid
  | cons item items inductionHypothesis => exact inductionHypothesis (valid_accept valid item)

theorem flatten_pieces {size : Nat} (positive : 0 < size) (items : List α) :
    (pieces size items).flatten = items := by
  fun_induction pieces size items with
  | case1 items more inductionHypothesis =>
      rw [List.flatten_cons, inductionHypothesis, List.take_append_drop]
  | case2 items done =>
      rw [List.flatten_nil]
      by_contra some
      exact done ⟨positive, Ne.symm some⟩

theorem length_le_of_mem_pieces {size : Nat} {items piece : List α}
    (member : piece ∈ pieces size items) : piece.length ≤ size := by
  fun_induction pieces size items with
  | case1 items more inductionHypothesis =>
      rcases List.mem_cons.1 member with first | later
      · rw [first, List.length_take]
        exact Nat.min_le_left _ _
      · exact inductionHypothesis later
  | case2 items done => exact absurd member List.not_mem_nil

theorem enqueuePieces_eq {ring : Ring α} (valid : ring.Valid) (accepted : Nat)
    (parts : List (List α)) (fit : forall part, part ∈ parts -> part.length ≤ ring.capacity) :
    ring.enqueuePieces accepted parts =
      (accepted + parts.flatten.length, ring.acceptAll parts.flatten) := by
  induction parts generalizing ring accepted with
  | nil => rfl
  | cons part parts inductionHypothesis =>
      have fits := fit part List.mem_cons_self
      have later : forall other, other ∈ parts ->
          other.length ≤ (ring.acceptAll part).capacity := by
        intro other member
        rw [capacity_acceptAll]
        exact fit other (List.mem_cons_of_mem part member)
      rw [enqueuePieces, enqueueBulk_eq valid fits]
      simp only
      rw [inductionHypothesis (valid_acceptAll valid part) _ later, List.flatten_cons,
        List.length_append, acceptAll_append, Nat.add_assoc]

/-- A valid ring accepts everything, however much it is. -/
theorem enqueue_eq {ring : Ring α} (valid : ring.Valid) (items : List α) :
    ring.enqueue items = (items.length, ring.acceptAll items) := by
  have fits : forall part, part ∈ pieces ring.capacity items -> part.length ≤ ring.capacity :=
    fun _ member => length_le_of_mem_pieces member
  unfold enqueue
  split
  · rfl
  · rw [enqueueOne_eq valid]
    rfl
  · split
    · rw [enqueuePieces_eq valid 0 _ fits, flatten_pieces valid.capacity_positive, Nat.zero_add]
    · rename_i small
      rw [enqueueBulk_eq valid (Nat.le_of_not_lt small)]

/-! ## Contents and counters -/

theorem toList_accept {ring : Ring α} (valid : ring.Valid) (item : α) :
    (ring.accept item).toList = ring.toList.drop (ring.shortfall 1) ++ [item] := by
  have positive := valid.capacity_positive
  rw [accept, toList_place (valid_makeRoom valid 1) (length_makeRoom valid positive)]
  congr 1
  exact toList_advance valid (shortfall_le_length valid positive)

/-- What has to go for several items goes for the first of them and for the
others. -/
theorem shortfall_accept {ring : Ring α} (valid : ring.Valid) (item : α) (count : Nat) :
    ring.shortfall 1 + (ring.accept item).shortfall count = ring.shortfall (count + 1) := by
  have positive := valid.capacity_positive
  have room := valid.2
  simp only [shortfall, free, capacity_accept]
  simp only [accept, place, makeRoom, advance, shortfall, free]
  omega

/-- Of everything that was buffered or comes in, the newest stays. -/
theorem toList_acceptAll {ring : Ring α} (valid : ring.Valid) (items : List α) :
    (ring.acceptAll items).toList =
      (ring.toList ++ items).drop (ring.shortfall items.length) := by
  induction items generalizing ring with
  | nil =>
      have nothing : ring.shortfall 0 = 0 := Nat.zero_sub _
      rw [acceptAll_nil, List.length_nil, nothing, List.append_nil, List.drop_zero]
  | cons item items inductionHypothesis =>
      have one : ring.shortfall 1 ≤ ring.toList.length := by
        rw [length_toList valid]
        exact shortfall_le_length valid valid.capacity_positive
      rw [acceptAll_cons, inductionHypothesis (valid_accept valid item), toList_accept valid,
        List.length_cons, ← shortfall_accept valid item items.length, ← List.drop_drop,
        List.drop_append_of_le_length one, List.append_assoc, List.singleton_append]

theorem totalEnqueued_acceptAll (ring : Ring α) (items : List α) :
    (ring.acceptAll items).totalEnqueued = ring.totalEnqueued + items.length := by
  induction items generalizing ring with
  | nil => rfl
  | cons item items inductionHypothesis =>
      rw [acceptAll_cons, inductionHypothesis, List.length_cons, Nat.add_comm items.length,
        ← Nat.add_assoc]
      rfl

theorem totalEvicted_acceptAll {ring : Ring α} (valid : ring.Valid) (items : List α) :
    (ring.acceptAll items).totalEvicted = ring.totalEvicted + ring.shortfall items.length := by
  induction items generalizing ring with
  | nil =>
      have nothing : ring.shortfall 0 = 0 := Nat.zero_sub _
      rw [acceptAll_nil, List.length_nil, nothing, Nat.add_zero]
  | cons item items inductionHypothesis =>
      rw [acceptAll_cons, inductionHypothesis (valid_accept valid item), List.length_cons,
        ← shortfall_accept valid item, ← Nat.add_assoc]
      rfl

/-- Items that are accepted in two parts displace as many as they do
together. -/
theorem shortfall_acceptAll {ring : Ring α} (valid : ring.Valid) (first second : List α) :
    ring.shortfall first.length + (ring.acceptAll first).shortfall second.length =
      ring.shortfall (first ++ second).length := by
  have whole := totalEvicted_acceptAll valid (first ++ second)
  rw [acceptAll_append, totalEvicted_acceptAll (valid_acceptAll valid first),
    totalEvicted_acceptAll valid] at whole
  omega

end Ring
end TelemetryRelay
