import Mathlib.Data.List.Rotate
import TelemetryRelay.Ring.Basic

/-!
# The contents of a ring

Seen from the read cursor, the slots of a ring form a rotated list, and what
is buffered is the beginning of it.  Moving the cursor rotates that list
further; an item goes to the place right behind its buffered part.  With this
view no statement about contents has to speak of the end of the storage: the
two runs of slots that a reader visits are one beginning of the unrolled list.

Everything here assumes a valid ring.  Slots outside the buffered span may
hold anything.
-/

namespace TelemetryRelay
namespace Ring

universe u

variable {α : Type u}

/-- All slots in the order in which they follow the read cursor. -/
def unrolled (ring : Ring α) : List α :=
  ring.slots.toList.rotate ring.readCursor

theorem length_slots (ring : Ring α) : ring.slots.toList.length = ring.capacity := by
  rw [Array.length_toList, capacity]

@[simp] theorem length_unrolled (ring : Ring α) : ring.unrolled.length = ring.capacity := by
  rw [unrolled, List.length_rotate, length_slots]

theorem Valid.capacity_positive {ring : Ring α} (valid : ring.Valid) : 0 < ring.capacity :=
  Nat.zero_lt_of_lt valid.1

/-! ## Runs of slots -/

/-- The two runs of slots that a reader of `count` items visits make up the
beginning of the unrolled slots.  It does not matter how many of these are
buffered. -/
theorem runs_eq_take {ring : Ring α} (valid : ring.Valid) {count : Nat}
    (fits : count ≤ ring.capacity) :
    ring.slotRange ring.readCursor (ring.readCursor + min count (ring.capacity - ring.readCursor)) ++
        ring.slotRange 0 (count - min count (ring.capacity - ring.readCursor)) =
      ring.unrolled.take count := by
  have cursor := valid.1
  have inside : ring.readCursor ≤ ring.slots.toList.length := by
    rw [length_slots]
    exact Nat.le_of_lt cursor
  rw [unrolled, List.rotate_eq_drop_append_take inside, List.take_append]
  simp only [slotRange, Array.toList_extract, List.extract_eq_take_drop, List.length_drop,
    List.drop_zero, List.take_take, Array.length_toList, Nat.add_sub_cancel_left, Nat.sub_zero]
  simp only [capacity] at cursor fits ⊢
  congr 1
  · rcases Nat.le_total count (ring.slots.size - ring.readCursor) with short | long
    · rw [Nat.min_eq_left short]
    · rw [Nat.min_eq_right long, List.take_of_length_le, List.take_of_length_le] <;>
        simp only [List.length_drop, Array.length_toList] <;> omega
  · congr 1
    omega

theorem toList_eq_take {ring : Ring α} (valid : ring.Valid) :
    ring.toList = ring.unrolled.take ring.length :=
  runs_eq_take valid valid.2

@[simp] theorem length_toList {ring : Ring α} (valid : ring.Valid) :
    ring.toList.length = ring.length := by
  rw [toList_eq_take valid, List.length_take, length_unrolled]
  exact Nat.min_eq_left valid.2

/-! ## A fresh ring -/

@[simp] theorem capacity_blank [Inhabited α] (capacity : Nat) :
    (blank capacity : Ring α).capacity = capacity :=
  Array.size_replicate

theorem valid_blank [Inhabited α] {capacity : Nat} (positive : 0 < capacity) :
    (blank capacity : Ring α).Valid :=
  ⟨Nat.lt_of_lt_of_eq positive (capacity_blank capacity).symm, Nat.zero_le _⟩

theorem toList_blank [Inhabited α] {capacity : Nat} (positive : 0 < capacity) :
    (blank capacity : Ring α).toList = [] := by
  rw [← List.length_eq_zero_iff, length_toList (valid_blank positive)]
  rfl

/-! ## Moving the read cursor -/

theorem valid_advance {ring : Ring α} (valid : ring.Valid) (count : Nat) :
    (ring.advance count).Valid :=
  ⟨Nat.mod_lt _ valid.capacity_positive, Nat.le_trans (Nat.sub_le _ _) valid.2⟩

theorem unrolled_advance (ring : Ring α) (count : Nat) :
    (ring.advance count).unrolled = ring.unrolled.rotate count := by
  simp only [unrolled, advance, List.rotate_rotate]
  rw [← ring.length_slots, List.rotate_mod]

theorem toList_advance {ring : Ring α} (valid : ring.Valid) {count : Nat}
    (buffered : count ≤ ring.length) :
    (ring.advance count).toList = ring.toList.drop count := by
  have room := valid.2
  rw [toList_eq_take (valid_advance valid count), toList_eq_take valid, unrolled_advance,
    List.rotate_eq_drop_append_take (by rw [length_unrolled]; omega), List.drop_take,
    List.take_append_of_le_length]
  · rfl
  · simp only [advance, List.length_drop, length_unrolled]
    omega

theorem advance_advance (ring : Ring α) (first second : Nat) :
    (ring.advance first).advance second = ring.advance (first + second) := by
  simp only [advance, capacity, Nat.mod_add_mod, Nat.add_assoc, Nat.sub_sub]

theorem advance_zero {ring : Ring α} (valid : ring.Valid) : ring.advance 0 = ring := by
  simp only [advance, Nat.add_zero, Nat.sub_zero, Nat.mod_eq_of_lt valid.1]

theorem clear_eq_advance (ring : Ring α) : ring.clear = ring.advance ring.length := by
  simp only [clear, advance, writeCursor, Nat.sub_self]

/-! ## One more item -/

@[simp] theorem capacity_place (ring : Ring α) (item : α) :
    (ring.place item).capacity = ring.capacity := by
  simp only [place, capacity, Array.size_setIfInBounds]

theorem valid_place {ring : Ring α} (valid : ring.Valid) (room : ring.length < ring.capacity)
    (item : α) : (ring.place item).Valid := by
  unfold Valid
  rw [capacity_place]
  exact ⟨valid.1, room⟩

/-- Places of the unrolled slots are different slots. -/
theorem slot_eq_iff {cursor capacity first second : Nat} (inside : cursor < capacity)
    (firstInside : first < capacity) (secondInside : second < capacity) :
    (first + cursor) % capacity = (second + cursor) % capacity ↔ first = second := by
  have wrap : forall place, place < capacity ->
      (place + cursor) % capacity =
        if place + cursor < capacity then place + cursor else place + cursor - capacity := by
    intro place placeInside
    split
    · rename_i before
      exact Nat.mod_eq_of_lt before
    · rename_i beyond
      rw [Nat.mod_eq_sub_mod (by omega)]
      exact Nat.mod_eq_of_lt (by omega)
  rw [wrap first firstInside, wrap second secondInside]
  split <;> split <;> omega

theorem unrolled_place {ring : Ring α} (valid : ring.Valid) (room : ring.length < ring.capacity)
    (item : α) : (ring.place item).unrolled = ring.unrolled.set ring.length item := by
  have size := ring.length_slots
  have target : (ring.readCursor + ring.length) % ring.capacity < ring.capacity :=
    Nat.mod_lt _ valid.capacity_positive
  apply List.ext_getElem?
  intro index
  by_cases inside : index < ring.capacity
  · have written : (ring.place item).slots.toList =
        ring.slots.toList.set ((ring.readCursor + ring.length) % ring.capacity) item := by
      simp only [place, writeCursor, Array.toList_setIfInBounds]
    rw [unrolled, unrolled, written, List.getElem?_set, List.length_rotate,
      List.getElem?_rotate (by rw [List.length_set, size]; exact inside),
      List.getElem?_rotate (by rw [size]; exact inside), List.getElem?_set, List.length_set]
    change (if _ = (index + ring.readCursor) % _ then _ else _) = _
    rw [size, if_pos target, if_pos room, Nat.add_comm ring.readCursor ring.length]
    simp only [slot_eq_iff valid.1 room inside]
    rfl
  · rw [List.getElem?_eq_none, List.getElem?_eq_none]
    · simpa only [List.length_set, length_unrolled] using Nat.le_of_not_lt inside
    · simpa only [length_unrolled, capacity_place] using Nat.le_of_not_lt inside

theorem toList_place {ring : Ring α} (valid : ring.Valid) (room : ring.length < ring.capacity)
    (item : α) : (ring.place item).toList = ring.toList ++ [item] := by
  rw [toList_eq_take (valid_place valid room item), toList_eq_take valid,
    unrolled_place valid room item]
  change (ring.unrolled.set ring.length item).take (ring.length + 1) = _
  rw [List.take_add_one, List.take_set_of_le (Nat.le_refl _),
    List.getElem?_set_self (by rw [length_unrolled]; exact room)]
  rfl

/-! ## Reading -/

theorem copyFrom_eq {ring : Ring α} {start : Nat} {target : List α}
    (fits : start + target.length ≤ ring.capacity) :
    ring.copyFrom start target = .ok (ring.slotRange start (start + target.length)) := by
  unfold copyFrom
  rw [if_neg (Nat.not_lt.2 fits)]

/-- A peek copies the oldest items over the front of the places and leaves the
places behind as they are. -/
theorem peek_eq {ring : Ring α} (valid : ring.Valid) (target : List α) :
    ring.peek target =
      (min target.length ring.length,
        ring.toList.take (min target.length ring.length) ++
          target.drop (min target.length ring.length)) := by
  unfold peek
  simp only
  generalize countEq : min target.length ring.length = count
  have places : count ≤ target.length := by omega
  have buffered : count ≤ ring.length := by omega
  split
  · rename_i nothing
    rw [nothing, List.take_zero, List.drop_zero, List.nil_append]
  · have fits : count ≤ ring.capacity := Nat.le_trans buffered valid.2
    have cursor := valid.1
    have front : ((target.take count).take (min count (ring.capacity - ring.readCursor))).length =
        min count (ring.capacity - ring.readCursor) := by
      simp only [List.length_take]
      omega
    have back : ((target.take count).drop (min count (ring.capacity - ring.readCursor))).length =
        count - min count (ring.capacity - ring.readCursor) := by
      simp only [List.length_drop, List.length_take]
      omega
    rw [copyFrom_eq (by rw [front]; omega), copyFrom_eq (by rw [back]; omega), front, back,
      Nat.zero_add]
    simp only
    rw [runs_eq_take valid fits, toList_eq_take valid, List.take_take, Nat.min_eq_left buffered]

theorem dequeue_eq {ring : Ring α} (valid : ring.Valid) (target : List α) :
    ring.dequeue target =
      (min target.length ring.length,
        ring.toList.take (min target.length ring.length) ++
          target.drop (min target.length ring.length),
        ring.advance (min target.length ring.length)) := by
  simp only [dequeue, peek_eq valid]

theorem head?_toList {ring : Ring α} (valid : ring.Valid) (nonempty : 0 < ring.length) :
    ring.toList.head? = ring.slots[ring.readCursor]? := by
  have positive : 0 < ring.slots.toList.length := by
    rw [length_slots]
    exact valid.capacity_positive
  rw [toList_eq_take valid, List.head?_take, if_neg (Nat.ne_of_gt nonempty),
    List.head?_eq_getElem?, unrolled, List.getElem?_rotate positive, length_slots, Nat.zero_add,
    Nat.mod_eq_of_lt valid.1, Array.getElem?_toList]

theorem pop?_eq {ring : Ring α} (valid : ring.Valid) :
    ring.pop? = ring.toList.head?.map fun item => (item, ring.advance 1) := by
  unfold pop? isEmpty
  by_cases empty : ring.length = 0
  · have nothing : ring.toList = [] := by
      rw [← List.length_eq_zero_iff, length_toList valid, empty]
    simp only [empty, beq_self_eq_true, if_true, nothing, List.head?_nil, Option.map_none]
  · rw [head?_toList valid (by omega), if_neg (by simpa using empty)]

end Ring
end TelemetryRelay
