import Mathlib.Algebra.Group.Nat.Defs
import TelemetryRelay.Proofs.Ring.Guarded
import TelemetryRelay.Proofs.Ring.Layout

/-!
# A ring never fails inside

The operations of a ring subtract numbers, pick slots, cut lists and copy one
run of items over another without asking first whether they may, and they
answer an error of one of their own steps by accepting or copying nothing.
Nothing of that can happen to a valid ring: with a guard at each of these
steps, its operations are not stopped, and come to the same as without.
-/

namespace TelemetryRelay

namespace Ring

variable {α : Type}

/-- Both counters fit 64 bits. -/
def Countable (ring : Ring α) : Prop :=
  ring.totalEnqueued < UInt64.size ∧ ring.totalEvicted < UInt64.size

instance countableDecidable (ring : Ring α) : Decidable ring.Countable :=
  inferInstanceAs (Decidable (_ ∧ _))

theorem isFull_iff (ring : Ring α) : ring.isFull = true ↔ ring.length = ring.capacity :=
  beq_iff_eq

theorem length_pos_of_not_isEmpty (ring : Ring α) (nonempty : ¬ring.isEmpty = true) :
    0 < ring.length :=
  Nat.pos_of_ne_zero fun empty => nonempty (beq_iff_eq.mpr empty)

theorem size_writeRun (slots : Array α) (start : Nat) (items : List α) :
    (writeRun slots start items).size = slots.size := by
  induction items generalizing slots start with
  | nil => rfl
  | cons item items inductionHypothesis =>
      rw [writeRun, inductionHypothesis, Array.size_setIfInBounds]

end Ring

namespace Guarded

variable {α β : Type}

/-! ## Steps that are not stopped -/

theorem add_of_lt {left right : Nat} (fits : left + right < UInt64.size) :
    add left right = .ok (left + right) :=
  if_pos fits

theorem sub_of_le {whole part : Nat} (le : part ≤ whole) : sub whole part = .ok (whole - part) :=
  if_pos le

theorem remainder_of_pos {divisor : Nat} (positive : 0 < divisor) (number : Nat) :
    remainder number divisor = .ok (number % divisor) :=
  if_pos positive

theorem range_of_le {items : List α} {start stop : Nat} (ordered : start ≤ stop)
    (inside : stop ≤ items.length) :
    range items start stop = .ok ((items.take stop).drop start) :=
  if_pos ⟨ordered, inside⟩

theorem splitAt_of_le {items : List α} {place : Nat} (inside : place ≤ items.length) :
    splitAt items place = .ok (items.take place, items.drop place) :=
  if_pos inside

theorem copyOver_of_eq {places items : List α} (same : items.length = places.length) :
    copyOver places items = .ok items :=
  if_pos same

theorem setSlot_of_lt {slots : Array α} {index : Nat} (inside : index < slots.size) (item : α) :
    setSlot slots index item = .ok (slots.setIfInBounds index item) :=
  if_pos inside

theorem overwrite_of_le {slots : Array α} {start stop : Nat} {items : List α}
    (ordered : start ≤ stop) (inside : stop ≤ slots.size)
    (same : items.length = stop - start) :
    overwrite slots start stop items = .ok (Ring.writeRun slots start items) := by
  have places : ((slots.toList.take stop).drop start).length = stop - start := by
    rw [List.length_drop, List.length_take, Array.length_toList, Nat.min_eq_left inside]
  rw [overwrite, range_of_le ordered (by rwa [Array.length_toList])]
  dsimp only [bind, Except.bind]
  rw [copyOver_of_eq (same.trans places.symm)]
  rfl

theorem range_slots {ring : Ring α} {start stop : Nat} (ordered : start ≤ stop)
    (inside : stop ≤ ring.capacity) :
    range ring.slots.toList start stop = .ok (ring.slotRange start stop) := by
  rw [range_of_le ordered (by rwa [ring.length_slots]), Ring.slotRange, Array.toList_extract,
    List.extract_eq_take_drop, List.drop_take]

/-- Two numbers that are at most the capacity of a ring have a sum. -/
theorem add_of_le_capacity {ring : Ring α} (addressable : ring.capacity < 2 ^ 63)
    {left right : Nat} (first : left ≤ ring.capacity) (second : right ≤ ring.capacity) :
    add left right = .ok (left + right) := by
  refine add_of_lt ?_
  change left + right < 2 ^ 64
  omega

/-! ## Operations that are not stopped -/

section Operations

variable {ring : Ring α} (valid : ring.Valid) (addressable : ring.capacity < 2 ^ 63)

include valid

theorem free_eq : free ring = .ok ring.free :=
  sub_of_le valid.2

include addressable

theorem writeCursor_eq : writeCursor ring = .ok ring.writeCursor := by
  rw [writeCursor, add_of_le_capacity addressable (Nat.le_of_lt valid.1) valid.2]
  exact remainder_of_pos valid.capacity_positive _

theorem isWrapped_eq : isWrapped ring = .ok ring.isWrapped := by
  rw [isWrapped, Ring.isWrapped]
  by_cases some : 0 < ring.length
  · rw [if_pos some, add_of_le_capacity addressable (Nat.le_of_lt valid.1) valid.2,
      decide_eq_true some, Bool.true_and]
    rfl
  · rw [if_neg some, decide_eq_false some, Bool.false_and]
    rfl

theorem advance_eq {count : Nat} (buffered : count ≤ ring.length) :
    advance ring count = .ok (ring.advance count) := by
  rw [advance, add_of_le_capacity addressable (Nat.le_of_lt valid.1)
    (Nat.le_trans buffered valid.2)]
  dsimp only [bind, Except.bind]
  rw [remainder_of_pos valid.capacity_positive]
  dsimp only
  rw [sub_of_le buffered]
  rfl

theorem evict_eq {count : Nat} (buffered : count ≤ ring.length)
    (counted : ring.totalEvicted + count < UInt64.size) :
    evict ring count =
      .ok (.ok { ring.advance count with totalEvicted := ring.totalEvicted + count }) := by
  rw [evict, if_neg (Nat.not_lt.mpr buffered), advance_eq valid addressable buffered]
  dsimp only [bind, Except.bind]
  rw [add_of_lt counted]
  rfl

theorem place_eq (room : ring.length < ring.capacity)
    (counted : ring.totalEnqueued + 1 < UInt64.size) (item : α) :
    place ring item = .ok (ring.place item) := by
  rw [place, writeCursor_eq valid addressable]
  dsimp only [bind, Except.bind]
  rw [setSlot_of_lt (Ring.writeCursor_lt valid)]
  dsimp only
  rw [add_of_le_capacity addressable (Nat.le_of_lt room) valid.capacity_positive]
  dsimp only
  rw [add_of_lt counted]
  rfl

/-- The two parts of the items and the two runs of slots that they go to have
the same lengths. -/
theorem fill_eq {items : List α} (room : ring.length + items.length ≤ ring.capacity)
    (counted : ring.totalEnqueued + items.length < UInt64.size) :
    fill ring items = .ok (ring.fill items) := by
  have inside := Ring.writeCursor_lt valid
  have size : ring.slots.size = ring.capacity := rfl
  let head := min items.length (ring.capacity - ring.writeCursor)
  have headEq : min items.length (ring.capacity - ring.writeCursor) = head := rfl
  let written := Ring.writeRun ring.slots ring.writeCursor (items.take head)
  have writtenSize : written.size = ring.capacity := Ring.size_writeRun _ _ _
  have behind : sub ring.capacity ring.writeCursor = .ok (ring.capacity - ring.writeCursor) :=
    sub_of_le (Nat.le_of_lt inside)
  have front : range items 0 head = .ok (items.take head) := range_of_le (Nat.zero_le _) (by omega)
  have stop : add ring.writeCursor head = .ok (ring.writeCursor + head) :=
    add_of_le_capacity addressable (Nat.le_of_lt inside) (by omega)
  have first : overwrite ring.slots ring.writeCursor (ring.writeCursor + head)
      (items.take head) = .ok written :=
    overwrite_of_le (by omega) (by omega) (by rw [List.length_take]; omega)
  have back : range items head items.length = .ok (items.drop head) := by
    rw [range_of_le (by omega) (Nat.le_refl _), List.take_length]
  have rest : sub items.length head = .ok (items.length - head) := sub_of_le (by omega)
  have second : overwrite written 0 (items.length - head) (items.drop head) =
      .ok (Ring.writeRun written 0 (items.drop head)) :=
    overwrite_of_le (Nat.zero_le _) (by omega) (by rw [List.length_drop]; rfl)
  have length : add ring.length items.length = .ok (ring.length + items.length) :=
    add_of_le_capacity addressable valid.2 (by omega)
  simp only [fill, bind, Except.bind, writeCursor_eq valid addressable, behind, headEq, front,
    stop, first, back, rest, second, length, add_of_lt counted]
  rfl

/-- The shortfall of room for items that fit is buffered. -/
theorem evict_shortfall {count : Nat} (fits : count ≤ ring.capacity)
    (counted : (ring.makeRoom count).totalEvicted < UInt64.size) :
    evict ring (ring.shortfall count) = .ok (.ok (ring.makeRoom count)) :=
  evict_eq valid addressable (Ring.shortfall_le_length valid fits) counted

theorem makeRoom_eq {count : Nat} (fits : count ≤ ring.capacity)
    (counted : (ring.makeRoom count).totalEvicted < UInt64.size) :
    makeRoom ring count = .ok (ring.makeRoom count) := by
  have dropped := evict_shortfall valid addressable fits counted
  rw [makeRoom, free_eq valid]
  dsimp only [bind, Except.bind]
  by_cases short : ring.free < count
  · have shortfall : sub count ring.free = .ok (ring.shortfall count) :=
      sub_of_le (Nat.le_of_lt short)
    rw [if_pos short, shortfall]
    dsimp only
    rw [dropped]
    rfl
  · rw [if_neg short, Ring.makeRoom_of_room valid (Nat.le_of_not_lt short)]

theorem enqueueOne_eq (item : α) (counted : (ring.accept item).Countable) :
    enqueueOne ring item = .ok (ring.accept item) := by
  have positive := valid.capacity_positive
  have placed : place (ring.makeRoom 1) item = .ok (ring.accept item) :=
    place_eq (Ring.valid_makeRoom valid 1) addressable (Ring.length_makeRoom valid positive)
      counted.1 item
  rw [enqueueOne]
  by_cases full : ring.length = ring.capacity
  · have one : ring.shortfall 1 = 1 := by
      simp only [Ring.shortfall, Ring.free]
      omega
    have dropped := evict_shortfall valid addressable positive counted.2
    rw [one] at dropped
    rw [if_pos (ring.isFull_iff.mpr full)]
    dsimp only [bind, Except.bind]
    rw [dropped]
    exact placed
  · have room : 1 ≤ ring.free := by
      have := valid.2
      simp only [Ring.free]
      omega
    rw [Ring.makeRoom_of_room valid room] at placed
    rw [if_neg (mt ring.isFull_iff.mp full)]
    exact placed

theorem enqueueBulk_eq {items : List α} (fits : items.length ≤ ring.capacity)
    (counted : (ring.acceptAll items).Countable) :
    enqueueBulk ring items = .ok (.ok (ring.acceptAll items)) := by
  rw [enqueueBulk]
  by_cases none : items.length = 0
  · rw [if_pos none, List.length_eq_zero_iff.mp none]
    rfl
  · have enqueued : (ring.makeRoom items.length).totalEnqueued + items.length < UInt64.size := by
      rw [← Ring.fill_makeRoom valid items fits] at counted
      exact counted.1
    have evicted : (ring.makeRoom items.length).totalEvicted < UInt64.size := by
      rw [← Ring.fill_makeRoom valid items fits] at counted
      exact counted.2
    rw [if_neg none, if_neg (Nat.not_lt.mpr fits), makeRoom_eq valid addressable fits evicted]
    dsimp only [bind, Except.bind]
    have room := Ring.length_makeRoom valid fits
    rw [fill_eq (Ring.valid_makeRoom valid _) addressable room enqueued,
      Ring.fill_makeRoom valid items fits]
    rfl

omit valid addressable in
theorem enqueueBulk_of_long {items : List α} (long : ring.capacity < items.length) :
    enqueueBulk ring items = .ok (.error (.chunkTooLarge items.length ring.capacity)) := by
  rw [enqueueBulk, if_neg (by omega), if_pos long]
  rfl

omit addressable in
/-- Items that are accepted later raise the counters further. -/
theorem countable_of_append {first second : List α}
    (counted : (ring.acceptAll (first ++ second)).Countable) :
    (ring.acceptAll first).Countable := by
  rw [Ring.acceptAll_append] at counted
  have enqueued := Ring.totalEnqueued_acceptAll (ring.acceptAll first) second
  have evicted := Ring.totalEvicted_acceptAll (Ring.valid_acceptAll valid first) second
  exact ⟨by have := counted.1; omega, by have := counted.2; omega⟩

/-- No piece that fits is refused, and the accepted items can be counted. -/
theorem enqueuePieces_eq {parts : List (List α)} {accepted : Nat}
    (fit : forall part, part ∈ parts -> part.length ≤ ring.capacity)
    (counted : (ring.acceptAll parts.flatten).Countable)
    (sum : accepted + parts.flatten.length < UInt64.size) :
    enqueuePieces ring accepted parts =
      .ok (accepted + parts.flatten.length, ring.acceptAll parts.flatten) := by
  induction parts generalizing ring accepted with
  | nil => rfl
  | cons part parts inductionHypothesis =>
      rw [List.flatten_cons, List.length_append] at sum
      rw [List.flatten_cons] at counted ⊢
      have first : enqueueBulk ring part = .ok (.ok (ring.acceptAll part)) :=
        enqueueBulk_eq valid addressable (fit part List.mem_cons_self)
          (countable_of_append valid counted)
      have later : forall other, other ∈ parts ->
          other.length ≤ (ring.acceptAll part).capacity := by
        intro other member
        rw [Ring.capacity_acceptAll]
        exact fit other (List.mem_cons_of_mem part member)
      rw [Ring.acceptAll_append] at counted
      have rest : enqueuePieces (ring.acceptAll part) (accepted + part.length) parts =
          .ok (accepted + part.length + parts.flatten.length,
            (ring.acceptAll part).acceptAll parts.flatten) :=
        inductionHypothesis (Ring.valid_acceptAll valid part) (by rwa [Ring.capacity_acceptAll])
          later counted (by omega)
      have total : add accepted part.length = .ok (accepted + part.length) :=
        add_of_lt (by omega)
      simp only [enqueuePieces, bind, Except.bind, first, granted, Except.mapError, total, rest,
        List.length_append, Ring.acceptAll_append, Nat.add_assoc]

/-- No step of accepting items is refused, however many they are. -/
theorem enqueue_eq {items : List α} (counted : (ring.acceptAll items).Countable) :
    enqueue ring items = .ok (items.length, ring.acceptAll items) := by
  have positive := valid.capacity_positive
  rw [enqueue]
  split
  · rename_i none
    rw [List.length_eq_zero_iff.mp none]
    rfl
  · split
    · rename_i one
      obtain ⟨item, rfl⟩ := List.length_eq_one_iff.mp one
      have accepted := enqueueOne_eq valid addressable item counted
      dsimp only [itemAt, List.getElem?_cons_zero, bind, Except.bind]
      rw [accepted]
      rfl
    · split
      · have fit : forall part, part ∈ Ring.pieces ring.capacity items ->
            part.length ≤ ring.capacity := fun _ member => Ring.length_le_of_mem_pieces member
        have whole := Ring.flatten_pieces positive items
        have enqueued := Ring.totalEnqueued_acceptAll ring items
        have bound := counted.1
        rw [enqueuePieces_eq valid addressable fit (by rwa [whole])
          (by rw [whole]; omega), whole, Nat.zero_add]
      · rename_i small
        rw [enqueueBulk_eq valid addressable (Nat.le_of_not_lt small) counted]
        rfl

/-! ## Reading -/

omit valid addressable in
/-- A copy answers as the unguarded one does; if it is refused, the places hold
what they held. -/
theorem copyFrom_eq {start : Nat} {places : List α}
    (fits : start + places.length < UInt64.size) :
    copyFrom ring start places =
      .ok (match ring.copyFrom start places with
        | .ok copied => (.ok (), copied)
        | .error error => (.error error, places)) := by
  rw [copyFrom, Ring.copyFrom, add_of_lt fits]
  dsimp only [bind, Except.bind]
  split
  · rfl
  · rename_i inside
    have size := ring.length_slotRange start (start + places.length)
    rw [range_slots (Nat.le_add_right _ _) (Nat.le_of_not_lt inside)]
    dsimp only
    rw [copyOver_of_eq (by omega)]
    rfl

omit valid in
theorem copyRun_eq {start : Nat} {places : List α}
    (inside : start + places.length ≤ ring.capacity) :
    copyRun ring start places = .ok (ring.slotRange start (start + places.length)) := by
  have fits : start + places.length < UInt64.size := by
    change start + places.length < 2 ^ 64
    omega
  rw [copyRun, copyFrom_eq fits, Ring.copyFrom_eq inside]
  rfl

theorem peek_eq (places : List α) : peek ring places = .ok (ring.peek places) := by
  have cursor := valid.1
  have room := valid.2
  rw [peek, Ring.peek]
  dsimp only
  generalize countEq : min places.length ring.length = count
  split
  · rfl
  · let head := min count (ring.capacity - ring.readCursor)
    have headEq : min count (ring.capacity - ring.readCursor) = head := rfl
    have used : (places.take count).length = count := by
      rw [List.length_take]
      omega
    have front : ((places.take count).take head).length = head := by
      rw [List.length_take]
      omega
    have back : ((places.take count).drop head).length = count - head := by
      rw [List.length_drop, used]
    have behind : sub ring.capacity ring.readCursor = .ok (ring.capacity - ring.readCursor) :=
      sub_of_le (Nat.le_of_lt cursor)
    have taken : range places 0 count = .ok (places.take count) :=
      range_of_le (Nat.zero_le _) (by omega)
    have split : splitAt (places.take count) head =
        .ok ((places.take count).take head, (places.take count).drop head) :=
      splitAt_of_le (by omega)
    have oldest : copyRun ring ring.readCursor ((places.take count).take head) =
        .ok (ring.slotRange ring.readCursor
          (ring.readCursor + ((places.take count).take head).length)) :=
      copyRun_eq addressable (by omega)
    have newer : copyRun ring 0 ((places.take count).drop head) =
        .ok (ring.slotRange 0 (0 + ((places.take count).drop head).length)) :=
      copyRun_eq addressable (by omega)
    simp only [bind, Except.bind, behind, headEq, taken, split, oldest, newer]
    rw [Ring.copyFrom_eq (by omega), Ring.copyFrom_eq (by omega)]
    rfl

theorem dequeue_eq (places : List α) : dequeue ring places = .ok (ring.dequeue places) := by
  have buffered : (ring.peek places).1 ≤ ring.length := by
    rw [Ring.peek_eq valid]
    exact Nat.min_le_right _ _
  rw [dequeue, peek_eq valid addressable]
  dsimp only [bind, Except.bind]
  rw [advance_eq valid addressable buffered]
  rfl

theorem pop?_eq : pop? ring = .ok ring.pop? := by
  rw [pop?, Ring.pop?]
  split
  · rfl
  · rename_i nonempty
    have buffered : 1 ≤ ring.length := ring.length_pos_of_not_isEmpty nonempty
    obtain ⟨item, found⟩ : ∃ item, ring.slots[ring.readCursor]? = some item :=
      ⟨_, Array.getElem?_eq_getElem valid.1⟩
    dsimp only [itemAt, bind, Except.bind]
    rw [Array.getElem?_toList, found]
    dsimp only
    rw [advance_eq valid addressable buffered]
    rfl

theorem skipOne_eq : skipOne ring = .ok ring.skipOne := by
  rw [skipOne, Ring.skipOne]
  split
  · rfl
  · rename_i nonempty
    have buffered : 1 ≤ ring.length := ring.length_pos_of_not_isEmpty nonempty
    rw [advance_eq valid addressable buffered]
    rfl

theorem discard_eq (count : Nat) : discard ring count = .ok (ring.discard count) := by
  rw [discard, advance_eq valid addressable (Nat.min_le_right _ _)]
  rfl

theorem clear_eq : clear ring = .ok ring.clear := by
  rw [clear, writeCursor_eq valid addressable]
  rfl

theorem segments_eq : segments ring = .ok ring.segments := by
  have cursor := valid.1
  let head := min ring.length (ring.capacity - ring.readCursor)
  have headEq : min ring.length (ring.capacity - ring.readCursor) = head := rfl
  have behind : sub ring.capacity ring.readCursor = .ok (ring.capacity - ring.readCursor) :=
    sub_of_le (Nat.le_of_lt cursor)
  have stop : add ring.readCursor head = .ok (ring.readCursor + head) :=
    add_of_le_capacity addressable (Nat.le_of_lt cursor) (by omega)
  have front : range ring.slots.toList ring.readCursor (ring.readCursor + head) =
      .ok (ring.slotRange ring.readCursor (ring.readCursor + head)) :=
    range_slots (Nat.le_add_right _ _) (by omega)
  have rest : sub ring.length head = .ok (ring.length - head) := sub_of_le (by omega)
  have back : range ring.slots.toList 0 (ring.length - head) =
      .ok (ring.slotRange 0 (ring.length - head)) :=
    range_slots (Nat.zero_le _) (by have := valid.2; omega)
  simp only [segments, bind, Except.bind, behind, headEq, stop, front, rest, back]
  rfl

theorem toList_eq : toList ring = .ok ring.toList := by
  rw [toList, segments_eq valid addressable]
  rfl

/-! ## Any operation -/

/-- No operation is stopped whose items can be counted. -/
theorem serve_eq (operation : Ring.Operation α) (counted : (ring.serve operation).2.Countable) :
    serve ring operation = .ok (ring.serve operation) := by
  cases operation with
  | enqueueOne item =>
      simp only [Ring.serve, Ring.enqueueOne_eq valid] at counted ⊢
      rw [serve, enqueueOne_eq valid addressable item counted]
      rfl
  | enqueueBulk items =>
      rcases Nat.lt_or_ge ring.capacity items.length with long | fits
      · rw [Ring.serve_enqueueBulk_of_long long, serve, enqueueBulk_of_long long]
        rfl
      · simp only [Ring.serve, Ring.enqueueBulk_eq valid fits] at counted ⊢
        rw [serve, enqueueBulk_eq valid addressable fits counted]
        rfl
  | enqueue items =>
      simp only [Ring.serve, Ring.enqueue_eq valid] at counted ⊢
      rw [serve, enqueue_eq valid addressable counted]
      rfl
  | peek target =>
      rw [serve, peek_eq valid addressable]
      rfl
  | dequeue target =>
      rw [serve, dequeue_eq valid addressable]
      rfl
  | pop =>
      rw [serve, pop?_eq valid addressable, Ring.serve]
      cases ring.pop? <;> rfl
  | skipOne =>
      rw [serve, skipOne_eq valid addressable]
      rfl
  | discard count =>
      rw [serve, discard_eq valid addressable]
      rfl
  | clear =>
      rw [serve, clear_eq valid addressable]
      rfl

end Operations

end Guarded

namespace Ring

variable {α : Type}

/-! ## What an operation leaves -/

theorem valid_serve {ring : Ring α} (valid : ring.Valid) (operation : Operation α) :
    (ring.serve operation).2.Valid := by
  obtain ⟨count, _, served⟩ := serve_eq_acceptAll valid operation
  rw [served]
  exact valid_acceptAll (valid_advance valid count) _

theorem capacity_serve {ring : Ring α} (valid : ring.Valid) (operation : Operation α) :
    (ring.serve operation).2.capacity = ring.capacity := by
  obtain ⟨count, _, served⟩ := serve_eq_acceptAll valid operation
  rw [served, capacity_acceptAll]
  rfl

theorem countable_of_serve {ring : Ring α} (valid : ring.Valid) {operation : Operation α}
    (counted : (ring.serve operation).2.Countable) : ring.Countable := by
  obtain ⟨count, _, served⟩ := serve_eq_acceptAll valid operation
  rw [served] at counted
  exact @Guarded.countable_of_append α _ (valid_advance valid count) [] _ counted

theorem countable_of_after {ring : Ring α} (valid : ring.Valid) {operations : List (Operation α)}
    (counted : (ring.after operations).Countable) : ring.Countable := by
  induction operations generalizing ring with
  | nil => exact counted
  | cons operation later inductionHypothesis =>
      exact countable_of_serve valid (inductionHypothesis (valid_serve valid operation) counted)

/-- Nothing is refused but a single pass of more items than there are slots. -/
theorem refused_serve {ring : Ring α} (valid : ring.Valid) {operation : Operation α}
    {error : RingError} (refused : (ring.serve operation).1 = .refused error) :
    ∃ items, operation = .enqueueBulk items ∧ ring.capacity < items.length ∧
      error = .chunkTooLarge items.length ring.capacity := by
  cases operation with
  | enqueueOne item =>
      simp only [serve, enqueueOne_eq valid] at refused
      cases refused
  | enqueueBulk items =>
      rcases Nat.lt_or_ge ring.capacity items.length with long | fits
      · rw [serve_enqueueBulk_of_long long] at refused
        cases refused
        exact ⟨items, rfl, long, rfl⟩
      · simp only [serve, enqueueBulk_eq valid fits] at refused
        cases refused
  | pop =>
      simp only [serve] at refused
      split at refused <;> cases refused
  | enqueue | peek | dequeue | skipOne | discard | clear => cases refused

/-- A copy is refused exactly if it would run past the last slot. -/
theorem copyFrom_refused_iff (ring : Ring α) (start : Nat) (places : List α) :
    (∃ error, ring.copyFrom start places = .error error) ↔
      ring.capacity < start + places.length := by
  rw [copyFrom]
  split
  · exact ⟨fun _ => ‹_›, fun _ => ⟨_, rfl⟩⟩
  · refine ⟨?_, fun beyond => absurd beyond ‹_›⟩
    rintro ⟨error, refused⟩
    cases refused

/-- No guard stops a sequence of operations whose items can all be counted. -/
theorem follow_guarded {ring : Ring α} (valid : ring.Valid) (addressable : ring.capacity < 2 ^ 63)
    {operations : List (Operation α)} (counted : (ring.after operations).Countable) :
    Guarded.follow ring operations = .ok (ring.replies operations, ring.after operations) := by
  induction operations generalizing ring with
  | nil => rfl
  | cons operation later inductionHypothesis =>
      have validNext := valid_serve valid operation
      have first : Guarded.serve ring operation = .ok (ring.serve operation) :=
        Guarded.serve_eq valid addressable operation (countable_of_after validNext counted)
      have rest := inductionHypothesis validNext (by rwa [capacity_serve valid]) counted
      simp only [Guarded.follow, bind, Except.bind, first, rest]
      rfl

/-- Nothing fails inside a ring: with guards at every step, its operations are
not stopped and come to the same as without. -/
structure Unfailing (ring : Ring α) : Prop where
  /-- No range, slot, difference, sum or copy of an operation is a wrong one,
  and none of its steps is refused. -/
  operations : forall operation : Operation α, (ring.serve operation).2.Countable ->
    Guarded.serve ring operation = .ok (ring.serve operation)
  free : Guarded.free ring = .ok ring.free
  writeCursor : Guarded.writeCursor ring = .ok ring.writeCursor
  isWrapped : Guarded.isWrapped ring = .ok ring.isWrapped
  segments : Guarded.segments ring = .ok ring.segments
  toList : Guarded.toList ring = .ok ring.toList
  /-- A refused copy leaves what the places hold as it is. -/
  copies : forall start (places : List α), start + places.length < UInt64.size ->
    Guarded.copyFrom ring start places =
      .ok (match ring.copyFrom start places with
        | .ok copied => (.ok (), copied)
        | .error error => (.error error, places))
  copyFrom_refused : forall start (places : List α),
    (∃ error, ring.copyFrom start places = .error error) ↔ ring.capacity < start + places.length
  /-- A single item is never refused. -/
  enqueueOne : forall item, ∃ next, ring.enqueueOne item = .ok next
  /-- The only refusal there is; in particular no eviction is refused. -/
  refused : forall operation error, (ring.serve operation).1 = .refused error ->
    ∃ items, operation = .enqueueBulk items ∧ ring.capacity < items.length ∧
      error = .chunkTooLarge items.length ring.capacity
  /-- No failure is hidden by a smaller number. -/
  accepted : forall items, (ring.enqueue items).1 = items.length
  copied : forall places, (ring.peek places).1 = min places.length ring.length
  valid : forall operation, (ring.serve operation).2.Valid ∧
    (ring.serve operation).2.capacity = ring.capacity

/-- Whatever the slots and counters of a valid ring hold, none of its
operations fails inside.  The capacity is bounded by the addresses there are,
and the counters count up to what fits 64 bits. -/
theorem internal_failures_unreachable {ring : Ring α} (valid : ring.Valid)
    (addressable : ring.capacity < 2 ^ 63) : ring.Unfailing where
  operations := fun operation => Guarded.serve_eq valid addressable operation
  free := Guarded.free_eq valid
  writeCursor := Guarded.writeCursor_eq valid addressable
  isWrapped := Guarded.isWrapped_eq valid addressable
  segments := Guarded.segments_eq valid addressable
  toList := Guarded.toList_eq valid addressable
  copies := fun _ _ => Guarded.copyFrom_eq
  copyFrom_refused := ring.copyFrom_refused_iff
  enqueueOne := fun item => ⟨_, enqueueOne_eq valid item⟩
  refused := fun _ _ => refused_serve valid
  accepted := fun items => congrArg Prod.fst (enqueue_eq valid items)
  copied := fun places => congrArg Prod.fst (peek_eq valid places)
  valid := fun operation => ⟨valid_serve valid operation, capacity_serve valid operation⟩

/-- A ring with items around its last slot takes in six more, which is twice
its capacity, and counts them up to the largest number of 64 bits. -/
theorem wrapped_ring_unfailing :
    let ring : Ring UInt8 :=
      { slots := #[2, 9, 1], readCursor := 2, length := 2
        totalEnqueued := UInt64.size - 7, totalEvicted := UInt64.size - 9 }
    ring.Valid ∧ ring.capacity < 2 ^ 63 ∧
      Guarded.serve ring (.enqueue [3, 4, 5, 6, 7, 8]) =
        .ok (.counted 6,
          { slots := #[8, 6, 7], readCursor := 1, length := 3
            totalEnqueued := UInt64.size - 1, totalEvicted := UInt64.size - 4 }) ∧
      Guarded.copyFrom ring 2 [0, 0] = .ok (.error (.outOfRange 2 2 3), [0, 0]) := by
  intro ring
  have valid : ring.Valid := by decide
  have addressable : ring.capacity < 2 ^ 63 := by decide
  have unfailing := internal_failures_unreachable valid addressable
  have accepted : ring.acceptAll [3, 4, 5, 6, 7, 8] =
      { slots := #[8, 6, 7], readCursor := 1, length := 3
        totalEnqueued := UInt64.size - 1, totalEvicted := UInt64.size - 4 } := by
    decide +kernel
  have served : ring.serve (.enqueue [3, 4, 5, 6, 7, 8]) =
      (.counted 6, ring.acceptAll [3, 4, 5, 6, 7, 8]) := by
    simp only [serve, enqueue_eq valid]
    rfl
  have counted : (ring.serve (.enqueue [3, 4, 5, 6, 7, 8])).2.Countable := by
    rw [served, accepted]
    decide
  refine ⟨valid, addressable, ?_, unfailing.copies 2 [0, 0] (by decide)⟩
  rw [unfailing.operations _ counted, served, accepted]

/-- The guards do stop a ring whose cursor lies outside its storage. -/
example :
    let ring : Ring UInt8 :=
      { slots := #[2, 9], readCursor := 3, length := 1, totalEnqueued := 1, totalEvicted := 0 }
    Guarded.serve ring .pop = .error (.place 3 2) :=
  rfl

end Ring
end TelemetryRelay
