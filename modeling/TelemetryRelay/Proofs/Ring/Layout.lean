import TelemetryRelay.Proofs.Ring.Queue

/-!
# Where the items of a ring lie

The storage of a ring has no history of its own.  The item with the number
`index` goes to the slot `index % capacity`, whatever was taken out of the
ring before it came, and it stays there until the item that comes `capacity`
later takes its place.  Taking items out moves the read cursor only.  The
accepted items alone therefore say what every slot holds, those included that
buffer nothing, and together with the number of buffered items they say where
both cursors stand.

`Holds` states what a slot holds without reference to any ring.  `Follows`
relates a ring to the items that it accepted; an operation drops some of the
buffered items and then accepts some, and both keep the relation.
-/

namespace TelemetryRelay
namespace Ring

universe u

variable {α : Type u}

/-- The items that a ring of the given capacity accepts at an operation. -/
def Operation.accepted (capacity : Nat) : Operation α -> List α
  | enqueueOne item => [item]
  | enqueueBulk items => if capacity < items.length then [] else items
  | enqueue items => items
  | peek _ | dequeue _ | pop | skipOne | discard _ | clear => []

def acceptedItems (capacity : Nat) (operations : List (Operation α)) : List α :=
  operations.flatMap (Operation.accepted capacity)

/-- What a slot holds after the given items were accepted: the last of them
that went there, or the default item if none did. -/
inductive Holds [Inhabited α] (capacity : Nat) (items : List α) (slot : Nat) : α -> Prop where
  | untouched (never : forall index, index < items.length -> index % capacity ≠ slot) :
      Holds capacity items slot default
  | written {index : Nat} {item : α} (found : items[index]? = some item)
      (here : index % capacity = slot)
      (last : forall later, index < later -> later < items.length -> later % capacity ≠ slot) :
      Holds capacity items slot item

namespace Holds

variable [Inhabited α] {capacity slot : Nat} {items : List α}

theorem unique {first second : α} (holds : Holds capacity items slot first)
    (other : Holds capacity items slot second) : first = second := by
  cases holds with
  | untouched never =>
      cases other with
      | untouched _ => rfl
      | written found here _ =>
          exact absurd here (never _ (List.getElem?_eq_some_iff.1 found).1)
  | @written index _ found here last =>
      have inside := (List.getElem?_eq_some_iff.1 found).1
      cases other with
      | untouched never => exact absurd here (never _ inside)
      | @written otherIndex _ otherFound otherHere otherLast =>
          have otherInside := (List.getElem?_eq_some_iff.1 otherFound).1
          rcases Nat.lt_trichotomy index otherIndex with before | same | behind
          · exact absurd otherHere (last _ before otherInside)
          · rw [same, otherFound] at found
            exact Option.some.inj found.symm
          · exact absurd here (otherLast _ behind inside)

theorem newest (capacity : Nat) (items : List α) (item : α) :
    Holds capacity (items ++ [item]) (items.length % capacity) item := by
  have found : (items ++ [item])[items.length]? = some item := by
    rw [List.getElem?_append_right (Nat.le_refl _), Nat.sub_self]
    rfl
  refine .written found rfl ?_
  intro later behind inside
  rw [List.length_append, List.length_singleton] at inside
  omega

theorem elsewhere {old : α} (holds : Holds capacity items slot old) (item : α)
    (different : slot ≠ items.length % capacity) :
    Holds capacity (items ++ [item]) slot old := by
  have size : (items ++ [item]).length = items.length + 1 := by
    rw [List.length_append, List.length_singleton]
  cases holds with
  | untouched never =>
      refine .untouched ?_
      intro index inside
      rcases Nat.lt_succ_iff_lt_or_eq.1 (size ▸ inside) with before | same
      · exact never index before
      · exact same ▸ Ne.symm different
  | @written index _ found here last =>
      have within := (List.getElem?_eq_some_iff.1 found).1
      have still : (items ++ [item])[index]? = some old := by
        rw [List.getElem?_append_left within]
        exact found
      refine .written still here ?_
      intro later behind inside
      rcases Nat.lt_succ_iff_lt_or_eq.1 (size ▸ inside) with before | same
      · exact last later behind before
      · exact same ▸ Ne.symm different

end Holds

/-! ## One operation -/

/-- Every operation comes to dropping some buffered items and accepting the
items it brings. -/
theorem serve_eq_acceptAll {ring : Ring α} (valid : ring.Valid) (operation : Operation α) :
    ∃ count, count ≤ ring.length ∧
      (ring.serve operation).2 =
        (ring.advance count).acceptAll (operation.accepted ring.capacity) := by
  have unmoved := (advance_zero valid).symm
  cases operation with
  | enqueueOne item =>
      refine ⟨0, Nat.zero_le _, ?_⟩
      rw [← unmoved]
      simp only [serve, enqueueOne_eq valid]
      rfl
  | enqueueBulk items =>
      refine ⟨0, Nat.zero_le _, ?_⟩
      rw [← unmoved, Operation.accepted]
      rcases Nat.lt_or_ge ring.capacity items.length with long | fits
      · rw [serve_enqueueBulk_of_long long, if_pos long, acceptAll_nil]
      · rw [if_neg (Nat.not_lt.2 fits)]
        simp only [serve, enqueueBulk_eq valid fits]
  | enqueue items =>
      refine ⟨0, Nat.zero_le _, ?_⟩
      rw [← unmoved]
      simp only [serve, enqueue_eq valid]
      rfl
  | peek target => exact ⟨0, Nat.zero_le _, unmoved⟩
  | dequeue target =>
      refine ⟨min target.length ring.length, Nat.min_le_right _ _, ?_⟩
      simp only [serve, dequeue_eq valid]
      rfl
  | pop =>
      have size := length_toList valid
      simp only [serve, pop?_eq valid]
      cases contents : ring.toList with
      | nil => exact ⟨0, Nat.zero_le _, unmoved⟩
      | cons item rest =>
          rw [contents, List.length_cons] at size
          exact ⟨1, by omega, rfl⟩
  | skipOne =>
      rw [serve, skipOne, isEmpty]
      by_cases empty : ring.length = 0
      · exact ⟨0, Nat.zero_le _, by rw [empty]; exact unmoved⟩
      · exact ⟨1, Nat.pos_of_ne_zero empty, by rw [beq_false_of_ne empty]; rfl⟩
  | discard count => exact ⟨min count ring.length, Nat.min_le_right _ _, rfl⟩
  | clear => exact ⟨ring.length, Nat.le_refl _, clear_eq_advance ring⟩

/-- The ring is what accepting the given items, and dropping others in
between, makes of a fresh ring. -/
structure Follows [Inhabited α] (ring : Ring α) (items : List α) : Prop where
  valid : ring.Valid
  accepted : ring.totalEnqueued = items.length
  length_le : ring.length ≤ items.length
  cursor : ring.readCursor = (items.length - ring.length) % ring.capacity
  contents : ring.toList = items.drop (items.length - ring.length)
  slots : forall slot item, ring.slots[slot]? = some item -> Holds ring.capacity items slot item

namespace Follows

variable [Inhabited α] {ring : Ring α} {items : List α}

theorem blank {capacity : Nat} (positive : 0 < capacity) :
    (Ring.blank capacity : Ring α).Follows [] where
  valid := valid_blank positive
  accepted := rfl
  length_le := Nat.le_refl 0
  cursor := (Nat.zero_mod _).symm
  contents := toList_blank positive
  slots := by
    intro slot item found
    rcases Array.getElem?_eq_some_iff.1 found with ⟨inside, same⟩
    have isDefault : item = default := by
      rw [← same]
      exact Array.getElem_replicate inside
    rw [isDefault]
    exact .untouched fun index impossible => absurd impossible (Nat.not_lt_zero index)

theorem writeCursor_eq (follows : ring.Follows items) :
    ring.writeCursor = items.length % ring.capacity := by
  rw [writeCursor, follows.cursor, Nat.mod_add_mod, Nat.sub_add_cancel follows.length_le]

theorem advance (follows : ring.Follows items) {count : Nat} (buffered : count ≤ ring.length) :
    (ring.advance count).Follows items := by
  have within := follows.length_le
  have moved : items.length - (ring.length - count) = items.length - ring.length + count := by
    omega
  exact {
    valid := valid_advance follows.valid count
    accepted := follows.accepted
    length_le := Nat.le_trans (Nat.sub_le _ _) within
    cursor := by
      change (ring.readCursor + count) % ring.capacity =
        (items.length - (ring.length - count)) % ring.capacity
      rw [moved, follows.cursor, Nat.mod_add_mod]
    contents := by
      rw [toList_advance follows.valid buffered, follows.contents, List.drop_drop]
      exact congrArg (items.drop ·) moved.symm
    slots := follows.slots }

theorem place (follows : ring.Follows items) (room : ring.length < ring.capacity) (item : α) :
    (ring.place item).Follows (items ++ [item]) := by
  have size : (items ++ [item]).length = items.length + 1 := by
    rw [List.length_append, List.length_singleton]
  have behind : (items ++ [item]).length - (ring.length + 1) = items.length - ring.length := by
    rw [size, Nat.add_sub_add_right]
  exact {
    valid := valid_place follows.valid room item
    accepted := by
      rw [size]
      exact congrArg (· + 1) follows.accepted
    length_le := by
      rw [size]
      exact Nat.succ_le_succ follows.length_le
    cursor := by
      change ring.readCursor = ((items ++ [item]).length - (ring.length + 1)) % _
      rw [behind, capacity_place]
      exact follows.cursor
    contents := by
      change _ = (items ++ [item]).drop ((items ++ [item]).length - (ring.length + 1))
      rw [toList_place follows.valid room, follows.contents, behind,
        List.drop_append_of_le_length (Nat.sub_le _ _)]
    slots := by
      intro slot held found
      rw [capacity_place]
      change (ring.slots.setIfInBounds ring.writeCursor item)[slot]? = some held at found
      rw [follows.writeCursor_eq, Array.getElem?_setIfInBounds] at found
      -- Only the slot at the write cursor changes.
      split at found
      · rename_i here
        split at found
        · cases found
          exact here ▸ .newest ring.capacity items item
        · cases found
      · rename_i different
        exact (follows.slots slot held found).elsewhere item (Ne.symm different) }

theorem accept (follows : ring.Follows items) (item : α) :
    (ring.accept item).Follows (items ++ [item]) := by
  have positive := follows.valid.capacity_positive
  have moved := follows.advance (shortfall_le_length follows.valid positive)
  have roomy : (ring.makeRoom 1).Follows items :=
    ⟨moved.valid, moved.accepted, moved.length_le, moved.cursor, moved.contents, moved.slots⟩
  exact roomy.place (length_makeRoom follows.valid positive) item

theorem acceptAll (follows : ring.Follows items) (more : List α) :
    (ring.acceptAll more).Follows (items ++ more) := by
  induction more generalizing ring items with
  | nil =>
      rw [List.append_nil]
      exact follows
  | cons item more inductionHypothesis =>
      rw [List.append_cons]
      exact inductionHypothesis (follows.accept item)

theorem serve (follows : ring.Follows items) (operation : Operation α) :
    (ring.serve operation).2.Follows (items ++ operation.accepted ring.capacity) := by
  rcases serve_eq_acceptAll follows.valid operation with ⟨count, buffered, served⟩
  rw [served]
  exact (follows.advance buffered).acceptAll _

theorem capacity_serve (follows : ring.Follows items) (operation : Operation α) :
    (ring.serve operation).2.capacity = ring.capacity := by
  rcases serve_eq_acceptAll follows.valid operation with ⟨count, _, served⟩
  rw [served, capacity_acceptAll]
  rfl

/-- After any operations the capacity is the same, and the accepted items are
all that has to be known. -/
theorem after (follows : ring.Follows items) (operations : List (Operation α)) :
    (ring.after operations).capacity = ring.capacity ∧
      (ring.after operations).Follows (items ++ acceptedItems ring.capacity operations) := by
  induction operations generalizing ring items with
  | nil =>
      refine ⟨rfl, ?_⟩
      rw [acceptedItems, List.flatMap_nil, List.append_nil]
      exact follows
  | cons operation later inductionHypothesis =>
      have size := follows.capacity_serve operation
      rcases inductionHypothesis (follows.serve operation) with ⟨sameSize, rest⟩
      rw [size] at sameSize rest
      rw [acceptedItems, List.flatMap_cons, ← List.append_assoc]
      exact ⟨sameSize, rest⟩

end Follows

/-! ## The layout -/

/-- How the storage of a ring that accepted the given items is laid out. -/
structure Layout [Inhabited α] (capacity : Nat) (items : List α) (ring : Ring α) : Prop where
  capacity_eq : ring.capacity = capacity
  accepted : ring.totalEnqueued = items.length
  length_le : ring.length ≤ items.length
  /-- Any part of the storage can be copied, and shows what its slots hold. -/
  copied : forall start target, start + target.length ≤ capacity ->
    ∃ copied, ring.copyFrom start target = .ok copied ∧ copied.length = target.length ∧
      forall index item, copied[index]? = some item -> Holds capacity items (start + index) item
  writeCursor : ring.writeCursor = items.length % capacity
  readCursor : ring.readCursor = (items.length - ring.length) % capacity
  wrapped : ring.isWrapped = true ↔ 0 < ring.length ∧ ring.writeCursor ≤ ring.readCursor
  /-- The first run begins at the read cursor and stops at the last slot. -/
  front : ring.segments.1 = (ring.slots.toList.drop ring.readCursor).take ring.length
  /-- The second run is what is left, from the first slot on. -/
  back : ring.segments.2 = ring.slots.toList.take (ring.readCursor + ring.length - capacity)
  /-- Both runs together are the newest items. -/
  contents : ring.segments.1 ++ ring.segments.2 = items.drop (items.length - ring.length)
  crosses : ring.segments.2 ≠ [] ↔ capacity < ring.readCursor + ring.length

/-- A buffered span that reaches the last slot leaves the write cursor at or
before the read cursor. -/
theorem isWrapped_iff {ring : Ring α} (valid : ring.Valid) :
    ring.isWrapped = true ↔ 0 < ring.length ∧ ring.writeCursor ≤ ring.readCursor := by
  rcases valid with ⟨inside, room⟩
  rw [isWrapped, Bool.and_eq_true, decide_eq_true_iff, decide_eq_true_iff, writeCursor]
  rcases Nat.lt_or_ge (ring.readCursor + ring.length) ring.capacity with short | long
  · rw [Nat.mod_eq_of_lt short]
    omega
  · rw [Nat.mod_eq_sub_mod long, Nat.mod_eq_of_lt (by omega)]
    omega

theorem segments_fst (ring : Ring α) :
    ring.segments.1 = (ring.slots.toList.drop ring.readCursor).take ring.length := by
  simp only [segments, slotRange, Array.toList_extract, List.extract_eq_take_drop,
    Nat.add_sub_cancel_left]
  rw [List.take_eq_take_iff, List.length_drop, length_slots]
  omega

theorem segments_snd {ring : Ring α} (valid : ring.Valid) :
    ring.segments.2 =
      ring.slots.toList.take (ring.readCursor + ring.length - ring.capacity) := by
  have inside := valid.1
  have rest : ring.length - min ring.length (ring.capacity - ring.readCursor) =
      ring.readCursor + ring.length - ring.capacity := by omega
  simp only [segments, slotRange, Array.toList_extract, List.extract_eq_take_drop, List.drop_zero,
    Nat.sub_zero, rest]

theorem segments_snd_ne_nil_iff {ring : Ring α} (valid : ring.Valid) :
    ring.segments.2 ≠ [] ↔ ring.capacity < ring.readCursor + ring.length := by
  have positive := valid.capacity_positive
  rw [segments_snd valid, ← List.length_pos_iff, List.length_take, length_slots]
  omega

theorem Follows.copyFrom [Inhabited α] {ring : Ring α} {items : List α}
    (follows : ring.Follows items) {start : Nat} {target : List α}
    (fits : start + target.length ≤ ring.capacity) :
    ∃ copied, ring.copyFrom start target = .ok copied ∧ copied.length = target.length ∧
      forall index item, copied[index]? = some item ->
        Holds ring.capacity items (start + index) item := by
  have copies := copyFrom_eq fits
  refine ⟨_, copies, length_copyFrom copies, ?_⟩
  intro index item found
  refine follows.slots _ item ?_
  simp only [slotRange, Array.toList_extract, List.extract_eq_take_drop] at found
  rw [List.getElem?_take] at found
  split at found
  · rw [List.getElem?_drop, Array.getElem?_toList] at found
    exact found
  · cases found

theorem Follows.layout [Inhabited α] {ring : Ring α} {items : List α}
    (follows : ring.Follows items) {capacity : Nat} (size : ring.capacity = capacity) :
    Layout capacity items ring := by
  subst size
  exact {
    capacity_eq := rfl
    accepted := follows.accepted
    length_le := follows.length_le
    copied := fun _ _ fits => follows.copyFrom fits
    writeCursor := follows.writeCursor_eq
    readCursor := follows.cursor
    wrapped := isWrapped_iff follows.valid
    front := segments_fst ring
    back := segments_snd follows.valid
    contents := follows.contents
    crosses := segments_snd_ne_nil_iff follows.valid }

/-- Rings of one capacity that accepted the same items have the same slots. -/
theorem Follows.slots_eq [Inhabited α] {first second : Ring α} {items : List α}
    (follows : first.Follows items) (other : second.Follows items)
    (size : first.capacity = second.capacity) : first.slots = second.slots := by
  refine Array.ext size ?_
  intro slot inFirst inSecond
  have held := follows.slots slot _ (Array.getElem?_eq_getElem inFirst)
  rw [size] at held
  exact held.unique (other.slots slot _ (Array.getElem?_eq_getElem inSecond))

/-- After any sequence of operations on a fresh ring, the accepted items say
how its storage is laid out.  Operations that accept nothing, refused ones
among them, leave no trace in the slots: with the same accepted items the
slots are the same, whatever else was done in between. -/
theorem layout_after [Inhabited α] {capacity : Nat} (positive : 0 < capacity) :
    ∃ ring : Ring α, create capacity = .ok ring ∧
      (forall storage : Array α, storage.size = capacity -> ofStorage storage = .ok ring) ∧
      forall operations : List (Operation α),
        Layout capacity (acceptedItems capacity operations) (ring.after operations) ∧
          forall others : List (Operation α),
            acceptedItems capacity others = acceptedItems capacity operations ->
              (ring.after others).slots = (ring.after operations).slots := by
  refine ⟨blank capacity, if_neg (Nat.ne_of_gt positive), ?_, ?_⟩
  · intro storage size
    rw [ofStorage, size, if_neg (Nat.ne_of_gt positive)]
  · intro operations
    rcases (Follows.blank (α := α) positive).after operations with ⟨size, follows⟩
    rw [capacity_blank, List.nil_append] at follows
    rw [capacity_blank] at size
    refine ⟨follows.layout size, ?_⟩
    intro others same
    rcases (Follows.blank (α := α) positive).after others with ⟨otherSize, otherFollows⟩
    rw [capacity_blank, List.nil_append, same] at otherFollows
    rw [capacity_blank] at otherSize
    exact otherFollows.slots_eq follows (otherSize.trans size.symm)

/-- Three slots and four items, two of them taken out in between. -/
theorem layout_of_three_slots :
    0 < 3 ∧ ∃ ring : Ring UInt8, create 3 = .ok ring ∧
      Layout 3 [1, 2, 3, 4]
        (ring.after [.enqueue [1, 2], .enqueueBulk [5, 6, 7, 8], .pop, .enqueue [3, 4], .skipOne]) ∧
      (ring.after [.enqueue [1, 2, 3], .enqueueOne 4]).slots = #[4, 2, 3] := by
  rcases @layout_after UInt8 _ 3 (by decide) with ⟨ring, made, _, laid⟩
  rcases laid [.enqueue [1, 2], .enqueueBulk [5, 6, 7, 8], .pop, .enqueue [3, 4], .skipOne] with
    ⟨layout, only⟩
  have same := only [.enqueue [1, 2, 3], .enqueueOne 4] rfl
  cases made
  refine ⟨by decide, _, rfl, layout, same.trans ?_⟩
  decide

end Ring
end TelemetryRelay
