import TelemetryRelay.Proofs.Ring.Queue

/-!
# Operations on many items

A ring takes in and gives out many items at a time or one at a time.  It makes
no difference which.  An operation on many items leaves the ring as the
repetition of the operation on one item does, and it gives out the same items.
This is an equality of rings and not only of what they buffer: the slots, those
included that buffer nothing, the read cursor, the length and both counters are
the same.

The ring may be in any valid state.  Its slots and counters may hold anything,
whether or not operations on a fresh ring could have brought them about.
-/

namespace TelemetryRelay
namespace Ring

universe u

variable {α : Type u}

/-! ## One item after the other -/

theorem served_ones {ring : Ring α} (valid : ring.Valid) (items : List α) :
    ring.after (items.map .enqueueOne) = ring.acceptAll items ∧
      ring.replies (items.map .enqueueOne) = items.map fun _ => .done := by
  induction items generalizing ring with
  | nil => exact ⟨rfl, rfl⟩
  | cons item items inductionHypothesis =>
      have first : ring.serve (.enqueueOne item) = (.done, ring.accept item) := by
        simp only [serve, enqueueOne_eq valid]
      have later := inductionHypothesis (valid_accept valid item)
      rw [List.map_cons, List.map_cons, after, replies, first]
      exact ⟨later.1, congrArg (Reply.done :: ·) later.2⟩

theorem served_pops {ring : Ring α} (valid : ring.Valid) {count : Nat}
    (buffered : count ≤ ring.length) :
    ring.after (List.replicate count .pop) = ring.advance count ∧
      ring.replies (List.replicate count .pop) =
        (ring.toList.take count).map fun item => .item (some item) := by
  induction count generalizing ring with
  | zero => exact ⟨(advance_zero valid).symm, rfl⟩
  | succ count inductionHypothesis =>
      have size := length_toList valid
      have moved : (ring.advance 1).toList = ring.toList.drop 1 := toList_advance valid (by omega)
      have left : count ≤ (ring.advance 1).length := Nat.le_sub_of_add_le buffered
      obtain ⟨state, items⟩ := inductionHypothesis (valid_advance valid 1) left
      rw [moved] at items
      cases contents : ring.toList with
      | nil =>
          rw [contents, List.length_nil] at size
          omega
      | cons item rest =>
          have first : ring.serve .pop = (.item (some item), ring.advance 1) := by
            simp only [serve, pop?_eq valid, contents, List.head?_cons, Option.map_some]
          rw [contents, List.drop_one, List.tail_cons] at items
          rw [List.replicate_succ, after, replies, first, List.take_succ_cons, List.map_cons]
          refine ⟨?_, congrArg _ items⟩
          rw [state, advance_advance, Nat.add_comm]

theorem served_skips {ring : Ring α} (valid : ring.Valid) {count : Nat}
    (buffered : count ≤ ring.length) :
    ring.after (List.replicate count .skipOne) = ring.advance count ∧
      ring.replies (List.replicate count .skipOne) = List.replicate count (.told true) := by
  induction count generalizing ring with
  | zero => exact ⟨(advance_zero valid).symm, rfl⟩
  | succ count inductionHypothesis =>
      have left : count ≤ (ring.advance 1).length := Nat.le_sub_of_add_le buffered
      have later := inductionHypothesis (valid_advance valid 1) left
      have some : ring.isEmpty = false := beq_false_of_ne (by omega)
      have first : ring.serve .skipOne = (.told true, ring.advance 1) := by
        simp only [serve, skipOne, some, Bool.false_eq_true, if_false]
      rw [List.replicate_succ, List.replicate_succ, after, replies, first]
      refine ⟨?_, congrArg _ later.2⟩
      rw [later.1, advance_advance, Nat.add_comm]

/-! ## Many items at a time -/

theorem serve_dequeue {ring : Ring α} (valid : ring.Valid) (target : List α) :
    ring.serve (.dequeue target) =
      (.copied (min target.length ring.length)
          (ring.toList.take (min target.length ring.length) ++
            target.drop (min target.length ring.length)),
        ring.advance (min target.length ring.length)) := by
  simp only [serve, dequeue_eq valid]

/-- Each operation on many items comes to the repetition of the operation on
one item, or to two others. -/
structure Repeats (ring : Ring α) : Prop where
  enqueue : forall items : List α,
    ring.after [.enqueue items] = ring.after (items.map .enqueueOne) ∧
      ring.replies [.enqueue items] = [.counted items.length] ∧
      ring.replies (items.map .enqueueOne) = items.map fun _ => .done
  enqueueBulk : forall items : List α, items.length ≤ ring.capacity ->
    ring.after [.enqueueBulk items] = ring.after (items.map .enqueueOne) ∧
      ring.replies [.enqueueBulk items] = [.done]
  /-- Taking items out is looking at them and dropping them. -/
  dequeue_peek : forall target : List α,
    ring.after [.dequeue target] = ring.after [.peek target, .discard target.length] ∧
      ring.replies [.peek target, .discard target.length] =
        ring.replies [.dequeue target] ++ [.counted (min target.length ring.length)]
  /-- The items that are replied one by one are those that are copied to the
  front of the places. -/
  dequeue_pops : forall target : List α,
    ring.after [.dequeue target] =
        ring.after (List.replicate (min target.length ring.length) .pop) ∧
      ∃ items : List α, items.length = min target.length ring.length ∧
        ring.replies (List.replicate (min target.length ring.length) .pop) =
          items.map (fun item => .item (some item)) ∧
        ring.replies [.dequeue target] =
          [.copied items.length (items ++ target.drop items.length)]
  discard : forall count : Nat,
    ring.after [.discard count] = ring.after (List.replicate (min count ring.length) .skipOne) ∧
      ring.replies [.discard count] = [.counted (min count ring.length)] ∧
      ring.replies (List.replicate (min count ring.length) .skipOne) =
        List.replicate (min count ring.length) (.told true)
  clear : ring.after [.clear] = ring.after [.discard ring.length]

/-- Whatever a valid ring holds and has counted, operations on many items leave
it in the state that repeated operations on one item do. -/
theorem bulk_eq_repetition {ring : Ring α} (valid : ring.Valid) : ring.Repeats where
  enqueue := by
    intro items
    have ones := served_ones valid items
    have whole : ring.serve (.enqueue items) = (.counted items.length, ring.acceptAll items) := by
      simp only [serve, enqueue_eq valid]
    refine ⟨(congrArg Prod.snd whole).trans ones.1.symm, ?_, ones.2⟩
    rw [replies, whole, replies]
  enqueueBulk := by
    intro items fits
    have whole : ring.serve (.enqueueBulk items) = (.done, ring.acceptAll items) := by
      simp only [serve, enqueueBulk_eq valid fits]
    refine ⟨(congrArg Prod.snd whole).trans (served_ones valid items).1.symm, ?_⟩
    rw [replies, whole, replies]
  dequeue_peek := by
    intro target
    refine ⟨(congrArg Prod.snd (serve_dequeue valid target)).trans rfl, ?_⟩
    simp only [replies, serve_dequeue valid, List.singleton_append]
    simp only [serve, peek_eq valid, Ring.discard]
  dequeue_pops := by
    intro target
    have buffered := Nat.min_le_right target.length ring.length
    have pops := served_pops valid buffered
    have size : (ring.toList.take (min target.length ring.length)).length =
        min target.length ring.length := by
      rw [List.length_take, length_toList valid, Nat.min_eq_left buffered]
    refine ⟨(congrArg Prod.snd (serve_dequeue valid target)).trans pops.1.symm, _, size, pops.2, ?_⟩
    rw [replies, serve_dequeue valid, replies, size]
  discard := by
    intro count
    have skips := served_skips valid (Nat.min_le_right count ring.length)
    exact ⟨skips.1.symm, rfl, skips.2⟩
  clear := by
    simp only [after, serve, Ring.discard, Nat.min_self, clear_eq_advance]

/-- A ring whose buffered items lie around the end of the storage, with a stale
slot and counters of its own: six items go around it twice, and three places
get both of its items. -/
theorem bulk_eq_repetition_of_wrapped_ring :
    let ring : Ring UInt8 :=
      { slots := #[2, 9, 1], readCursor := 2, length := 2, totalEnqueued := 7, totalEvicted := 4 }
    ring.Valid ∧
      ring.after [.enqueue [3, 4, 5, 6, 7, 8]] =
        ring.after [.enqueueOne 3, .enqueueOne 4, .enqueueOne 5, .enqueueOne 6, .enqueueOne 7,
          .enqueueOne 8] ∧
      (ring.after [.enqueue [3, 4, 5, 6, 7, 8]]).totalEvicted = 9 ∧
      ring.after [.dequeue [0, 0, 0]] = ring.after [.pop, .pop] ∧
      ring.replies [.pop, .pop] = [.item (some 1), .item (some 2)] := by
  intro ring
  have valid : ring.Valid := by decide
  have repeats := bulk_eq_repetition valid
  have contents : ring.toList.take 2 = [1, 2] := by decide +kernel
  have pops := (served_pops valid (Nat.le_refl 2)).2
  rw [contents] at pops
  exact ⟨valid, (repeats.enqueue [3, 4, 5, 6, 7, 8]).1, by decide +kernel,
    (repeats.dequeue_pops [0, 0, 0]).1, pops⟩

end Ring
end TelemetryRelay
