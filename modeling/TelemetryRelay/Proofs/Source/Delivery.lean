import TelemetryRelay.Source

/-!
# What a source delivers

A source delivers the bytes of its script from the front and counts them, and
what is written back to it is kept beside.  `Yields` relates a source to what it
is later by the bytes that it delivered in between and by what was written.  It
holds of a single delivery and composes, so that it holds of whatever is made of
deliveries.

A source that has reported its end answers every request by the same refusal,
and no other source refuses.
-/

namespace TelemetryRelay

/-- The source delivered the given bytes and became another one.  What was
written back is the given echo. -/
structure Source.Yields (source : Source) (bytes echoed : List UInt8) (next : Source) : Prop where
  /-- The delivered bytes were in front of those that are still to come. -/
  chunks : bytes ++ next.chunks.flatten = source.chunks.flatten
  bytesRead : next.bytesRead = source.bytesRead + bytes.length
  written : next.written = source.written ++ echoed

namespace Source

theorem Yields.refl (source : Source) : source.Yields [] [] source :=
  ⟨rfl, rfl, (List.append_nil _).symm⟩

theorem Yields.trans {source between next : Source} {first second echoed more : List UInt8}
    (yields : source.Yields first echoed between) (later : between.Yields second more next) :
    source.Yields (first ++ second) (echoed ++ more) next where
  chunks := by rw [List.append_assoc, later.chunks, yields.chunks]
  bytesRead := by rw [later.bytesRead, yields.bytesRead, List.length_append, Nat.add_assoc]
  written := by rw [later.written, yields.written, List.append_assoc]

/-- A delivery takes its bytes from the front of the script.  An empty chunk,
which ends the stream, has none. -/
theorem yields_deliver (source : Source) (size : Nat) :
    source.Yields (source.deliver size).bytes [] (source.deliver size).source := by
  unfold deliver
  split
  · exact ⟨rfl, rfl, (List.append_nil _).symm⟩
  · rename_i chunk later chunksEq
    have split : chunk.take size ++
        (if size < chunk.length then chunk.drop size :: later else later).flatten =
          source.chunks.flatten := by
      rw [chunksEq, List.flatten_cons]
      split
      · rw [List.flatten_cons, ← List.append_assoc, List.take_append_drop]
      · rename_i whole
        rw [List.take_of_length_le (Nat.le_of_not_lt whole)]
    simp only
    split
    · rename_i nothing
      rw [nothing] at split
      exact ⟨split, rfl, (List.append_nil _).symm⟩
    · exact ⟨split, rfl, (List.append_nil _).symm⟩

theorem yields_poll_finished {source next : Source} {now size : Nat} {bytes : List UInt8}
    {journal : List Entry} (answers : source.poll now size = .finished bytes next journal) :
    source.Yields bytes [] next := by
  unfold poll at answers
  split at answers
  · cases answers
  · split at answers
    · cases answers
      exact .refl source
    · split at answers
      · split at answers
        · cases answers
        · cases answers
          exact source.yields_deliver size
      · cases answers
        exact source.yields_deliver size

/-- Only a source that has reported its end refuses to be asked. -/
theorem closed_of_poll_refused {source : Source} {now size : Nat} {error : SourceError}
    (refuses : source.poll now size = .refused error) : source.closed = true := by
  unfold poll at refuses
  split at refuses
  · assumption
  · split at refuses
    · cases refuses
    · split at refuses
      · split at refuses <;> cases refuses
      · cases refuses

theorem poll_of_closed {source : Source} (closed : source.closed = true) (now size : Nat) :
    source.poll now size = .refused .closed := by
  rw [poll, if_pos closed]

theorem closed_deliver (source : Source) (size : Nat) (bytes : (source.deliver size).bytes ≠ []) :
    (source.deliver size).source.closed = source.closed := by
  unfold deliver at bytes ⊢
  split at bytes
  · exact absurd rfl bytes
  · simp only at bytes ⊢
    split at bytes
    · exact absurd rfl bytes
    · rename_i nonempty
      rw [if_neg nonempty]

theorem closed_deliver_nothing {source : Source} {size : Nat}
    (nothing : (source.deliver size).bytes = []) : (source.deliver size).source.closed = true := by
  unfold deliver at nothing ⊢
  split at nothing
  · rfl
  · simp only at nothing ⊢
    split at nothing
    · rename_i empty
      rw [if_pos empty]
      rfl
    · rename_i nonempty
      exact absurd nothing nonempty

theorem closed_poll_nothing {source next : Source} {now size : Nat} {journal : List Entry}
    (room : 0 < size) (answers : source.poll now size = .finished [] next journal) :
    next.closed = true := by
  unfold poll at answers
  split at answers
  · cases answers
  · rw [if_neg (Nat.ne_of_gt room)] at answers
    split at answers
    · split at answers
      · cases answers
      · simp only [Poll.finished.injEq] at answers
        exact answers.2.1 ▸ closed_deliver_nothing answers.1
    · simp only [Poll.finished.injEq] at answers
      exact answers.2.1 ▸ closed_deliver_nothing answers.1

/-! ## Polls of an open source -/

theorem poll_at_once {source : Source} (isOpen : source.closed = false) {now size : Nat}
    (noDelivery : source.deliveryTime? now = none) (positive : 0 < size) :
    source.poll now size =
      .finished (source.deliver size).bytes (source.deliver size).source
        [(source.deliver size).entry] := by
  rw [poll, isOpen, if_neg Bool.false_ne_true, if_neg (Nat.ne_of_gt positive), noDelivery]

theorem poll_early {source : Source} (isOpen : source.closed = false) {now size due : Nat}
    (room : 0 < size) (fixed : source.deliveryTime? now = some due) (early : now < due) :
    source.poll now size = .waiting due { source with deadline := some due } := by
  rw [poll, isOpen, if_neg Bool.false_ne_true, if_neg (Nat.ne_of_gt room), fixed]
  exact if_pos early

theorem poll_due {source : Source} (isOpen : source.closed = false) {now size due : Nat}
    (room : 0 < size) (fixed : source.deliveryTime? now = some due) (arrived : due ≤ now) :
    source.poll now size =
      .finished (source.deliver size).bytes (source.deliver size).source
        [(source.deliver size).entry] := by
  rw [poll, isOpen, if_neg Bool.false_ne_true, if_neg (Nat.ne_of_gt room), fixed]
  exact if_neg (Nat.not_lt.2 arrived)

end Source

end TelemetryRelay
