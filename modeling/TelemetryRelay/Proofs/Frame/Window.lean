import TelemetryRelay.Frame.Window

/-!
# The last braces of a window

`LastAt` says where a byte occurs for the last time without saying how to find
the place.  The search finds exactly these places, so that everything a window
is judged by can be stated without the search.  A window that is judged to
begin with a frame does begin with one.
-/

namespace TelemetryRelay
namespace Window

/-- The byte stands at the index and nowhere behind it. -/
def LastAt (wanted : UInt8) (window : List UInt8) (index : Nat) : Prop :=
  window[index]? = some wanted ∧
    forall later, index < later -> window[later]? ≠ some wanted

namespace LastAt

variable {wanted : UInt8} {window : List UInt8} {index : Nat}

theorem lt_length (last : LastAt wanted window index) : index < window.length := by
  rcases List.getElem?_eq_some_iff.1 last.1 with ⟨inside, _⟩
  exact inside

theorem mem (last : LastAt wanted window index) : wanted ∈ window :=
  List.mem_of_getElem? last.1

theorem unique (last : LastAt wanted window index) {other : Nat}
    (otherLast : LastAt wanted window other) : index = other := by
  rcases Nat.lt_trichotomy index other with before | same | behind
  · exact absurd otherLast.1 (last.2 other before)
  · exact same
  · exact absurd last.1 (otherLast.2 index behind)

/-- A byte in front does not matter to a place further back. -/
theorem cons (last : LastAt wanted window index) (byte : UInt8) :
    LastAt wanted (byte :: window) (index + 1) := by
  constructor
  · rw [List.getElem?_cons_succ]
    exact last.1
  · intro later behind
    cases later with
    | zero => omega
    | succ later =>
        rw [List.getElem?_cons_succ]
        exact last.2 later (by omega)

/-- What stands in front of the last occurrence of a byte does not matter. -/
theorem of_append (front : List UInt8) {behind : List UInt8} (absent : wanted ∉ behind) :
    LastAt wanted (front ++ wanted :: behind) front.length := by
  constructor
  · rw [List.getElem?_append_right (Nat.le_refl _), Nat.sub_self, List.getElem?_cons_zero]
  · intro later further found
    rw [List.getElem?_append_right (Nat.le_of_lt further),
      ← Nat.succ_pred_eq_of_pos (Nat.sub_pos_of_lt further), List.getElem?_cons_succ] at found
    exact absent (List.mem_of_getElem? found)

end LastAt

theorem lastIndex?_eq_none_iff {wanted : UInt8} {window : List UInt8} :
    lastIndex? wanted window = none ↔ wanted ∉ window := by
  induction window with
  | nil => exact ⟨fun _ => List.not_mem_nil, fun _ => rfl⟩
  | cons byte rest inductionHypothesis =>
      rw [List.mem_cons, not_or, lastIndex?]
      cases found : lastIndex? wanted rest with
      | some index =>
          constructor
          · intro impossible
            cases impossible
          · rintro ⟨_, absent⟩
            rw [← inductionHypothesis, found] at absent
            cases absent
      | none =>
          have absent := inductionHypothesis.1 found
          by_cases same : byte = wanted
          · rw [if_pos same]
            constructor
            · intro impossible
              cases impossible
            · rintro ⟨different, _⟩
              exact absurd same.symm different
          · rw [if_neg same]
            exact ⟨fun _ => ⟨Ne.symm same, absent⟩, fun _ => rfl⟩

theorem lastAt_of_lastIndex? {wanted : UInt8} {window : List UInt8} {index : Nat}
    (found : lastIndex? wanted window = some index) : LastAt wanted window index := by
  induction window generalizing index with
  | nil => cases found
  | cons byte rest inductionHypothesis =>
      rw [lastIndex?] at found
      cases inRest : lastIndex? wanted rest with
      | some place =>
          rw [inRest] at found
          cases found
          exact (inductionHypothesis inRest).cons byte
      | none =>
          rw [inRest] at found
          have absent := lastIndex?_eq_none_iff.1 inRest
          by_cases same : byte = wanted
          · simp only [if_pos same, Option.some.injEq] at found
            subst found
            refine ⟨by rw [List.getElem?_cons_zero, same], ?_⟩
            intro later behind present
            cases later with
            | zero => omega
            | succ later => exact absent (List.mem_of_getElem? present)
          · simp only [if_neg same] at found
            cases found

theorem lastIndex?_eq_some_iff {wanted : UInt8} {window : List UInt8} {index : Nat} :
    lastIndex? wanted window = some index ↔ LastAt wanted window index := by
  constructor
  · exact lastAt_of_lastIndex?
  · intro last
    cases found : lastIndex? wanted window with
    | none => exact absurd last.mem (lastIndex?_eq_none_iff.1 found)
    | some place => rw [(lastAt_of_lastIndex? found).unique last]

/-! ## The bytes between the braces -/

/-- Bytes that begin with a frame start, contain no other, and end with a
frame end.  Frame ends may stand anywhere in between. -/
structure IsFrame (bytes : List UInt8) : Prop where
  two_le_length : 2 ≤ bytes.length
  begins : bytes.head? = some frameStart
  begins_once : frameStart ∉ bytes.tail
  ends : bytes.getLast? = some frameEnd

/-- If the last frame start of a window is in front, the window through its
last frame end is a frame. -/
theorem isFrame_take {window : List UInt8} {stop : Nat} (ends : LastAt frameEnd window stop)
    (begins : LastAt frameStart window 0) : IsFrame (window.take (stop + 1)) := by
  have inside := ends.lt_length
  have size : (window.take (stop + 1)).length = stop + 1 := by
    rw [List.length_take]
    omega
  have different : stop ≠ 0 := by
    intro same
    have both := ends.1
    rw [same, begins.1] at both
    cases both
  constructor
  · omega
  · rw [List.head?_take, if_neg (Nat.succ_ne_zero stop), List.head?_eq_getElem?]
    exact begins.1
  · intro later
    rcases List.mem_iff_getElem?.1 later with ⟨index, found⟩
    rw [List.getElem?_tail, List.getElem?_take] at found
    split at found
    · exact begins.2 (index + 1) (Nat.succ_pos index) found
    · cases found
  · rw [List.getLast?_eq_getElem?, size, Nat.add_sub_cancel,
      List.getElem?_take_of_lt (Nat.lt_succ_self stop)]
    exact ends.1

end Window
end TelemetryRelay
