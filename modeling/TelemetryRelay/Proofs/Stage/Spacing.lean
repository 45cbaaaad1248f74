import Mathlib.Data.List.Forall2
import TelemetryRelay.Proofs.Stage.Flush

/-!
# How far apart the frames of a flush are

A frame is produced only where the last frame start of the window is in front,
so that no other frame begins in the rest of the window.  The bytes behind the
frame stay in the ring, and whatever the next attempts find and discard among
them, a frame that they produce begins with a frame start.  It therefore begins
behind that window.

From this follows a bound on the number of frames that one flush can extract,
which depends on the number of buffered bytes and on the window only.  If
complete frames stand closer together, most of them are lost.
-/

namespace TelemetryRelay
namespace Stage

open Window (frameStart IsFrame LastAt)

/-! ## Where frames begin -/

namespace Segment

/-- The places at which frames begin in a stream that consists of the given
segments. -/
def frameOffsets : List Segment -> List Nat
  | [] => []
  | segment :: later =>
      let behind := (frameOffsets later).map (segment.bytes.length + ·)
      if segment.route = .produced then 0 :: behind else behind

theorem located_frames (segments : List Segment) (rest : List UInt8) :
    List.Forall₂
      (fun start frame =>
        ((segments.flatMap bytes ++ rest).drop start).take frame.length = frame)
      (frameOffsets segments) (frames segments) := by
  induction segments with
  | nil => exact .nil
  | cons segment later inductionHypothesis =>
      have stream : (segment :: later).flatMap bytes ++ rest =
          segment.bytes ++ (later.flatMap bytes ++ rest) := by
        rw [List.flatMap_cons, List.append_assoc]
      have shifted : List.Forall₂
          (fun start frame =>
            (((segment :: later).flatMap bytes ++ rest).drop start).take frame.length = frame)
          ((frameOffsets later).map (segment.bytes.length + ·)) (frames later) := by
        rw [List.forall₂_map_left_iff, stream]
        apply inductionHypothesis.imp
        intro start frame located
        rw [List.drop_append, List.drop_eq_nil_of_le (Nat.le_add_right _ _), List.nil_append,
          Nat.add_sub_cancel_left]
        exact located
      rw [← List.singleton_append, frames_append, frames_singleton, List.singleton_append,
        frameOffsets]
      by_cases framed : segment.route = .produced
      · rw [if_pos framed, if_pos framed]
        apply List.Forall₂.cons _ shifted
        rw [stream, List.drop_zero, List.take_left]
      · rw [if_neg framed, if_neg framed]
        exact shifted

theorem length_frameOffsets (segments : List Segment) :
    (frameOffsets segments).length = (frames segments).length :=
  (located_frames segments []).length_eq

end Segment

open Segment (frameOffsets)

/-! ## The frames of one attempt after the other -/

section

variable {stage : Stage} (sound : stage.Sound)

include sound

/-- The last frame start of the window is in front if an attempt produces a
frame. -/
theorem lastAt_of_isProduced (produced : stage.extract.result.isProduced = true) :
    LastAt frameStart (stage.bytes.toList.take stage.extractor.rules.window) 0 := by
  have reading := extract_reading sound
  cases ending : stage.extract.result with
  | starved | incomplete | resynced =>
      rw [ending] at produced
      cases produced
  | produced =>
      rw [ending] at reading
      cases reading with
      | frame _ _ begins => exact begins

theorem consumed_positive_of_isProduced (produced : stage.extract.result.isProduced = true) :
    0 < stage.extract.result.consumed := by
  apply (extract_reading sound).consumed_positive_iff.2
  cases ending : stage.extract.result with
  | starved | incomplete | resynced =>
      rw [ending] at produced
      cases produced
  | produced => rfl

/-- What the first attempt consumes moves the frames of all later ones. -/
theorem frameOffsets_attempts (count : Nat) :
    frameOffsets (stage.segments (List.replicate (count + 1) .attempt)) =
      (if stage.extract.result.isProduced then [0] else []) ++
        (frameOffsets (stage.extract.stage.segments (List.replicate count .attempt))).map
          (stage.extract.result.consumed + ·) := by
  have within := (extract_reading sound).consumed_le.1
  rw [List.replicate_succ, segments, gather, departures]
  cases ending : stage.extract.result with
  | starved | incomplete =>
      simp only [Extraction.consumed, Nat.zero_add, List.map_id']
      rfl
  | resynced discarded | produced length =>
      rw [ending] at within
      have size := List.length_take_of_le within
      simp only [Extraction.consumed] at size ⊢
      simp only [List.singleton_append, frameOffsets, size]
      rfl

theorem start_of_mem_frameOffsets {count start : Nat}
    (member : start ∈ frameOffsets (stage.segments (List.replicate count .attempt))) :
    stage.bytes.toList[start]? = some frameStart := by
  induction count generalizing stage start with
  | zero => exact absurd member List.not_mem_nil
  | succ count inductionHypothesis =>
      rw [frameOffsets_attempts sound, List.mem_append, List.mem_map] at member
      rcases member with here | ⟨later, behind, rfl⟩
      · by_cases produced : stage.extract.result.isProduced = true
        · rw [if_pos produced, List.mem_singleton] at here
          have begins := (lastAt_of_isProduced sound produced).1
          rw [List.getElem?_take] at begins
          split at begins
          · rw [here]
            exact begins
          · cases begins
        · rw [if_neg produced] at here
          exact absurd here List.not_mem_nil
      · have found := inductionHypothesis (sound.undergo .attempt) behind
        rw [undergo, toList_extract_bytes sound, List.getElem?_drop] at found
        exact found

theorem frameOffsets_apart (count : Nat) :
    (frameOffsets (stage.segments (List.replicate count .attempt))).Pairwise
      fun first second => first + stage.extractor.rules.window ≤ second := by
  induction count generalizing stage with
  | zero => exact .nil
  | succ count inductionHypothesis =>
      have later := inductionHypothesis (sound.undergo .attempt)
      rw [rules_undergo sound] at later
      rw [frameOffsets_attempts sound, List.pairwise_append, List.pairwise_map]
      refine ⟨?_, later.imp (by omega), ?_⟩
      · split
        · exact List.pairwise_singleton _ _
        · exact .nil
      · intro first here second behind
        by_cases produced : stage.extract.result.isProduced = true
        · rw [if_pos produced, List.mem_singleton] at here
          -- The second frame begins with a frame start, and behind its own the
          -- window of the first has none.
          have begins : stage.bytes.toList[second]? = some frameStart := by
            apply @start_of_mem_frameOffsets _ sound (count + 1)
            rw [frameOffsets_attempts sound]
            exact List.mem_append_right _ behind
          have further : 0 < second := by
            rcases List.mem_map.1 behind with ⟨later, _, rfl⟩
            exact Nat.add_pos_left (consumed_positive_of_isProduced sound produced) later
          have none := (lastAt_of_isProduced sound produced).2 second further
          apply Nat.le_of_not_lt
          intro inside
          rw [here, Nat.zero_add] at inside
          rw [List.getElem?_take_of_lt inside] at none
          exact none begins
        · rw [if_neg produced] at here
          exact absurd here List.not_mem_nil

theorem inside_of_mem_frameOffsets {count start : Nat}
    (member : start ∈ frameOffsets (stage.segments (List.replicate count .attempt))) :
    start < stage.bufferedBytes := by
  have found := start_of_mem_frameOffsets sound member
  rw [bufferedBytes, ← Ring.length_toList sound.bytes]
  exact (List.getElem?_eq_some_iff.1 found).1

end

/-! ## The frames of a flush -/

/-- Places that are a width apart use up the width, each of them but the last. -/
theorem add_mul_lt_of_apart {width limit start : Nat} {later : List Nat}
    (apart : (start :: later).Pairwise fun first second => first + width ≤ second)
    (inside : forall place, place ∈ start :: later -> place < limit) :
    start + later.length * width < limit := by
  induction later generalizing start with
  | nil =>
      rw [List.length_nil, Nat.zero_mul]
      exact inside start List.mem_cons_self
  | cons next later inductionHypothesis =>
      have further : start + width ≤ next := List.rel_of_pairwise_cons apart List.mem_cons_self
      have rest := inductionHypothesis apart.tail fun place member =>
        inside place (List.mem_cons_of_mem start member)
      rw [List.length_cons, Nat.succ_mul]
      omega

/-- The frames that one flush extracts begin at least a window apart in what is
buffered, so that there are no more of them than windows are needed to cover
it.  How many complete frames are buffered does not matter. -/
theorem flush_frames_apart {settings : Settings} {stage : Stage}
    (reached : Reachable settings stage) :
    let segments := stage.segments (stage.callEvents .flush)
    let starts := frameOffsets segments
    List.Forall₂
        (fun start frame => (stage.bytes.toList.drop start).take frame.length = frame)
        starts (Segment.frames segments) ∧
      starts.Pairwise (fun first second => first + settings.scan.window ≤ second) ∧
      stage.flush.result = starts.length ∧
      stage.flush.result ≤
        (stage.bufferedBytes + settings.scan.window - 1) / settings.scan.window := by
  intro segments starts
  have conforms := reached.conforms
  have sound := conforms.sound
  let count := attemptsWithin (stage.bufferedBytes + 1) stage
  have located := Segment.located_frames segments (stage.perform .flush).bytes.toList
  have stream := stream_replay sound (stage.callEvents .flush)
  rw [bytes_callEvents, ← perform_eq] at stream
  have apart : starts.Pairwise fun first second => first + settings.scan.window ≤ second := by
    rw [← conforms.rules]
    exact frameOffsets_apart sound count
  have number : stage.flush.result = starts.length := by
    rw [Segment.length_frameOffsets, flush, flushWithin_result]
    exact (length_frames_attempts stage count).symm
  refine ⟨?_, apart, number, ?_⟩
  · rw [← stream] at located
    simpa only [Call.bytes, List.append_nil] using located
  · have inside : forall place, place ∈ starts -> place < stage.bufferedBytes :=
      fun place member => @inside_of_mem_frameOffsets _ sound count place member
    have window : 0 < settings.scan.window := by
      rw [← conforms.rules]
      exact (stage.extractor.rules.validate_eq_ok_iff.1 stage.extractor.accepted).1
    rw [number, Nat.le_div_iff_mul_le window]
    cases startsEq : starts with
    | nil => exact (Nat.zero_mul _).symm ▸ Nat.zero_le _
    | cons start later =>
        rw [startsEq] at apart inside
        have last := add_mul_lt_of_apart apart inside
        rw [List.length_cons, Nat.succ_mul]
        omega

/-- Of three frames in seven bytes, the second is lost to the window of the
first. -/
theorem flush_loses_close_frame :
    let settings : Settings :=
      { byteCapacity := 7, recordCapacity := 3, scan := { minFill := 1, window := 3 } }
    ∃ stage, Reachable settings stage ∧
      stage.bytes.toList = [0x7B, 0x7D, 0x61, 0x7B, 0x7D, 0x7B, 0x7D] ∧
      stage.flush.result = 2 ∧
      (frameOffsets (stage.segments (stage.callEvents .flush))).Pairwise
        (fun first second => first + 3 ≤ second) := by
  intro settings
  have accepted : settings.validate = .ok () := by decide +kernel
  let stage :=
    ((ofSettings settings accepted).ingest [0x7B, 0x7D, 0x61, 0x7B, 0x7D, 0x7B, 0x7D]).stage
  have buffered : stage.bytes.toList = [0x7B, 0x7D, 0x61, 0x7B, 0x7D, 0x7B, 0x7D] := by
    decide +kernel +revert
  have starts : frameOffsets (stage.segments (stage.callEvents .flush)) = [0, 5] := by
    decide +kernel +revert
  have reached : Reachable settings stage := .called (.created (create_eq accepted)) (.ingest _)
  rcases flush_frames_apart reached with ⟨_, apart, number, _⟩
  rw [starts] at number
  exact ⟨stage, reached, buffered, number, apart⟩

end Stage
end TelemetryRelay
