import TelemetryRelay.Proofs.Stage.Ledger
import TelemetryRelay.Proofs.Stage.Progress

/-!
# Flushes come to an end

A flush makes attempts until one of them makes no progress.  `Exhausts` says
this of two stages and a number of attempts, without any bound on the number.
That a flush never needs more attempts than there are buffered bytes, the last
one apart, is a consequence: an attempt that makes progress takes at least one
byte, and nothing is received meanwhile.  The stage that it leaves is at rest.

A stage at rest is one that another flush does not change, whatever bytes are
left in it.  So a flush leads to a fixed point of flushing.
-/

namespace TelemetryRelay

def Extraction.isProduced : Extraction -> Bool
  | produced _ => true
  | starved | incomplete | resynced _ => false

namespace Stage

open Window (frameEnd)

/-- So many attempts in a row make progress, and the one behind them does not
and leaves the last stage. -/
inductive Exhausts : Nat -> Stage -> Stage -> Prop
  | rest {stage : Stage} (rest : stage.AtRest) : Exhausts 0 stage stage.extract.stage
  | progress {count : Nat} {stage last : Stage}
      (progress : stage.extract.result.madeProgress = true)
      (later : Exhausts count stage.extract.stage last) : Exhausts (count + 1) stage last

theorem Exhausts.atRest {count : Nat} {stage last : Stage} (exhausts : Exhausts count stage last)
    (sound : stage.Sound) : last.AtRest := by
  induction exhausts with
  | rest rest => exact rest.undergo_attempt sound
  | progress _ _ inductionHypothesis => exact inductionHypothesis (sound.undergo .attempt)

theorem exhausts_flushWithin {stage : Stage} (sound : stage.Sound) {attempts : Nat}
    (enough : stage.bufferedBytes < attempts) :
    ∃ count, count ≤ stage.bufferedBytes ∧
      Exhausts count stage (flushWithin attempts stage).stage := by
  induction attempts generalizing stage with
  | zero => exact absurd enough (Nat.not_lt_zero _)
  | succ attempts inductionHypothesis =>
      rw [flushWithin]
      by_cases progress : stage.extract.result.madeProgress = true
      · have shorter : stage.extract.stage.bufferedBytes < stage.bufferedBytes :=
          length_extract_lt sound progress
        -- Where the bound loses one attempt, the stage loses at least one byte.
        rcases inductionHypothesis (sound.undergo .attempt)
          (Nat.lt_of_lt_of_le shorter (Nat.le_of_lt_succ enough)) with ⟨count, few, exhausts⟩
        rw [if_pos progress]
        exact ⟨count + 1, Nat.lt_of_le_of_lt few shorter, .progress progress exhausts⟩
      · rw [if_neg progress]
        exact ⟨0, Nat.zero_le _, .rest (Bool.eq_false_iff.2 progress)⟩

theorem exhausts_flush {stage : Stage} (sound : stage.Sound) :
    ∃ count, count ≤ stage.bufferedBytes ∧ Exhausts count stage stage.flush.stage :=
  exhausts_flushWithin sound (Nat.lt_succ_self _)

theorem atRest_flush {stage : Stage} (sound : stage.Sound) : stage.flush.stage.AtRest := by
  rcases exhausts_flush sound with ⟨_, _, exhausts⟩
  exact exhausts.atRest sound

/-! ## How the attempts of a flush end -/

def outcomes (stage : Stage) : Nat -> List Extraction
  | 0 => []
  | count + 1 => stage.extract.result :: stage.extract.stage.outcomes count

section

variable {count : Nat} {stage last : Stage}

theorem length_outcomes (stage : Stage) (count : Nat) : (stage.outcomes count).length = count := by
  induction count generalizing stage with
  | zero => rfl
  | succ count inductionHypothesis =>
      rw [outcomes, List.length_cons, inductionHypothesis]

theorem getElem?_outcomes {index : Nat} (inside : index < count) :
    (stage.outcomes count)[index]? =
      some (stage.replay (List.replicate index .attempt)).extract.result := by
  induction count generalizing stage index with
  | zero => exact absurd inside (Nat.not_lt_zero _)
  | succ count inductionHypothesis =>
      cases index with
      | zero => rfl
      | succ index =>
          rw [outcomes, List.getElem?_cons_succ]
          exact inductionHypothesis (Nat.lt_of_succ_lt_succ inside)

/-- The frames that leave the byte ring are those of the attempts that end with
a frame. -/
theorem length_frames_attempts (stage : Stage) (count : Nat) :
    (Segment.frames (stage.segments (List.replicate count .attempt))).length =
      (stage.outcomes count).countP Extraction.isProduced := by
  induction count generalizing stage with
  | zero => rfl
  | succ count inductionHypothesis =>
      rw [List.replicate_succ, segments, gather, Segment.frames_append, List.length_append,
        outcomes, List.countP_cons, ← inductionHypothesis stage.extract.stage, departures,
        Nat.add_comm]
      apply congrArg
      cases stage.extract.result with
      | starved | incomplete | resynced => rfl
      | produced => rfl

theorem flushWithin_result (attempts : Nat) (stage : Stage) :
    (flushWithin attempts stage).result =
      (stage.outcomes (attemptsWithin attempts stage)).countP Extraction.isProduced := by
  induction attempts generalizing stage with
  | zero => rfl
  | succ attempts inductionHypothesis =>
      rw [flushWithin, attemptsWithin]
      by_cases progress : stage.extract.result.madeProgress = true
      · simp only [if_pos progress, outcomes, List.countP_cons, inductionHypothesis]
        cases stage.extract.result with
        | starved | incomplete | resynced => rfl
        | produced => rfl
      · simp only [if_neg progress, outcomes, List.countP_cons]
        cases ending : stage.extract.result with
        | starved | incomplete => rfl
        | resynced | produced =>
            rw [ending] at progress
            exact absurd rfl progress

namespace Exhausts

/-- A bound that is not reached says nothing about the number of attempts. -/
theorem attemptsWithin_eq (exhausts : Exhausts count stage last) {attempts : Nat}
    (enough : count < attempts) : attemptsWithin attempts stage = count + 1 := by
  induction exhausts generalizing attempts with
  | rest rest =>
      cases attempts with
      | zero => exact absurd enough (Nat.not_lt_zero _)
      | succ attempts => rw [attemptsWithin, if_neg (Bool.eq_false_iff.1 rest)]
  | progress progress _ inductionHypothesis =>
      cases attempts with
      | zero => exact absurd enough (Nat.not_lt_zero _)
      | succ attempts =>
          rw [attemptsWithin, if_pos progress, inductionHypothesis (Nat.lt_of_succ_lt_succ enough)]

theorem outcomes_eq (exhausts : Exhausts count stage last) :
    ∃ final, stage.outcomes (count + 1) = stage.outcomes count ++ [final] ∧
      final.madeProgress = false := by
  induction exhausts with
  | rest rest => exact ⟨_, rfl, rest⟩
  | progress _ _ inductionHypothesis =>
      rcases inductionHypothesis with ⟨final, behind, noProgress⟩
      refine ⟨final, ?_, noProgress⟩
      rw [outcomes, behind]
      rfl

theorem progress_of_lt (exhausts : Exhausts count stage last) {index : Nat}
    (before : index < count) :
    (stage.replay (List.replicate index .attempt)).extract.result.madeProgress = true := by
  induction exhausts generalizing index with
  | rest => exact absurd before (Nat.not_lt_zero _)
  | progress progress _ inductionHypothesis =>
      cases index with
      | zero => exact progress
      | succ index => exact inductionHypothesis (Nat.lt_of_succ_lt_succ before)

end Exhausts

end

/-- The account of a flush: the attempts that made progress, by their outcomes,
and the one behind them. -/
structure Settles (settings : Settings) (stage : Stage) (progressing : List Extraction)
    (final : Extraction) : Prop where
  exhausts : Exhausts progressing.length stage stage.flush.stage
  attempts : stage.callEvents .flush = List.replicate (progressing.length + 1) .attempt
  outcomes : stage.outcomes (progressing.length + 1) = progressing ++ [final]
  progress : forall outcome, outcome ∈ progressing -> outcome.madeProgress = true
  noProgress : final.madeProgress = false
  few : progressing.length ≤ stage.bufferedBytes
  /-- Each attempt that makes progress takes at least one byte. -/
  shrinks : forall index, index < progressing.length ->
    (stage.replay (List.replicate (index + 1) .attempt)).bufferedBytes <
      (stage.replay (List.replicate index .attempt)).bufferedBytes
  result : stage.flush.result = progressing.countP Extraction.isProduced
  framesExtracted : stage.flush.stage.totals.framesExtracted =
    stage.totals.framesExtracted + stage.flush.result
  stopped : stage.flush.stage.bufferedBytes < settings.scan.minFill ∨
    frameEnd ∉ stage.flush.stage.bytes.toList.take settings.scan.window
  again : stage.flush.stage.flush.result = 0
  sameBytes : stage.flush.stage.flush.stage.bytes = stage.flush.stage.bytes
  sameRecords : stage.flush.stage.flush.stage.records = stage.flush.stage.records
  sameTotals : stage.flush.stage.flush.stage.totals = stage.flush.stage.totals

/-- A flush comes to an end at a stage that another flush does not change.

It makes no more attempts that make progress than bytes are buffered, and one
behind them that makes none.  What the last one finds is known: too few bytes,
or no frame end in the window. -/
theorem flush_settles {settings : Settings} {stage : Stage} (reached : Reachable settings stage) :
    ∃ progressing final, Settles settings stage progressing final := by
  have conforms := reached.conforms
  have sound := conforms.sound
  rcases exhausts_flush sound with ⟨count, few, exhausts⟩
  have number : attemptsWithin (stage.bufferedBytes + 1) stage = count + 1 :=
    exhausts.attemptsWithin_eq (Nat.lt_succ_of_le few)
  have attempts : stage.callEvents .flush = List.replicate (count + 1) .attempt := by
    rw [callEvents, number]
  rcases exhausts.outcomes_eq with ⟨final, outcomes, noProgress⟩
  have size := stage.length_outcomes count
  have flushed : stage.flush.stage.Conforms settings := conforms.perform .flush
  have rest : stage.flush.stage.AtRest := exhausts.atRest sound
  have kept : stage.flush.stage.flush.stage =
      { stage.flush.stage with extractor := stage.flush.stage.extract.stage.extractor } :=
    rest.flush_stage.trans (rest.extract_stage flushed.sound)
  have result : stage.flush.result =
      (stage.outcomes (count + 1)).countP Extraction.isProduced := by
    rw [flush, flushWithin_result, number]
  refine ⟨stage.outcomes count, final, {
    exhausts := by rw [size]; exact exhausts
    attempts := by rw [size]; exact attempts
    outcomes := by rw [size]; exact outcomes
    progress := ?_
    noProgress
    few := by rw [size]; exact few
    shrinks := ?_
    result := ?_
    framesExtracted := ?_
    stopped := ?_
    again := rest.flush_result
    sameBytes := by rw [kept]
    sameRecords := by rw [kept]
    sameTotals := by rw [kept] }⟩
  · intro outcome member
    rcases List.mem_iff_getElem?.1 member with ⟨index, found⟩
    have before : index < count := size ▸ (List.getElem?_eq_some_iff.1 found).1
    rw [getElem?_outcomes before, Option.some.injEq] at found
    exact found ▸ exhausts.progress_of_lt before
  · intro index inside
    rw [size] at inside
    rw [List.replicate_succ', replay_append]
    exact length_extract_lt (sound.replay _) (exhausts.progress_of_lt inside)
  · -- The last attempt produces no frame, since it makes no progress.
    have nothing : final.isProduced = false := by
      cases final with
      | starved | incomplete | resynced => rfl
      | produced => cases noProgress
    rw [result, outcomes, List.countP_append, List.countP_singleton, nothing]
    rfl
  · have counted := totals_replay sound (stage.callEvents .flush)
    have left : stage.flush.stage = stage.replay (stage.callEvents .flush) :=
      stage.perform_eq .flush
    rw [left, counted, attempts, length_frames_attempts, result]
  · have ended := (atRest_iff flushed.sound).1 rest
    rw [flushed.rules] at ended
    exact ended

/-- Two frames are taken by three attempts, one of which clears away what stands
between them.  The fourth finds a frame start and no frame end. -/
theorem flush_settles_before_frame_start :
    let settings : Settings :=
      { byteCapacity := 8, recordCapacity := 1, scan := { minFill := 1, window := 3 } }
    ∃ stage, Reachable settings stage ∧
      Settles settings stage [.produced 2, .resynced 1, .produced 2] .incomplete := by
  intro settings
  have accepted : settings.validate = .ok () := by decide +kernel
  let stage :=
    ((ofSettings settings accepted).ingest [0x7B, 0x7D, 0x61, 0x7B, 0x7D, 0x61, 0x7B]).stage
  have attempts : stage.callEvents .flush = List.replicate 4 .attempt := by
    decide +kernel +revert
  have ended : stage.outcomes 4 = [.produced 2, .resynced 1, .produced 2] ++ [.incomplete] := by
    decide +kernel +revert
  have reached : Reachable settings stage := .called (.created (create_eq accepted)) (.ingest _)
  rcases flush_settles reached with ⟨progressing, final, account⟩
  have size : progressing.length + 1 = 4 := by
    have same := account.attempts.symm.trans attempts
    simpa using congrArg List.length same
  have outcomes := account.outcomes
  rw [size, ended] at outcomes
  obtain ⟨rfl, last⟩ := List.append_inj' outcomes rfl
  cases last
  exact ⟨stage, reached, account⟩

end Stage
end TelemetryRelay
