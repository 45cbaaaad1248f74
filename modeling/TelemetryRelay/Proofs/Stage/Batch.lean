import TelemetryRelay.Proofs.Stage.Ledger

/-!
# Working through a stream at once

A stage that receives a stream in pieces is the stage that receives it whole:
both rings, the extractor and all totals are the same, however the stream was
cut and however long the pieces are.  Taking records until none is left takes
all that wait, the oldest first, and leaves the totals alone.

`batch` puts this together.  It is a fresh stage that receives a stream whole
and is flushed.
-/

namespace TelemetryRelay
namespace Stage

/-! ## Receiving in pieces -/

section

variable {stage : Stage}

theorem ingest_ingest (sound : stage.Sound) (first second : List UInt8) :
    ((stage.ingest first).stage.ingest second).stage = (stage.ingest (first ++ second)).stage := by
  have received : (stage.ingest first).stage.Sound := sound.undergo (.receive first)
  have dropped := Ring.shortfall_acceptAll sound.bytes first second
  rw [ingest_stage received, ingest_stage sound, ingest_stage sound, Ring.acceptAll_append,
    ← dropped, List.length_append, ← Nat.add_assoc, ← Nat.add_assoc]

theorem ingest_nil (sound : stage.Sound) : (stage.ingest []).stage = stage := by
  have none : stage.bytes.shortfall 0 = 0 := Nat.zero_sub _
  rw [ingest_stage sound, List.length_nil, none]
  rfl

/-- However a stream is cut, receiving its pieces is receiving it. -/
theorem replay_receive (sound : stage.Sound) (pieces : List (List UInt8)) :
    stage.replay (pieces.map .receive) = (stage.ingest pieces.flatten).stage := by
  induction pieces generalizing stage with
  | nil => exact (ingest_nil sound).symm
  | cons piece later inductionHypothesis =>
      rw [List.map_cons, replay_cons, inductionHypothesis (sound.undergo (.receive piece)),
        List.flatten_cons, ← ingest_ingest sound]
      rfl

theorem takenRecords_receive (stage : Stage) (pieces : List (List UInt8)) :
    Dismissal.takenRecords (stage.dismissed (pieces.map .receive)) = [] := by
  have kept : stage.dismissed (pieces.map .receive) = [] := by
    apply gather_eq_nil
    intro stage event member
    rcases List.mem_map.1 member with ⟨piece, _, rfl⟩
    rfl
  rw [kept]
  rfl

end

/-! ## Taking all records -/

theorem length_nextRecord?_lt {stage rest : Stage} {record : Record}
    (taken : stage.nextRecord? = some (record, rest)) :
    rest.records.length < stage.records.length := by
  rw [nextRecord?, Option.map_eq_some_iff] at taken
  rcases taken with ⟨⟨item, records⟩, popped, same⟩
  cases same
  unfold Ring.pop? at popped
  split at popped
  · cases popped
  · rename_i nonempty
    rcases Option.map_eq_some_iff.1 popped with ⟨_, _, same⟩
    cases same
    have positive : stage.records.length ≠ 0 := by
      simpa only [Ring.isEmpty, beq_iff_eq] using nonempty
    exact Nat.sub_lt (Nat.pos_of_ne_zero positive) Nat.zero_lt_one

/-- Take records until none is left.  The result lists them and the stage
without them. -/
def takeAll (stage : Stage) : List Record × Stage :=
  match _taking : stage.nextRecord? with
  | none => ([], stage)
  | some (record, rest) => (record :: rest.takeAll.1, rest.takeAll.2)
termination_by stage.records.length
decreasing_by
  all_goals exact length_nextRecord?_lt _taking

section

variable {stage : Stage}

theorem takeAll_eq (sound : stage.Sound) :
    stage.takeAll =
      (stage.records.toList, stage.replay (List.replicate stage.records.length .take)) := by
  have size := Ring.length_toList sound.records
  induction waiting : stage.records.toList generalizing stage with
  | nil =>
      have none : stage.nextRecord? = none := by rw [nextRecord?_eq sound, waiting]; rfl
      rw [waiting, List.length_nil] at size
      rw [takeAll, ← size]
      split
      · rfl
      · rename_i taken
        rw [none] at taken
        cases taken
  | cons record later inductionHypothesis =>
      have found : stage.nextRecord? =
          some (record, { stage with records := stage.records.advance 1 }) := by
        rw [nextRecord?_eq sound, waiting]
        rfl
      have next : stage.undergo .take = { stage with records := stage.records.advance 1 } := by
        rw [undergo, found]
      have soundNext := sound.undergo .take
      have rest := toList_undergo_take sound
      rw [waiting, List.drop_one, List.tail_cons] at rest
      have taken := inductionHypothesis soundNext (Ring.length_toList soundNext.records) rest
      have fewer := Ring.length_toList soundNext.records
      rw [rest] at fewer
      rw [waiting, List.length_cons] at size
      rw [← size, List.replicate_succ, replay_cons, fewer]
      rw [takeAll]
      split
      · rename_i none
        rw [found] at none
        cases none
      · rename_i other rest taking
        rw [found] at taking
        cases taking
        rw [← next, taken]

theorem takenRecords_take (sound : stage.Sound) (count : Nat) :
    Dismissal.takenRecords (stage.dismissed (List.replicate count .take)) =
      stage.records.toList.take count := by
  induction count generalizing stage with
  | zero => rfl
  | succ count inductionHypothesis =>
      rw [List.replicate_succ, dismissed, gather, Dismissal.takenRecords_append,
        dismissals_take sound, Dismissal.takenRecords_all, if_pos rfl]
      refine (congrArg (_ ++ ·) (inductionHypothesis (sound.undergo .take))).trans ?_
      rw [toList_undergo_take sound, Nat.add_comm, List.take_add]

end

/-! ## The batch -/

/-- A fresh stage that received the given bytes at once and was flushed. -/
def batch {settings : Settings} (accepted : settings.validate = .ok ()) (bytes : List UInt8) :
    Stage :=
  ((ofSettings settings accepted).ingest bytes).stage.flush.stage

/-- Only the sizes of the rings and the rules of the extractor matter. -/
theorem batch_congr {settings other : Settings} (accepted : settings.validate = .ok ())
    (otherAccepted : other.validate = .ok ()) (bytes : List UInt8)
    (byteCapacity : other.byteCapacity = settings.byteCapacity)
    (recordCapacity : other.recordCapacity = settings.recordCapacity)
    (scan : other.scan = settings.scan) : batch otherAccepted bytes = batch accepted bytes := by
  have same : ofSettings other otherAccepted = ofSettings settings accepted := by
    simp only [ofSettings, byteCapacity, recordCapacity, scan]
  rw [batch, batch, same]

end Stage
end TelemetryRelay
