import TelemetryRelay.Frame.Extractor
import TelemetryRelay.Proofs.Frame.Window
import TelemetryRelay.Proofs.Ring.Acceptance

/-!
# What an extraction attempt makes of the buffered bytes

`Reading` says how an attempt has to end, given nothing but the rules and the
list of buffered bytes.  It does not mention slots, cursors, the room that the
window is copied to, or the order in which anything is looked at.  Every list
of bytes has exactly one reading.

An attempt on two valid rings ends as the contents of the byte ring read,
whatever the room held and wherever the ring was wrapped.  It then has moved
the cursor of the byte ring over the bytes it consumed, and a frame has been
accepted by the record ring.
-/

namespace TelemetryRelay

open Window

/-- How an attempt ends that finds the given bytes buffered.  Only a window in
front of them is considered. -/
inductive Reading (rules : ScanRules) (buffered : List UInt8) : Extraction -> Prop where
  | starved (few : buffered.length < rules.minFill) : Reading rules buffered .starved
  | incomplete (enough : rules.minFill ≤ buffered.length)
      (noEnd : frameEnd ∉ buffered.take rules.window) : Reading rules buffered .incomplete
  /-- Without a frame start, everything through the last frame end goes. -/
  | orphanEnd (enough : rules.minFill ≤ buffered.length) {stop : Nat}
      (ends : LastAt frameEnd (buffered.take rules.window) stop)
      (noStart : frameStart ∉ buffered.take rules.window) :
      Reading rules buffered (.resynced (stop + 1))
  /-- Everything before the last frame start goes. -/
  | garbage (enough : rules.minFill ≤ buffered.length) {start stop : Nat}
      (ends : LastAt frameEnd (buffered.take rules.window) stop)
      (begins : LastAt frameStart (buffered.take rules.window) start) (behind : 0 < start) :
      Reading rules buffered (.resynced start)
  /-- The last frame start is in front. -/
  | frame (enough : rules.minFill ≤ buffered.length) {stop : Nat}
      (ends : LastAt frameEnd (buffered.take rules.window) stop)
      (begins : LastAt frameStart (buffered.take rules.window) 0) :
      Reading rules buffered (.produced (stop + 1))

namespace Extraction

/-- Number of bytes that an attempt takes from the front of the byte ring. -/
def consumed : Extraction -> Nat
  | starved => 0
  | incomplete => 0
  | resynced discarded => discarded
  | produced length => length

def judged (rules : ScanRules) (buffered : List UInt8) : Extraction :=
  if buffered.length < rules.minFill then .starved
  else
    match inspect (buffered.take rules.window) with
    | .noEnd => .incomplete
    | .garbage length => .resynced length
    | .orphanEnd length => .resynced length
    | .frame length => .produced length

def recordsAfter (buffered : List UInt8) (records : Ring Record) : Extraction -> Ring Record
  | produced length => records.accept (Record.pad (buffered.take length))
  | starved | incomplete | resynced _ => records

end Extraction

/-! ## Readings -/

namespace Reading

variable {rules : ScanRules} {buffered : List UInt8}

theorem judged (rules : ScanRules) (buffered : List UInt8) :
    Reading rules buffered (.judged rules buffered) := by
  unfold Extraction.judged
  split
  · rename_i few
    exact .starved few
  · rename_i notFew
    have enough := Nat.le_of_not_lt notFew
    unfold inspect
    cases ending : lastIndex? frameEnd (buffered.take rules.window) with
    | none => exact .incomplete enough (lastIndex?_eq_none_iff.1 ending)
    | some stop =>
        have ends := lastIndex?_eq_some_iff.1 ending
        cases beginning : lastIndex? frameStart (buffered.take rules.window) with
        | none => exact .orphanEnd enough ends (lastIndex?_eq_none_iff.1 beginning)
        | some start =>
            have begins := lastIndex?_eq_some_iff.1 beginning
            cases start with
            | zero => exact .frame enough ends begins
            | succ start => exact .garbage enough ends begins (Nat.succ_pos start)

theorem eq_judged {outcome : Extraction} (reading : Reading rules buffered outcome) :
    outcome = .judged rules buffered := by
  unfold Extraction.judged inspect
  cases reading with
  | starved few => rw [if_pos few]
  | incomplete enough noEnd =>
      rw [if_neg (Nat.not_lt.2 enough), lastIndex?_eq_none_iff.2 noEnd]
  | orphanEnd enough ends noStart =>
      rw [if_neg (Nat.not_lt.2 enough), lastIndex?_eq_some_iff.2 ends,
        lastIndex?_eq_none_iff.2 noStart]
  | @garbage enough start stop ends begins behind =>
      rw [if_neg (Nat.not_lt.2 enough), lastIndex?_eq_some_iff.2 ends,
        lastIndex?_eq_some_iff.2 begins]
      cases start with
      | zero => exact absurd behind (Nat.lt_irrefl 0)
      | succ start => rfl
  | frame enough ends begins =>
      rw [if_neg (Nat.not_lt.2 enough), lastIndex?_eq_some_iff.2 ends,
        lastIndex?_eq_some_iff.2 begins]
      rfl

/-- The same bytes are not read in two ways. -/
theorem unique {first second : Extraction} (reading : Reading rules buffered first)
    (other : Reading rules buffered second) : first = second := by
  rw [reading.eq_judged, other.eq_judged]

theorem consumed_le_window {outcome : Extraction} (reading : Reading rules buffered outcome) :
    outcome.consumed ≤ (buffered.take rules.window).length := by
  cases reading with
  | starved | incomplete => exact Nat.zero_le _
  | orphanEnd enough ends noStart => exact ends.lt_length
  | garbage enough ends begins behind => exact Nat.le_of_lt begins.lt_length
  | frame enough ends begins => exact ends.lt_length

theorem consumed_le {outcome : Extraction} (reading : Reading rules buffered outcome) :
    outcome.consumed ≤ buffered.length ∧ outcome.consumed ≤ rules.window := by
  have inWindow := reading.consumed_le_window
  rw [List.length_take] at inWindow
  omega

theorem consumed_positive_iff {outcome : Extraction} (reading : Reading rules buffered outcome) :
    0 < outcome.consumed ↔ outcome.madeProgress = true := by
  cases reading with
  | starved | incomplete => exact ⟨fun impossible => absurd impossible (Nat.lt_irrefl 0), nofun⟩
  | orphanEnd enough ends noStart => exact ⟨fun _ => rfl, fun _ => Nat.succ_pos _⟩
  | garbage enough ends begins behind => exact ⟨fun _ => rfl, fun _ => behind⟩
  | frame enough ends begins => exact ⟨fun _ => rfl, fun _ => Nat.succ_pos _⟩

/-- Progress is a matter of two conditions, and which bytes stand where in the
window does not matter to it. -/
theorem progress_iff {outcome : Extraction} (reading : Reading rules buffered outcome) :
    outcome.madeProgress = true ↔
      rules.minFill ≤ buffered.length ∧ frameEnd ∈ buffered.take rules.window := by
  cases reading with
  | starved few => exact ⟨nofun, fun shown => absurd shown.1 (Nat.not_le.2 few)⟩
  | incomplete enough noEnd => exact ⟨nofun, fun shown => absurd shown.2 noEnd⟩
  | orphanEnd enough ends noStart => exact ⟨fun _ => ⟨enough, ends.mem⟩, fun _ => rfl⟩
  | garbage enough ends begins behind => exact ⟨fun _ => ⟨enough, ends.mem⟩, fun _ => rfl⟩
  | frame enough ends begins => exact ⟨fun _ => ⟨enough, ends.mem⟩, fun _ => rfl⟩

theorem eq_of_noEnd {outcome : Extraction} (reading : Reading rules buffered outcome)
    (noEnd : frameEnd ∉ buffered.take rules.window) :
    outcome = if buffered.length < rules.minFill then .starved else .incomplete := by
  rw [reading.eq_judged, Extraction.judged, inspect, lastIndex?_eq_none_iff.2 noEnd]

theorem isFrame_take {length : Nat} (reading : Reading rules buffered (.produced length)) :
    IsFrame (buffered.take length) := by
  have inWindow : length ≤ rules.window := reading.consumed_le.2
  cases reading with
  | @frame enough stop ends begins =>
      have framed := Window.isFrame_take ends begins
      rw [List.take_take, Nat.min_eq_left inWindow] at framed
      exact framed

end Reading

/-! ## The window -/

namespace Extractor

/-- What an extractor sees does not depend on what its room held before. -/
theorem look_eq (extractor : Extractor) {bytes : Ring UInt8} (valid : bytes.Valid) :
    (extractor.look bytes).1 = bytes.toList.take extractor.rules.window := by
  have fixed := extractor.length_scratch
  have lengths := Ring.length_toList valid
  simp only [look, Ring.peek_eq valid, List.length_take]
  generalize countEq : min (min (min bytes.length extractor.rules.window) extractor.scratch.length)
    bytes.length = count
  rw [List.take_append_of_le_length (by rw [List.length_take]; omega), List.take_take,
    List.take_eq_take_iff]
  omega

theorem window_le_recordWidth (extractor : Extractor) :
    extractor.rules.window ≤ recordWidth :=
  (extractor.rules.validate_eq_ok_iff.1 extractor.accepted).2

/-! ## The attempt -/

theorem dropGarbage_eq (extractor : Extractor) {bytes : Ring UInt8} (records : Ring Record)
    {length : Nat} (buffered : length ≤ bytes.length) (line : Nat -> Entry) :
    extractor.dropGarbage bytes records length line =
      { outcome := .resynced length, extractor, bytes := bytes.advance length, records
        journal := [line length] } := by
  simp only [dropGarbage, Ring.discard, Nat.min_eq_left buffered]

/-- A promoted frame leaves the byte ring and is accepted by the record
ring. -/
theorem promote_eq (extractor : Extractor) {bytes : Ring UInt8} {records : Ring Record}
    (validBytes : bytes.Valid) (validRecords : records.Valid) {length : Nat}
    (buffered : length ≤ bytes.length) (fits : length ≤ recordWidth) :
    extractor.promote bytes records length =
      { outcome := .produced length, extractor, bytes := bytes.advance length
        records := records.accept (Record.pad (bytes.toList.take length))
        journal :=
          (if records.isFull then [.droppingRecord] else []) ++ [] ++ [.frameExtracted length] } := by
  have count : min (min length recordWidth) bytes.length = length := by omega
  simp only [promote, Ring.dequeue_eq validBytes, List.length_replicate, count,
    Ring.enqueueOne_eq validRecords]
  rw [List.drop_of_length_le (by rw [List.length_replicate]; omega), List.append_nil]

/-- An attempt ends as the contents of the byte ring read, and changes the
rings accordingly. -/
theorem attempt_eq (extractor : Extractor) {bytes : Ring UInt8} {records : Ring Record}
    (validBytes : bytes.Valid) (validRecords : records.Valid) :
    let attempt := extractor.attempt bytes records
    Reading extractor.rules bytes.toList attempt.outcome ∧
      attempt.bytes = bytes.advance attempt.outcome.consumed ∧
      attempt.records = attempt.outcome.recordsAfter bytes.toList records ∧
      attempt.extractor.rules = extractor.rules := by
  have lengths := Ring.length_toList validBytes
  have reading := Reading.judged extractor.rules bytes.toList
  unfold Extraction.judged at reading
  simp only [attempt]
  rw [lengths] at reading
  split at reading
  · rename_i few
    rw [if_pos few]
    exact ⟨reading, (Ring.advance_zero validBytes).symm, rfl, rfl⟩
  · rename_i notFew
    rw [if_neg notFew, look_eq extractor validBytes]
    -- What the reading consumes bounds what is asked of the rings.
    cases finding : inspect (bytes.toList.take extractor.rules.window) with
    | noEnd =>
        rw [finding] at reading
        exact ⟨reading, (Ring.advance_zero validBytes).symm, rfl, rfl⟩
    | garbage length =>
        rw [finding] at reading
        have buffered : length ≤ bytes.length := lengths ▸ reading.consumed_le.1
        simp only [dropGarbage_eq _ records buffered]
        exact ⟨reading, rfl, rfl, rfl⟩
    | orphanEnd length =>
        rw [finding] at reading
        have buffered : length ≤ bytes.length := lengths ▸ reading.consumed_le.1
        simp only [dropGarbage_eq _ records buffered]
        exact ⟨reading, rfl, rfl, rfl⟩
    | frame length =>
        rw [finding] at reading
        have buffered : length ≤ bytes.length := lengths ▸ reading.consumed_le.1
        have fits : length ≤ recordWidth :=
          Nat.le_trans reading.consumed_le.2 extractor.window_le_recordWidth
        simp only [promote_eq _ validBytes validRecords buffered fits]
        exact ⟨reading, rfl, rfl, rfl⟩

section

variable (extractor : Extractor) {bytes : Ring UInt8} {records : Ring Record}
  (validBytes : bytes.Valid) (validRecords : records.Valid)

include validBytes validRecords

theorem attempt_reading :
    Reading extractor.rules bytes.toList (extractor.attempt bytes records).outcome :=
  (extractor.attempt_eq validBytes validRecords).1

theorem attempt_consumed_le :
    (extractor.attempt bytes records).outcome.consumed ≤ bytes.length :=
  Ring.length_toList validBytes ▸
    (extractor.attempt_reading validBytes validRecords).consumed_le.1

theorem toList_attempt_bytes :
    (extractor.attempt bytes records).bytes.toList =
      bytes.toList.drop (extractor.attempt bytes records).outcome.consumed := by
  rw [(extractor.attempt_eq validBytes validRecords).2.1]
  exact Ring.toList_advance validBytes (extractor.attempt_consumed_le validBytes validRecords)

theorem attempt_without_progress
    (none : (extractor.attempt bytes records).outcome.madeProgress = false) :
    (extractor.attempt bytes records).bytes = bytes ∧
      (extractor.attempt bytes records).records = records := by
  rcases extractor.attempt_eq validBytes validRecords with ⟨_, bytesEq, recordsEq, _⟩
  rw [bytesEq, recordsEq]
  cases outcome : (extractor.attempt bytes records).outcome with
  | starved | incomplete => exact ⟨Ring.advance_zero validBytes, rfl⟩
  | resynced | produced => rw [outcome] at none; cases none

/-- An attempt makes progress exactly if the byte ring is another one
afterwards. -/
theorem attempt_progress_iff :
    (extractor.attempt bytes records).outcome.madeProgress = true ↔
      (extractor.attempt bytes records).bytes ≠ bytes := by
  constructor
  · intro progress same
    have positive :=
      (extractor.attempt_reading validBytes validRecords).consumed_positive_iff.2 progress
    have consumed := extractor.attempt_consumed_le validBytes validRecords
    have bytesEq := (extractor.attempt_eq validBytes validRecords).2.1
    have shorter := congrArg Ring.length bytesEq
    rw [same] at shorter
    simp only [Ring.advance] at shorter
    omega
  · intro different
    rw [← Bool.not_eq_false]
    intro none
    exact different (extractor.attempt_without_progress validBytes validRecords none).1

theorem attempt_produced {length : Nat}
    (produced : (extractor.attempt bytes records).outcome = .produced length) :
    ∃ record : Record,
      record.bytes = bytes.toList.take length ++ List.replicate (recordWidth - length) 0 ∧
        records.enqueueOne record = .ok (extractor.attempt bytes records).records := by
  have reading := extractor.attempt_reading validBytes validRecords
  have recordsEq := (extractor.attempt_eq validBytes validRecords).2.2.1
  rw [produced] at reading recordsEq
  have size : (bytes.toList.take length).length = length := by
    rw [List.length_take]
    exact Nat.min_eq_left reading.consumed_le.1
  have fits : (bytes.toList.take length).length ≤ recordWidth := by
    rw [size]
    exact Nat.le_trans reading.consumed_le.2 extractor.window_le_recordWidth
  refine ⟨Record.pad (bytes.toList.take length), ?_, ?_⟩
  · rw [Record.bytes_pad fits, size]
  · rw [Ring.enqueueOne_eq validRecords, recordsEq]
    rfl

/-- An attempt is determined by the contents of the byte ring.

Its outcome is the only reading of these contents; what the room of the
extractor held, where the ring is wrapped and what its other slots hold play
no part in it.  Without progress neither ring changes in any field.  With
progress the consumed bytes leave the byte ring, whose slots and counters stay
as they are; the record ring changes only if a frame was produced, and then as
if the frame, filled up with zeros, had been handed to it. -/
theorem attempt_reads_contents :
    let attempt := extractor.attempt bytes records
    let buffered := bytes.toList
    (forall outcome, attempt.outcome = outcome ↔ Reading extractor.rules buffered outcome) ∧
      (attempt.outcome.madeProgress = false ->
        attempt.bytes = bytes ∧ attempt.records = records) ∧
      (forall discarded, attempt.outcome = .resynced discarded ->
        attempt.bytes.toList = buffered.drop discarded ∧ attempt.records = records) ∧
      (forall length, attempt.outcome = .produced length ->
        attempt.bytes.toList = buffered.drop length ∧
          ∃ record : Record,
            record.bytes = buffered.take length ++ List.replicate (recordWidth - length) 0 ∧
              records.enqueueOne record = .ok attempt.records) ∧
      (attempt.outcome.madeProgress = true ↔ attempt.bytes ≠ bytes) ∧
      attempt.bytes.Valid ∧
      attempt.bytes.slots = bytes.slots ∧
      attempt.bytes.totalEnqueued = bytes.totalEnqueued ∧
      attempt.bytes.totalEvicted = bytes.totalEvicted ∧
      attempt.extractor.rules = extractor.rules := by
  intro attempt buffered
  rcases extractor.attempt_eq validBytes validRecords with ⟨reading, bytesEq, recordsEq, rulesEq⟩
  have remaining := extractor.toList_attempt_bytes validBytes validRecords
  refine ⟨?_, extractor.attempt_without_progress validBytes validRecords, ?_, ?_,
    extractor.attempt_progress_iff validBytes validRecords, ?_, ?_, ?_, ?_, rulesEq⟩
  · intro outcome
    constructor
    · intro same
      exact same ▸ reading
    · exact reading.unique
  · intro discarded resynced
    rw [resynced] at remaining recordsEq
    exact ⟨remaining, recordsEq⟩
  · intro length produced
    have record := extractor.attempt_produced validBytes validRecords produced
    rw [produced] at remaining
    exact ⟨remaining, record⟩
  · rw [bytesEq]
    exact Ring.valid_advance validBytes _
  · rw [bytesEq]
    rfl
  · rw [bytesEq]
    rfl
  · rw [bytesEq]
    rfl

end

/-- A frame that goes over the last slot of its ring. -/
theorem attempt_reads_wrapped_frame :
    let rules : ScanRules := { minFill := 1, window := 8 }
    let extractor : Extractor :=
      { rules, accepted := rfl, scratch := [1, 2, 3, 4, 5, 6, 7, 8], length_scratch := rfl }
    let bytes : Ring UInt8 :=
      { slots := #[0x31, 0x7D, 0x7B, 0x61], readCursor := 2, length := 4, totalEnqueued := 6
        totalEvicted := 0 }
    let records : Ring Record := Ring.blank 1
    bytes.Valid ∧ records.Valid ∧
      (extractor.attempt bytes records).outcome = .produced 4 := by
  intro rules extractor bytes records
  have validBytes : bytes.Valid := by decide
  have validRecords : records.Valid := ⟨Nat.zero_lt_one, Nat.zero_le 1⟩
  have reading : Reading rules bytes.toList (.produced 4) := Reading.judged rules bytes.toList
  exact ⟨validBytes, validRecords,
    ((extractor.attempt_reads_contents validBytes validRecords).1 _).2 reading⟩

end Extractor
end TelemetryRelay
