import TelemetryRelay.Proofs.Stage.Events

/-!
# When a stage makes progress

Two conditions decide whether an attempt makes progress: enough bytes have to
be buffered, and the window has to show a frame end.  A stage that lacks one of
them is at rest.  Neither an attempt nor a flush changes its rings or its
totals, and only reception can set it going again.

The stages that can come up are those that calls lead to from one that was
made from the settings.  Their rings and rules are those of the settings.  The
checks that settings have to pass compare the window with the capacity of the
byte ring, but not the number of bytes that an attempt waits for.  If that
number is larger, even a full ring does not let the extractor begin, and the
relay extracts nothing for as long as it runs.  Otherwise a full ring is always
enough.
-/

namespace TelemetryRelay
namespace Stage

open Window (frameEnd)

/-! ## Stages at rest -/

/-- The next attempt makes no progress. -/
def AtRest (stage : Stage) : Prop :=
  stage.extract.result.madeProgress = false

section

variable {stage : Stage}

theorem extract_progress_iff (sound : stage.Sound) :
    stage.extract.result.madeProgress = true ↔
      stage.extractor.rules.minFill ≤ stage.bufferedBytes ∧
        frameEnd ∈ stage.bytes.toList.take stage.extractor.rules.window := by
  rw [(extract_reading sound).progress_iff, Ring.length_toList sound.bytes]
  rfl

theorem atRest_iff (sound : stage.Sound) :
    stage.AtRest ↔
      stage.bufferedBytes < stage.extractor.rules.minFill ∨
        frameEnd ∉ stage.bytes.toList.take stage.extractor.rules.window := by
  rw [AtRest, ← Bool.not_eq_true, extract_progress_iff sound, Decidable.not_and_iff_not_or_not,
    Nat.not_le]

namespace AtRest

/-- An attempt may still change what the extractor remembers of the window. -/
theorem extract_stage (rest : stage.AtRest) (sound : stage.Sound) :
    stage.extract.stage = { stage with extractor := stage.extract.stage.extractor } := by
  obtain ⟨sameBytes, sameRecords⟩ :=
    stage.extractor.attempt_without_progress sound.bytes sound.records rest
  have sameTotals : totalsAfter stage.totals stage.extract.result = stage.totals := by
    unfold AtRest at rest
    cases ending : stage.extract.result with
    | starved | incomplete => rfl
    | resynced | produced => rw [ending] at rest; cases rest
  simp only [extract] at sameTotals ⊢
  rw [sameBytes, sameRecords, sameTotals, Nat.sub_self, Nat.add_zero]

/-- Rest lasts. -/
theorem undergo_attempt (rest : stage.AtRest) (sound : stage.Sound) :
    (stage.undergo .attempt).AtRest := by
  have same := rest.extract_stage sound
  have sameBytes : (stage.undergo .attempt).bytes = stage.bytes := by
    rw [undergo, same]
  rw [atRest_iff (sound.undergo .attempt), rules_undergo sound, bufferedBytes, sameBytes]
  exact (atRest_iff sound).1 rest

theorem flush_result (rest : stage.AtRest) : stage.flush.result = 0 := by
  rw [flush, flushWithin, if_neg (Bool.eq_false_iff.1 rest)]

theorem flush_stage (rest : stage.AtRest) : stage.flush.stage = stage.extract.stage := by
  rw [flush, flushWithin, if_neg (Bool.eq_false_iff.1 rest)]

end AtRest

end

/-! ## Stages that can come up -/

/-- A stage made from the settings, after some calls. -/
inductive Reachable (settings : Settings) : Stage -> Prop where
  | created {step : Step Unit} (creation : create settings = .ok step) :
      Reachable settings step.stage
  | called {stage : Stage} (reached : Reachable settings stage) (call : Call) :
      Reachable settings (stage.perform call)

theorem eq_opened_of_create {settings : Settings} {step : Step Unit}
    (creation : create settings = .ok step) :
    ∃ accepted : settings.validate = .ok (), step = opened settings accepted := by
  unfold create at creation
  split at creation
  · cases creation
  · rename_i accepted
    cases creation
    exact ⟨accepted, rfl⟩

/-- A sound stage with the byte ring and the rules that the settings
describe. -/
structure Conforms (settings : Settings) (stage : Stage) : Prop where
  sound : stage.Sound
  rules : stage.extractor.rules = settings.scan
  byteCapacity : stage.bytes.capacity = settings.byteCapacity

section

variable {settings : Settings} {stage : Stage}

theorem conforms_ofSettings (accepted : settings.validate = .ok ()) :
    (ofSettings settings accepted).Conforms settings where
  sound := sound_ofSettings accepted
  rules := rfl
  byteCapacity := Ring.capacity_blank _

namespace Conforms

theorem undergo (conforms : stage.Conforms settings) (event : Event) :
    (stage.undergo event).Conforms settings where
  sound := conforms.sound.undergo event
  rules := (rules_undergo conforms.sound event).trans conforms.rules
  byteCapacity := (byteCapacity_undergo conforms.sound event).trans conforms.byteCapacity

theorem replay (conforms : stage.Conforms settings) (events : List Event) :
    (stage.replay events).Conforms settings := by
  induction events generalizing stage with
  | nil => exact conforms
  | cons event later inductionHypothesis => exact inductionHypothesis (conforms.undergo event)

theorem perform (conforms : stage.Conforms settings) (call : Call) :
    (stage.perform call).Conforms settings := by
  rw [perform_eq]
  exact conforms.replay _

theorem bufferedBytes_le (conforms : stage.Conforms settings) :
    stage.bufferedBytes ≤ settings.byteCapacity :=
  conforms.byteCapacity ▸ conforms.sound.bytes.2

end Conforms

theorem Reachable.conforms (reached : Reachable settings stage) : stage.Conforms settings := by
  induction reached with
  | created creation =>
      obtain ⟨accepted, rfl⟩ := eq_opened_of_create creation
      exact conforms_ofSettings accepted
  | called _ call inductionHypothesis => exact inductionHypothesis.perform call

end

/-! ## Receiving into free slots -/

theorem ingest_within {stage : Stage} (sound : stage.Sound) {chunk : List UInt8}
    (room : stage.bufferedBytes + chunk.length ≤ stage.bytes.capacity) :
    (stage.ingest chunk).stage.bytes.toList = stage.bytes.toList ++ chunk ∧
      (stage.ingest chunk).stage.totals =
        { stage.totals with bytesIngested := stage.totals.bytesIngested + chunk.length } := by
  have nothing : stage.bytes.shortfall chunk.length = 0 := by
    simp only [bufferedBytes] at room
    simp only [Ring.shortfall, Ring.free]
    omega
  rw [ingest_stage sound, nothing]
  constructor
  · rw [Ring.toList_acceptAll sound.bytes, nothing, List.drop_zero]
  · rfl

theorem reachable_of_room {settings : Settings} (accepted : settings.validate = .ok ())
    {chunk : List UInt8} (room : chunk.length ≤ settings.byteCapacity) :
    ∃ stage, Reachable settings stage ∧ stage.bytes.toList = chunk ∧
      stage.totals = { bytesIngested := chunk.length } := by
  have fresh := conforms_ofSettings accepted
  have empty : (ofSettings settings accepted).bytes.toList = [] :=
    Ring.toList_blank (settings.validate_eq_ok_iff.1 accepted).byteCapacity_positive
  have nothing : (ofSettings settings accepted).bufferedBytes = 0 := rfl
  have uncounted : (ofSettings settings accepted).totals = {} := rfl
  rw [← fresh.byteCapacity, ← Nat.zero_add chunk.length, ← nothing] at room
  obtain ⟨buffered, totals⟩ := ingest_within fresh.sound room
  rw [empty, List.nil_append] at buffered
  simp only [uncounted, Nat.zero_add] at totals
  exact ⟨_, Reachable.called (.created (create_eq accepted)) (.ingest chunk), buffered, totals⟩

/-! ## Waiting for more bytes than fit -/

section

variable {settings : Settings} {stage : Stage}

theorem Conforms.starved_of_small (conforms : stage.Conforms settings)
    (small : settings.byteCapacity < settings.scan.minFill) :
    stage.extract.result = .starved := by
  have reading := extract_reading conforms.sound
  have few : stage.bytes.toList.length < stage.extractor.rules.minFill := by
    rw [Ring.length_toList conforms.sound.bytes, conforms.rules]
    exact Nat.lt_of_le_of_lt conforms.bufferedBytes_le small
  exact reading.unique (.starved few)

/-- The extractor has neither produced nor discarded anything. -/
def Untouched (stage : Stage) : Prop :=
  stage.totals.framesExtracted = 0 ∧ stage.totals.bytesResynced = 0

theorem Conforms.untouched_perform (conforms : stage.Conforms settings)
    (small : settings.byteCapacity < settings.scan.minFill) (untouched : stage.Untouched)
    (call : Call) : (stage.perform call).Untouched := by
  have rest : stage.AtRest := by
    rw [AtRest, conforms.starved_of_small small]
    rfl
  have attempted : stage.extract.stage.Untouched := by
    rw [rest.extract_stage conforms.sound]
    exact untouched
  cases call with
  | ingest chunk => exact untouched
  | extract => exact attempted
  | flush =>
      change stage.flush.stage.Untouched
      rw [rest.flush_stage]
      exact attempted
  | nextRecord =>
      change (stage.undergo .take).Untouched
      rw [undergo_take conforms.sound]
      exact untouched

theorem Reachable.untouched (reached : Reachable settings stage)
    (small : settings.byteCapacity < settings.scan.minFill) : stage.Untouched := by
  induction reached with
  | created creation =>
      obtain ⟨accepted, rfl⟩ := eq_opened_of_create creation
      exact ⟨rfl, rfl⟩
  | called reached call inductionHypothesis =>
      exact reached.conforms.untouched_perform small inductionHypothesis call

theorem exists_full_of_ends (accepted : settings.validate = .ok ()) :
    ∃ stage, Reachable settings stage ∧ stage.bytes.isFull = true ∧
      frameEnd ∈ stage.bytes.toList.take settings.scan.window := by
  have acceptable := settings.validate_eq_ok_iff.1 accepted
  have window := (settings.scan.validate_eq_ok_iff.1 acceptable.scan_accepted).1
  have capacity := acceptable.byteCapacity_positive
  have count : (List.replicate settings.byteCapacity frameEnd).length = settings.byteCapacity :=
    List.length_replicate
  obtain ⟨stage, reached, filled, _⟩ := reachable_of_room accepted (Nat.le_of_eq count)
  have size := Ring.length_toList reached.conforms.sound.bytes
  rw [filled, count] at size
  refine ⟨stage, reached, ?_, ?_⟩
  · rw [Ring.isFull, reached.conforms.byteCapacity, ← size, beq_self_eq_true]
  · rw [filled, List.take_replicate, List.mem_replicate]
    exact ⟨by omega, rfl⟩

end

/-- Whether a full ring is enough for the extractor is decided by the settings.

If an attempt waits for no more bytes than the ring can hold, then a full ring
that shows a frame end in its window lets every next attempt make progress.  If
it waits for more, then every attempt on every stage that can come up ends for
want of bytes, and nothing is ever extracted or discarded.  Acceptable settings
can be of either kind. -/
theorem full_ring_progresses_iff {settings : Settings} (accepted : settings.validate = .ok ()) :
    ((forall stage, Reachable settings stage -> stage.bytes.isFull = true ->
        frameEnd ∈ stage.bytes.toList.take settings.scan.window ->
          stage.extract.result.madeProgress = true) ↔
      settings.scan.minFill ≤ settings.byteCapacity) ∧
      (settings.byteCapacity < settings.scan.minFill ->
        forall stage, Reachable settings stage ->
          stage.extract.result = .starved ∧ stage.totals.framesExtracted = 0 ∧
            stage.totals.bytesResynced = 0) := by
  refine ⟨⟨?_, ?_⟩, ?_⟩
  · intro progresses
    apply Nat.le_of_not_lt
    intro small
    obtain ⟨stage, reached, full, shown⟩ := exists_full_of_ends accepted
    have progress := progresses stage reached full shown
    rw [reached.conforms.starved_of_small small] at progress
    cases progress
  · intro enough stage reached full shown
    have conforms := reached.conforms
    have size : stage.bufferedBytes = settings.byteCapacity := by
      rw [← conforms.byteCapacity]
      exact beq_iff_eq.1 full
    rw [extract_progress_iff conforms.sound, conforms.rules, size]
    exact ⟨enough, shown⟩
  · intro small stage reached
    exact ⟨reached.conforms.starved_of_small small, reached.untouched small⟩

/-- An attempt waits for exactly as many bytes as the ring can hold. -/
theorem full_ring_of_three_progresses :
    let settings : Settings :=
      { byteCapacity := 3, recordCapacity := 1, scan := { minFill := 3, window := 2 } }
    settings.validate = .ok () ∧
      forall stage, Reachable settings stage -> stage.bytes.isFull = true ->
        frameEnd ∈ stage.bytes.toList.take settings.scan.window ->
          stage.extract.result.madeProgress = true := by
  intro settings
  have accepted : settings.validate = .ok () := by decide +kernel
  exact ⟨accepted, (full_ring_progresses_iff accepted).1.2 (Nat.le_refl 3)⟩

/-- A ring of two slots is full and holds a frame, but an attempt waits for a
third byte.  The next byte that comes drops the frame start. -/
theorem full_ring_of_two_starves :
    let settings : Settings :=
      { byteCapacity := 2, recordCapacity := 1, scan := { minFill := 3, window := 2 } }
    settings.validate = .ok () ∧
      ∃ stage, Reachable settings stage ∧ stage.bytes.isFull = true ∧
        stage.bytes.toList.take settings.scan.window = [0x7B, 0x7D] ∧
        stage.extract.result = .starved ∧
        (stage.ingest [0x61]).stage.totals.bytesEvicted = 1 := by
  intro settings
  have accepted : settings.validate = .ok () := by decide +kernel
  let stage := ((ofSettings settings accepted).ingest [0x7B, 0x7D]).stage
  have full : stage.bytes.isFull = true := by decide +kernel +revert
  have shown : stage.bytes.toList.take settings.scan.window = [0x7B, 0x7D] := by
    decide +kernel +revert
  have starved : stage.extract.result = .starved := by decide +kernel +revert
  have dropped : (stage.ingest [0x61]).stage.totals.bytesEvicted = 1 := by decide +kernel +revert
  have reached : Reachable settings stage :=
    .called (.created (create_eq accepted)) (.ingest [0x7B, 0x7D])
  exact ⟨accepted, stage, reached, full, shown, starved, dropped⟩

end Stage
end TelemetryRelay
