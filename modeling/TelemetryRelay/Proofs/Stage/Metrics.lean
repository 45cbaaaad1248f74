import Mathlib.Algebra.GroupWithZero.Nat
import TelemetryRelay.Proofs.Stage.Progress

/-!
# What a stage publishes

A stage counts in two places: in its totals, and by the increments that it
emits.  The totals are updated by one statement and the increments by others,
for overflow only under a condition, so that it is not obvious that they say
the same.  `Publishes` says that they do, between any two stages.  It holds of
single events and composes, hence of all calls.

The gauge follows the byte ring in the same way.  Taking a record is the only
event that does not set it, and this event leaves the byte ring alone.
-/

namespace TelemetryRelay

/-! ## Counters and their names -/

/-- The counter that is published under a name. -/
def Counter.named? (name : String) : Option Counter :=
  Counter.all.find? fun counter => counter.name = name

theorem Counter.named?_name (counter : Counter) : named? counter.name = some counter := by
  cases counter <;> rfl

theorem Counter.named?_eq_none {name : String} (other : forall counter : Counter,
    name ≠ counter.name) : named? name = none := by
  rw [named?, List.find?_eq_none]
  intro counter _
  simpa using (other counter).symm

namespace Signal

/-- A counter after the given signals, zero as long as it is absent. -/
def count (counter : Counter) (signals : List Signal) : Nat :=
  (total? counter signals).getD 0

/-- The counter of the given name, as it is published. -/
def metric? (name : String) (signals : List Signal) : Option Nat :=
  (Counter.named? name).bind fun counter => total? counter signals

section

variable (counter : Counter)

theorem count_eq_sum (signals : List Signal) :
    count counter signals = (signals.filterMap (amount? counter)).sum := by
  unfold count total?
  split
  · rename_i nothing
    rw [nothing]
    rfl
  · rw [Option.getD_some, List.sum_eq_foldl]
    rfl

@[simp] theorem count_nil : count counter [] = 0 :=
  rfl

@[simp] theorem count_append (first second : List Signal) :
    count counter (first ++ second) = count counter first + count counter second := by
  rw [count_eq_sum, count_eq_sum, count_eq_sum, List.filterMap_append, List.sum_append]

@[simp] theorem count_cons_increment (other : Counter) (amount : Nat) (later : List Signal) :
    count counter (.increment other amount :: later) =
      (if other = counter then amount else 0) + count counter later := by
  rw [count_eq_sum, count_eq_sum, List.filterMap_cons, amount?]
  by_cases same : other = counter
  · rw [if_pos same, if_pos same]
    exact List.sum_cons
  · rw [if_neg same, if_neg same, Nat.zero_add]

@[simp] theorem count_cons_journal (entry : Entry) (later : List Signal) :
    count counter (.journal entry :: later) = count counter later :=
  rfl

@[simp] theorem count_cons_fill (ratio : Float) (later : List Signal) :
    count counter (.fill ratio :: later) = count counter later :=
  rfl

@[simp] theorem count_map_journal (entries : List Entry) :
    count counter (entries.map .journal) = 0 := by
  induction entries with
  | nil => rfl
  | cons entry later inductionHypothesis => exact inductionHypothesis

@[simp] theorem count_overflowSignals (dropped : Nat) (line : Nat -> Entry) (other : Counter) :
    count counter (Stage.overflowSignals dropped line other) =
      if other = counter then dropped else 0 := by
  unfold Stage.overflowSignals
  split
  · rename_i nothing
    rw [nothing]
    exact (ite_self 0).symm
  · simp

end

theorem mem_amounts_iff {counter : Counter} {amount : Nat} {signals : List Signal} :
    amount ∈ signals.filterMap (amount? counter) ↔ Signal.increment counter amount ∈ signals := by
  rw [List.mem_filterMap]
  constructor
  · rintro ⟨signal, member, found⟩
    cases signal with
    | journal | fill => cases found
    | increment other amount =>
        rw [amount?] at found
        split at found
        · rename_i same
          cases same
          cases found
          exact member
        · cases found
  · intro member
    exact ⟨_, member, if_pos rfl⟩

/-- A counter that is never incremented by zero is absent as long as it is
zero. -/
theorem total?_eq_none_iff {counter : Counter} {signals : List Signal}
    (positive : Signal.increment counter 0 ∉ signals) :
    total? counter signals = none ↔ count counter signals = 0 := by
  rw [count_eq_sum, List.sum_eq_zero_iff_forall_eq_nat, total?]
  split
  · rename_i nothing
    simp [nothing]
  · rename_i something
    constructor
    · intro impossible
      cases impossible
    · intro zeros
      rcases List.exists_mem_of_ne_nil _ something with ⟨amount, member⟩
      have zero := zeros amount member
      subst zero
      exact absurd (mem_amounts_iff.1 member) positive

theorem metric?_name (counter : Counter) (signals : List Signal) :
    metric? counter.name signals = total? counter signals := by
  rw [metric?, Counter.named?_name]
  rfl

theorem getD_metric? (name : String) (signals : List Signal) :
    (metric? name signals).getD 0 =
      ((Counter.named? name).map fun counter => count counter signals).getD 0 := by
  unfold metric?
  cases Counter.named? name <;> rfl

theorem lastRatio?_append (first second : List Signal) :
    lastRatio? (first ++ second) = (lastRatio? second).or (lastRatio? first) := by
  rw [lastRatio?, lastRatio?, lastRatio?, List.filterMap_append, List.getLast?_append]

theorem lastRatio?_append_eq_none_iff {first second : List Signal} :
    lastRatio? (first ++ second) = none ↔ lastRatio? first = none ∧ lastRatio? second = none := by
  rw [lastRatio?_append, Option.or_eq_none_iff, and_comm]

end Signal

/-! ## Two bookkeepings -/

/-- What the totals have for a counter.  A stage sends nothing. -/
def StageTotals.of (totals : StageTotals) : Counter -> Nat
  | .bytesIngested => totals.bytesIngested
  | .bytesEvicted => totals.bytesEvicted
  | .bytesResynced => totals.bytesResynced
  | .framesExtracted => totals.framesExtracted
  | .recordsEvicted => totals.recordsEvicted
  | .recordsSent | .recordsFailed => 0

/-- What the totals have under a published name. -/
def StageTotals.metric (totals : StageTotals) (name : String) : Nat :=
  if name = "uart_bytes_ingested_total" then totals.bytesIngested
  else if name = "uart_bytes_evicted_total" then totals.bytesEvicted
  else if name = "uart_bytes_resynced_total" then totals.bytesResynced
  else if name = "uart_frames_extracted_total" then totals.framesExtracted
  else if name = "uart_records_evicted_total" then totals.recordsEvicted
  else 0

theorem StageTotals.metric_eq (totals : StageTotals) (name : String) :
    totals.metric name = ((Counter.named? name).map totals.of).getD 0 := by
  by_cases known : ∃ counter : Counter, name = counter.name
  · rcases known with ⟨counter, rfl⟩
    rw [Counter.named?_name]
    cases counter <;> rfl
  · have other : forall counter : Counter, name ≠ counter.name := not_exists.1 known
    rw [Counter.named?_eq_none other]
    exact (if_neg (other .bytesIngested)).trans <| (if_neg (other .bytesEvicted)).trans <|
      (if_neg (other .bytesResynced)).trans <| (if_neg (other .framesExtracted)).trans <|
        if_neg (other .recordsEvicted)

namespace Stage

/-- The signals between two stages say what changed in the totals, and show
the gauge of the later stage if they show one at all. -/
structure Publishes (stage : Stage) (signals : List Signal) (next : Stage) : Prop where
  counted : forall counter,
    next.totals.of counter = stage.totals.of counter + Signal.count counter signals
  gauge : (Signal.lastRatio? signals).getD stage.bytes.fillRatio = next.bytes.fillRatio

namespace Publishes

variable {stage between next : Stage} {signals later : List Signal}

theorem of_journal (stage : Stage) (entries : List Entry) :
    Publishes stage (entries.map .journal) stage where
  counted := by
    intro counter
    rw [Signal.count_map_journal, Nat.add_zero]
  gauge := by
    have silent : (entries.map Signal.journal).filterMap Signal.ratio? = [] := by
      rw [List.filterMap_map, List.filterMap_eq_nil_iff]
      intro entry _
      rfl
    rw [Signal.lastRatio?, silent]
    rfl

theorem refl (stage : Stage) : Publishes stage [] stage :=
  of_journal stage []

theorem trans (first : Publishes stage signals between) (second : Publishes between later next) :
    Publishes stage (signals ++ later) next where
  counted := by
    intro counter
    rw [second.counted, first.counted, Signal.count_append, Nat.add_assoc]
  gauge := by
    rw [← second.gauge, ← first.gauge, Signal.lastRatio?_append]
    cases Signal.lastRatio? later <;> rfl

end Publishes

def emitted (stage : Stage) : Event -> List Signal
  | .receive chunk => (stage.ingest chunk).signals
  | .attempt => stage.extract.signals
  | .take => []

theorem lastRatio?_concat_fill (signals : List Signal) (ratio : Float) :
    Signal.lastRatio? (signals ++ [.fill ratio]) = some ratio := by
  rw [Signal.lastRatio?_append]
  rfl

/-- Reception and attempts end by setting the gauge. -/
theorem lastRatio?_emitted (stage : Stage) (event : Event) (moves : event ≠ .take) :
    Signal.lastRatio? (stage.emitted event) = some (stage.undergo event).bytes.fillRatio := by
  cases event with
  | receive chunk =>
      exact lastRatio?_concat_fill (.increment .bytesIngested _ :: overflowSignals _ _ _) _
  | attempt => exact lastRatio?_concat_fill _ _
  | take => exact absurd rfl moves

theorem publishes_undergo (stage : Stage) (event : Event) :
    Publishes stage (stage.emitted event) (stage.undergo event) := by
  cases event with
  | receive chunk =>
      constructor
      · intro counter
        cases counter <;> simp [undergo, emitted, ingest, StageTotals.of]
      · rw [lastRatio?_emitted stage _ Event.noConfusion, Option.getD_some]
  | attempt =>
      constructor
      · intro counter
        simp only [undergo, emitted, extract]
        cases (stage.extractor.attempt stage.bytes stage.records).outcome <;>
          cases counter <;> simp [outcomeSignals, totalsAfter, StageTotals.of]
      · rw [lastRatio?_emitted stage _ Event.noConfusion, Option.getD_some]
  | take =>
      -- Only the record ring changes.
      rw [undergo, emitted, nextRecord?]
      cases stage.records.pop? with
      | none => exact .refl stage
      | some taken => exact ⟨fun _ => rfl, rfl⟩

theorem publishes_take {stage rest : Stage} {record : Record}
    (taken : stage.nextRecord? = some (record, rest)) : Publishes stage [] rest := by
  have publishes := stage.publishes_undergo .take
  rw [undergo, taken] at publishes
  exact publishes

theorem publishes_replay (stage : Stage) (events : List Event) :
    Publishes stage (stage.gather emitted events) (stage.replay events) := by
  induction events generalizing stage with
  | nil => exact .refl stage
  | cons event later inductionHypothesis =>
      exact (stage.publishes_undergo event).trans (inductionHypothesis _)

/-! ## No increment by zero -/

section

variable {stage : Stage} {counter : Counter}

theorem zero_notMem_overflow (dropped : Nat) (line : Nat -> Entry) (other : Counter) :
    Signal.increment counter 0 ∉ overflowSignals dropped line other := by
  unfold overflowSignals
  split
  · exact List.not_mem_nil
  · rename_i something
    intro member
    simp only [List.mem_cons, reduceCtorEq, Signal.increment.injEq, List.not_mem_nil, or_false,
      false_or] at member
    exact something member.2.symm

theorem zero_notMem_outcome {rules : ScanRules} {buffered : List UInt8} {outcome : Extraction}
    (reading : Reading rules buffered outcome) (pending : Nat) :
    Signal.increment counter 0 ∉ outcomeSignals pending outcome := by
  intro member
  cases outcome with
  | starved | incomplete => exact List.not_mem_nil member
  | produced length => simp [outcomeSignals] at member
  | resynced discarded =>
      have some : 0 < discarded := reading.consumed_positive_iff.2 rfl
      simp only [outcomeSignals, List.mem_singleton, Signal.increment.injEq] at member
      exact Nat.ne_of_lt some member.2

/-- Received bytes apart, what is counted is something. -/
theorem zero_notMem_emitted (sound : stage.Sound) (event : Event)
    (other : counter ≠ .bytesIngested) :
    Signal.increment counter 0 ∉ stage.emitted event := by
  intro member
  cases event with
  | receive chunk =>
      simp only [emitted, ingest, List.mem_cons, List.mem_append, Signal.increment.injEq,
        reduceCtorEq, List.not_mem_nil, or_false] at member
      rcases member with ⟨same, _⟩ | member
      · exact other same
      · exact zero_notMem_overflow _ _ _ member
  | attempt =>
      simp only [emitted, extract, List.mem_append, List.mem_map, List.mem_singleton, reduceCtorEq,
        and_false, exists_false, false_or, or_false] at member
      rcases member with member | member
      · exact zero_notMem_outcome (extract_reading sound) _ member
      · exact zero_notMem_overflow _ _ _ member
  | take => exact List.not_mem_nil member

theorem zero_notMem_gather (sound : stage.Sound) (events : List Event)
    (other : counter ≠ .bytesIngested) :
    Signal.increment counter 0 ∉ stage.gather emitted events := by
  intro member
  rcases exists_of_mem_gather member with ⟨earlier, event, observed⟩
  exact zero_notMem_emitted (sound.replay earlier) event other observed

end

/-! ## Calls -/

def callSignals (stage : Stage) : Call -> List Signal
  | .ingest chunk => (stage.ingest chunk).signals
  | .extract => stage.extract.signals
  | .flush => stage.flush.signals
  | .nextRecord => []

def signalsOf (stage : Stage) : List Call -> List Signal
  | [] => []
  | call :: later => stage.callSignals call ++ (stage.perform call).signalsOf later

theorem flushWithin_signals (attempts : Nat) (stage : Stage) :
    (flushWithin attempts stage).signals =
      stage.gather emitted (List.replicate (attemptsWithin attempts stage) .attempt) := by
  induction attempts generalizing stage with
  | zero => rfl
  | succ attempts inductionHypothesis =>
      rw [flushWithin, attemptsWithin]
      split
      · rw [List.replicate_succ, gather]
        exact congrArg (stage.extract.signals ++ ·) (inductionHypothesis stage.extract.stage)
      · exact (List.append_nil _).symm

theorem callSignals_eq (stage : Stage) (call : Call) :
    stage.callSignals call = stage.gather emitted (stage.callEvents call) := by
  cases call with
  | ingest | extract => exact (List.append_nil _).symm
  | flush => exact flushWithin_signals _ _
  | nextRecord => rfl

theorem signalsOf_eq (stage : Stage) (calls : List Call) :
    stage.signalsOf calls = stage.gather emitted (stage.eventsOf calls) := by
  induction calls generalizing stage with
  | nil => rfl
  | cons call later inductionHypothesis =>
      rw [signalsOf, eventsOf, gather_append, ← perform_eq, callSignals_eq, inductionHypothesis]

theorem publishes_flush (stage : Stage) :
    Publishes stage stage.flush.signals stage.flush.stage := by
  have publishes := stage.publishes_replay (stage.callEvents .flush)
  rw [← callSignals_eq, ← perform_eq] at publishes
  exact publishes

/-- A flush makes at least one attempt, which sets the gauge. -/
theorem lastRatio?_callSignals (stage : Stage) {call : Call} (moves : call ≠ .nextRecord) :
    Signal.lastRatio? (stage.callSignals call) ≠ none := by
  have attempted : Signal.lastRatio? stage.extract.signals ≠ none :=
    Option.ne_none_iff_exists'.2 ⟨_, stage.lastRatio?_emitted .attempt Event.noConfusion⟩
  cases call with
  | ingest chunk =>
      exact Option.ne_none_iff_exists'.2
        ⟨_, stage.lastRatio?_emitted (.receive chunk) Event.noConfusion⟩
  | extract => exact attempted
  | flush =>
      rw [callSignals, flush, flushWithin]
      split
      · intro none
        exact attempted (Signal.lastRatio?_append_eq_none_iff.1 none).1
      · exact attempted
  | nextRecord => exact absurd rfl moves

theorem lastRatio?_signalsOf (stage : Stage) {calls : List Call} {call : Call}
    (member : call ∈ calls) (moves : call ≠ .nextRecord) :
    Signal.lastRatio? (stage.signalsOf calls) ≠ none := by
  induction calls generalizing stage with
  | nil => exact absurd member List.not_mem_nil
  | cons first later inductionHypothesis =>
      intro none
      obtain ⟨noneFirst, noneLater⟩ := Signal.lastRatio?_append_eq_none_iff.1 none
      rcases List.mem_cons.1 member with rfl | member
      · exact stage.lastRatio?_callSignals moves noneFirst
      · exact inductionHypothesis _ member noneLater

/-! ## Stages made from settings -/

/-- What was published by some calls on a stage made from the settings agrees
with what the stage they lead to has counted, and shows how full its byte ring
is. -/
structure Metered (settings : Settings) (calls : List Call) (signals : List Signal)
    (last : Stage) : Prop where
  counters : forall name, (Signal.metric? name signals).getD 0 = last.totals.metric name
  absent : forall name, name ≠ "uart_bytes_ingested_total" ->
    (Signal.metric? name signals = none ↔ last.totals.metric name = 0)
  gauge : (∃ call, call ∈ calls ∧ call ≠ .nextRecord) ->
    Signal.lastRatio? signals =
      some (last.bufferedBytes.toFloat / settings.byteCapacity.toFloat)

section

variable {settings : Settings} (accepted : settings.validate = .ok ()) (calls : List Call)

/-- What making a stage and some calls on it publish. -/
def published : List Signal :=
  (opened settings accepted).signals ++ (ofSettings settings accepted).signalsOf calls

theorem publishes_published :
    Publishes (ofSettings settings accepted) (published accepted calls)
      ((ofSettings settings accepted).after calls) := by
  apply (Publishes.of_journal _ [_]).trans
  rw [signalsOf_eq, after_eq]
  exact publishes_replay _ _

theorem count_published (counter : Counter) :
    Signal.count counter (published accepted calls) =
      ((ofSettings settings accepted).after calls).totals.of counter := by
  have nothing : (ofSettings settings accepted).totals.of counter = 0 := by
    cases counter <;> rfl
  rw [(publishes_published accepted calls).counted, nothing, Nat.zero_add]

theorem zero_notMem_published {counter : Counter} (other : counter ≠ .bytesIngested) :
    Signal.increment counter 0 ∉ published accepted calls := by
  intro member
  rcases List.mem_append.1 member with first | later
  · cases List.mem_singleton.1 first
  · rw [signalsOf_eq] at later
    exact zero_notMem_gather (sound_ofSettings accepted) _ other later

theorem metered :
    Metered settings calls (published accepted calls)
      ((ofSettings settings accepted).after calls) where
  counters := by
    intro name
    have same := funext fun counter => count_published accepted calls counter
    rw [Signal.getD_metric?, same, StageTotals.metric_eq]
  absent := by
    intro name other
    by_cases known : ∃ counter : Counter, name = counter.name
    · rcases known with ⟨counter, rfl⟩
      have others : counter ≠ .bytesIngested := by
        intro same
        exact other (congrArg Counter.name same)
      rw [Signal.metric?_name, StageTotals.metric_eq, Counter.named?_name,
        Signal.total?_eq_none_iff (zero_notMem_published accepted calls others), count_published]
      rfl
    · have unknown := Counter.named?_eq_none (not_exists.1 known)
      rw [Signal.metric?, StageTotals.metric_eq, unknown]
      exact ⟨fun _ => rfl, fun _ => rfl⟩
  gauge := by
    rintro ⟨call, member, moves⟩
    have conforms := (conforms_ofSettings accepted).replay
      ((ofSettings settings accepted).eventsOf calls)
    rw [← after_eq] at conforms
    have shown : Signal.lastRatio? (published accepted calls) ≠ none := by
      intro none
      exact lastRatio?_signalsOf _ member moves (Signal.lastRatio?_append_eq_none_iff.1 none).2
    rcases Option.ne_none_iff_exists'.1 shown with ⟨ratio, found⟩
    have current := (publishes_published accepted calls).gauge
    rw [found, Option.getD_some] at current
    rw [found, current, Ring.fillRatio, conforms.byteCapacity]
    rfl

end

end Stage

end TelemetryRelay
