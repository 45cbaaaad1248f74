import TelemetryRelay.Proofs.Frame.Attempt
import TelemetryRelay.Stage

/-!
# What happens to a stage

A stage offers four calls, but only three kinds of event ever happen to it:
bytes are received, an extraction attempt is made, or a waiting record is
taken.  A flush is a number of attempts, and how many depends on what the
stage holds.  What is true of a stage after any calls is therefore proved for
one event, and carried over the events of all calls by an induction that this
module makes once.

A sound stage has two valid rings.  Every event keeps it sound.
-/

namespace TelemetryRelay
namespace Stage

structure Sound (stage : Stage) : Prop where
  bytes : stage.bytes.Valid
  records : stage.records.Valid

theorem create_eq {settings : Settings} (accepted : settings.validate = .ok ()) :
    create settings = .ok (opened settings accepted) := by
  unfold create
  split
  · rename_i rejected
    rw [accepted] at rejected
    cases rejected
  · rfl

theorem sound_ofSettings {settings : Settings} (accepted : settings.validate = .ok ()) :
    (ofSettings settings accepted).Sound := by
  have acceptable := settings.validate_eq_ok_iff.1 accepted
  exact ⟨Ring.valid_blank acceptable.byteCapacity_positive,
    Ring.valid_blank acceptable.recordCapacity_positive⟩

/-! ## Single operations -/

section

variable {stage : Stage}

/-- A sound stage accepts a chunk whole and counts what has to go for it. -/
theorem ingest_stage (sound : stage.Sound) (chunk : List UInt8) :
    (stage.ingest chunk).stage =
      { stage with
        bytes := stage.bytes.acceptAll chunk
        totals := { stage.totals with
          bytesIngested := stage.totals.bytesIngested + chunk.length
          bytesEvicted := stage.totals.bytesEvicted + stage.bytes.shortfall chunk.length } } := by
  simp only [ingest, Ring.enqueue_eq sound.bytes, Ring.totalEvicted_acceptAll sound.bytes,
    Nat.add_sub_cancel_left]

theorem extract_reading (sound : stage.Sound) :
    Reading stage.extractor.rules stage.bytes.toList stage.extract.result :=
  stage.extractor.attempt_reading sound.bytes sound.records

theorem extract_bytes (sound : stage.Sound) :
    stage.extract.stage.bytes = stage.bytes.advance stage.extract.result.consumed :=
  (stage.extractor.attempt_eq sound.bytes sound.records).2.1

theorem toList_extract_bytes (sound : stage.Sound) :
    stage.extract.stage.bytes.toList = stage.bytes.toList.drop stage.extract.result.consumed :=
  stage.extractor.toList_attempt_bytes sound.bytes sound.records

theorem length_extract_lt (sound : stage.Sound)
    (progress : stage.extract.result.madeProgress = true) :
    stage.extract.stage.bytes.length < stage.bytes.length := by
  have reading := extract_reading sound
  have positive := reading.consumed_positive_iff.2 progress
  have within := reading.consumed_le.1
  rw [Ring.length_toList sound.bytes] at within
  rw [extract_bytes sound]
  simp only [Ring.advance]
  omega

theorem extract_records (sound : stage.Sound) :
    stage.extract.stage.records =
      stage.extract.result.recordsAfter stage.bytes.toList stage.records :=
  (stage.extractor.attempt_eq sound.bytes sound.records).2.2.1

theorem extract_rules (sound : stage.Sound) :
    stage.extract.stage.extractor.rules = stage.extractor.rules :=
  (stage.extractor.attempt_eq sound.bytes sound.records).2.2.2

theorem nextRecord?_eq (sound : stage.Sound) :
    stage.nextRecord? = stage.records.toList.head?.map fun record =>
      (record, { stage with records := stage.records.advance 1 }) := by
  rw [nextRecord?, Ring.pop?_eq sound.records, Option.map_map]
  rfl

end

/-! ## Events -/

inductive Event where
  | receive (chunk : List UInt8)
  | attempt
  | take
deriving DecidableEq, Repr

def Event.bytes : Event -> List UInt8
  | receive chunk => chunk
  | attempt | take => []

/-- The stage after an event.  Where no record waits, none is taken. -/
def undergo (stage : Stage) : Event -> Stage
  | .receive chunk => (stage.ingest chunk).stage
  | .attempt => stage.extract.stage
  | .take =>
      match stage.nextRecord? with
      | none => stage
      | some (_, rest) => rest

def replay (stage : Stage) (events : List Event) : Stage :=
  events.foldl undergo stage

@[simp] theorem replay_nil (stage : Stage) : stage.replay [] = stage :=
  rfl

@[simp] theorem replay_cons (stage : Stage) (event : Event) (later : List Event) :
    stage.replay (event :: later) = (stage.undergo event).replay later :=
  rfl

theorem replay_append (stage : Stage) (first second : List Event) :
    stage.replay (first ++ second) = (stage.replay first).replay second :=
  List.foldl_append

section

variable {stage : Stage}

/-- Taking a record moves the cursor of the record ring, unless it is at the
end already. -/
theorem undergo_take (sound : stage.Sound) :
    stage.undergo .take =
      { stage with records := stage.records.advance (min 1 stage.records.length) } := by
  have size := Ring.length_toList sound.records
  rw [undergo, nextRecord?_eq sound]
  cases waiting : stage.records.toList with
  | nil =>
      rw [waiting, List.length_nil] at size
      rw [← size, Nat.min_zero, Ring.advance_zero sound.records]
      rfl
  | cons record later =>
      rw [waiting, List.length_cons] at size
      rw [← size, Nat.min_eq_left (Nat.succ_pos _)]
      rfl

theorem toList_undergo_take (sound : stage.Sound) :
    (stage.undergo .take).records.toList = stage.records.toList.drop 1 := by
  have size := Ring.length_toList sound.records
  rw [undergo_take sound, Ring.toList_advance sound.records (Nat.min_le_right _ _),
    List.drop_eq_drop_iff]
  omega

/-- The rings are advanced or accept something; both keep them valid. -/
theorem Sound.undergo (sound : stage.Sound) (event : Event) : (stage.undergo event).Sound := by
  cases event with
  | receive chunk =>
      rw [Stage.undergo, ingest_stage sound]
      exact ⟨Ring.valid_acceptAll sound.bytes chunk, sound.records⟩
  | attempt =>
      constructor
      · rw [Stage.undergo, extract_bytes sound]
        exact Ring.valid_advance sound.bytes _
      · rw [Stage.undergo, extract_records sound]
        cases stage.extract.result with
        | starved | incomplete | resynced => exact sound.records
        | produced => exact Ring.valid_accept sound.records _
  | take =>
      rw [undergo_take sound]
      exact ⟨sound.bytes, Ring.valid_advance sound.records _⟩

theorem Sound.replay (sound : stage.Sound) (events : List Event) :
    (stage.replay events).Sound := by
  induction events generalizing stage with
  | nil => exact sound
  | cons event later inductionHypothesis => exact inductionHypothesis (sound.undergo event)

theorem toList_replay_take (sound : stage.Sound) (count : Nat) :
    (stage.replay (List.replicate count .take)).records.toList =
      stage.records.toList.drop count := by
  induction count generalizing stage with
  | zero => rfl
  | succ count inductionHypothesis =>
      rw [List.replicate_succ, replay_cons, inductionHypothesis (sound.undergo .take),
        toList_undergo_take sound, List.drop_drop, Nat.add_comm]

/-- It leaves everything but the record ring alone. -/
theorem replay_take_eq (sound : stage.Sound) (count : Nat) :
    stage.replay (List.replicate count .take) =
      { stage with records := (stage.replay (List.replicate count .take)).records } := by
  induction count generalizing stage with
  | zero => rfl
  | succ count inductionHypothesis =>
      rw [List.replicate_succ, replay_cons, inductionHypothesis (sound.undergo .take),
        undergo_take sound]

theorem rules_undergo (sound : stage.Sound) (event : Event) :
    (stage.undergo event).extractor.rules = stage.extractor.rules := by
  cases event with
  | receive => rfl
  | attempt => exact extract_rules sound
  | take => rw [undergo_take sound]

theorem rules_replay (sound : stage.Sound) (events : List Event) :
    (stage.replay events).extractor.rules = stage.extractor.rules := by
  induction events generalizing stage with
  | nil => rfl
  | cons event later inductionHypothesis =>
      rw [replay_cons, inductionHypothesis (sound.undergo event), rules_undergo sound]

theorem byteCapacity_undergo (sound : stage.Sound) (event : Event) :
    (stage.undergo event).bytes.capacity = stage.bytes.capacity := by
  cases event with
  | receive chunk =>
      rw [undergo, ingest_stage sound]
      exact Ring.capacity_acceptAll _ _
  | attempt =>
      rw [undergo, extract_bytes sound]
      rfl
  | take => rw [undergo_take sound]

theorem recordCapacity_undergo (sound : stage.Sound) (event : Event) :
    (stage.undergo event).records.capacity = stage.records.capacity := by
  cases event with
  | receive => rfl
  | attempt =>
      rw [undergo, extract_records sound]
      cases stage.extract.result with
      | starved | incomplete | resynced => rfl
      | produced => exact Ring.capacity_accept _ _
  | take =>
      rw [undergo_take sound]
      rfl

end

/-! ## Calls -/

inductive Call where
  | ingest (chunk : List UInt8)
  | extract
  | flush
  | nextRecord
deriving DecidableEq, Repr

def Call.bytes : Call -> List UInt8
  | ingest chunk => chunk
  | extract | flush | nextRecord => []

def perform (stage : Stage) : Call -> Stage
  | .ingest chunk => (stage.ingest chunk).stage
  | .extract => stage.extract.stage
  | .flush => stage.flush.stage
  | .nextRecord =>
      match stage.nextRecord? with
      | none => stage
      | some (_, rest) => rest

def after (stage : Stage) (calls : List Call) : Stage :=
  calls.foldl perform stage

/-- Number of attempts in a flush that may make the given number of them. -/
def attemptsWithin : Nat -> Stage -> Nat
  | 0, _ => 0
  | attempts + 1, stage =>
      if stage.extract.result.madeProgress then attemptsWithin attempts stage.extract.stage + 1
      else 1

def callEvents (stage : Stage) : Call -> List Event
  | .ingest chunk => [.receive chunk]
  | .extract => [.attempt]
  | .flush => List.replicate (attemptsWithin (stage.bufferedBytes + 1) stage) .attempt
  | .nextRecord => [.take]

def eventsOf (stage : Stage) : List Call -> List Event
  | [] => []
  | call :: later => stage.callEvents call ++ (stage.perform call).eventsOf later

theorem flushWithin_stage (attempts : Nat) (stage : Stage) :
    (flushWithin attempts stage).stage =
      stage.replay (List.replicate (attemptsWithin attempts stage) .attempt) := by
  induction attempts generalizing stage with
  | zero => rfl
  | succ attempts inductionHypothesis =>
      rw [flushWithin, attemptsWithin]
      split
      · rw [List.replicate_succ, replay_cons]
        exact inductionHypothesis stage.extract.stage
      · rfl

theorem perform_eq (stage : Stage) (call : Call) :
    stage.perform call = stage.replay (stage.callEvents call) := by
  cases call with
  | ingest | extract | nextRecord => rfl
  | flush => exact flushWithin_stage _ _

theorem after_eq (stage : Stage) (calls : List Call) :
    stage.after calls = stage.replay (stage.eventsOf calls) := by
  induction calls generalizing stage with
  | nil => rfl
  | cons call later inductionHypothesis =>
      rw [eventsOf, replay_append, ← perform_eq]
      exact inductionHypothesis (stage.perform call)

theorem bytes_callEvents (stage : Stage) (call : Call) :
    (stage.callEvents call).flatMap Event.bytes = call.bytes := by
  cases call with
  | ingest chunk => exact List.append_nil chunk
  | extract | nextRecord => rfl
  | flush =>
      refine List.flatMap_eq_nil_iff.2 ?_
      intro event member
      rw [List.eq_of_mem_replicate member]
      rfl

theorem bytes_eventsOf (stage : Stage) (calls : List Call) :
    (stage.eventsOf calls).flatMap Event.bytes = calls.flatMap Call.bytes := by
  induction calls generalizing stage with
  | nil => rfl
  | cons call later inductionHypothesis =>
      rw [eventsOf, List.flatMap_append, bytes_callEvents, inductionHypothesis, List.flatMap_cons]

/-! ## What is observed along the events -/

section

variable {α β : Type}

/-- What is observed at one event after the other. -/
def gather (observe : Stage -> Event -> List α) (stage : Stage) : List Event -> List α
  | [] => []
  | event :: later => observe stage event ++ (stage.undergo event).gather observe later

theorem gather_append (observe : Stage -> Event -> List α) (stage : Stage)
    (first second : List Event) :
    stage.gather observe (first ++ second) =
      stage.gather observe first ++ (stage.replay first).gather observe second := by
  induction first generalizing stage with
  | nil => rfl
  | cons event later inductionHypothesis =>
      rw [List.cons_append, gather, inductionHypothesis, gather, List.append_assoc]
      rfl

/-- What is made of the gathered observations, if it is made of them piece by
piece, can be gathered itself. -/
theorem gather_piecewise (observe : Stage -> Event -> List α) (make : List α -> List β)
    (nothing : make [] = [])
    (piecewise : forall first second, make (first ++ second) = make first ++ make second)
    (stage : Stage) (events : List Event) :
    make (stage.gather observe events) =
      stage.gather (fun stage event => make (observe stage event)) events := by
  induction events generalizing stage with
  | nil => exact nothing
  | cons event later inductionHypothesis =>
      rw [gather, piecewise, inductionHypothesis, gather]

theorem gather_eq_nil {observe : Stage -> Event -> List α} {events : List Event}
    (silent : forall stage event, event ∈ events -> observe stage event = []) (stage : Stage) :
    stage.gather observe events = [] := by
  induction events generalizing stage with
  | nil => rfl
  | cons event later inductionHypothesis =>
      have rest := inductionHypothesis fun stage event member =>
        silent stage event (List.mem_cons_of_mem _ member)
      rw [gather, silent stage event List.mem_cons_self, rest, List.append_nil]

/-- What does not depend on the stage is gathered from the events. -/
theorem gather_eq_flatMap (observe : Event -> List α) (stage : Stage) (events : List Event) :
    stage.gather (fun _ event => observe event) events = events.flatMap observe := by
  induction events generalizing stage with
  | nil => rfl
  | cons event later inductionHypothesis =>
      rw [gather, inductionHypothesis, List.flatMap_cons]

/-- Whatever is gathered was observed at one of the events, and what is
gathered before it was observed by then. -/
theorem exists_of_gather_eq {observe : Stage -> Event -> List α} {stage : Stage}
    {events : List Event} {before behind : List α} {item : α}
    (gathered : stage.gather observe events = before ++ item :: behind) :
    ∃ earlier event later front back,
      events = earlier ++ event :: later ∧
        observe (stage.replay earlier) event = front ++ item :: back ∧
        before = stage.gather observe earlier ++ front := by
  induction events generalizing stage before with
  | nil =>
      exact absurd gathered.symm
        (List.append_ne_nil_of_right_ne_nil _ (List.cons_ne_nil _ _))
  | cons event later inductionHypothesis =>
      rcases List.append_eq_append_iff.1 gathered with ⟨front, rfl, rest⟩ | ⟨front, observed, rest⟩
      · rcases inductionHypothesis rest with ⟨earlier, found, after, front, back, rfl, here, rfl⟩
        exact ⟨event :: earlier, found, after, front, back, rfl, here,
          (List.append_assoc _ _ _).symm⟩
      · cases front with
        | nil =>
            -- The first event observed exactly what stands before the item.
            have behindAll : (stage.undergo event).gather observe later = [] ++ item :: behind :=
              rest.symm
            rcases inductionHypothesis behindAll with
              ⟨earlier, found, after, front, back, rfl, here, none⟩
            refine ⟨event :: earlier, found, after, front, back, rfl, here, ?_⟩
            rw [gather, observed, List.append_nil, List.append_assoc, ← none, List.append_nil]
        | cons first back =>
            cases rest
            exact ⟨[], event, later, before, back, rfl, observed, rfl⟩

theorem exists_of_mem_gather {observe : Stage -> Event -> List α} {stage : Stage}
    {events : List Event} {item : α} (member : item ∈ stage.gather observe events) :
    ∃ earlier event, item ∈ observe (stage.replay earlier) event := by
  rcases List.append_of_mem member with ⟨before, behind, gathered⟩
  rcases exists_of_gather_eq gathered with ⟨earlier, event, _, front, back, _, observed, _⟩
  exact ⟨earlier, event, observed ▸ List.mem_append_right front List.mem_cons_self⟩

/-- What a stage holds and what comes in is what goes out and what the stage
holds in the end, provided that this is so at each event. -/
theorem held_gather {held : Stage -> List α} {incoming outgoing : Stage -> Event -> List α}
    (balanced : forall (stage : Stage) (event : Event), stage.Sound ->
      held stage ++ incoming stage event = outgoing stage event ++ held (stage.undergo event))
    {stage : Stage} (sound : stage.Sound) (events : List Event) :
    held stage ++ stage.gather incoming events =
      stage.gather outgoing events ++ held (stage.replay events) := by
  induction events generalizing stage with
  | nil => exact List.append_nil (held stage)
  | cons event later inductionHypothesis =>
      rw [gather, gather, ← List.append_assoc, balanced stage event sound, List.append_assoc,
        inductionHypothesis (sound.undergo event), List.append_assoc, replay_cons]

end

end Stage
end TelemetryRelay
