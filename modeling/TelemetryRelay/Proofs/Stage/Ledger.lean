import Mathlib.Algebra.GroupWithZero.Nat
import TelemetryRelay.Proofs.Stage.Events

/-!
# Where the bytes and the records of a stage go

Bytes leave the byte ring by three routes: they are dropped for newer ones,
they are discarded because no frame can begin with them, or they become a
frame.  The ledger of a stage lists them in the order in which they left, one
segment for each event that moved the front of the ring.  Read off in this
order and followed by what is still buffered, the segments are the received
stream, whatever was called in whatever order and however large the chunks
were.

A second ledger lists the records that left the record ring, and whether they
were dropped or taken.  Followed by the waiting records it is the sequence of
the extracted frames, each filled up to the width of a record.

The stage itself keeps totals only.  They are the lengths of these lists.
-/

namespace TelemetryRelay
namespace Stage

open Window (IsFrame)

/-! ## The segments of a stream -/

/-- How bytes leave the byte ring. -/
inductive Route where
  /-- They were dropped for newer ones. -/
  | evicted
  /-- They were discarded on the way to a frame. -/
  | resynced
  /-- They were a frame. -/
  | produced
deriving DecidableEq, Repr

/-- Bytes that left the byte ring at once, the oldest first. -/
structure Segment where
  route : Route
  bytes : List UInt8
deriving DecidableEq, Repr

namespace Segment

def leaving (route : Route) (segments : List Segment) : List Segment :=
  segments.filter fun segment => segment.route = route

def bytesBy (route : Route) (segments : List Segment) : List UInt8 :=
  (leaving route segments).flatMap bytes

def frames (segments : List Segment) : List (List UInt8) :=
  (leaving .produced segments).map bytes

/-- The place in the stream at which the segment with the given index
begins. -/
def offset (segments : List Segment) (index : Nat) : Nat :=
  ((segments.take index).flatMap bytes).length

theorem leaving_append (route : Route) (first second : List Segment) :
    leaving route (first ++ second) = leaving route first ++ leaving route second :=
  List.filter_append _ _

theorem bytesBy_append (route : Route) (first second : List Segment) :
    bytesBy route (first ++ second) = bytesBy route first ++ bytesBy route second := by
  rw [bytesBy, leaving_append, List.flatMap_append]
  rfl

theorem frames_append (first second : List Segment) :
    frames (first ++ second) = frames first ++ frames second := by
  rw [frames, leaving_append, List.map_append]
  rfl

theorem leaving_singleton (route : Route) (segment : Segment) :
    leaving route [segment] = if segment.route = route then [segment] else [] := by
  by_cases same : segment.route = route
  · rw [leaving, List.filter_cons_of_pos (by simpa using same), if_pos same]
    rfl
  · rw [leaving, List.filter_cons_of_neg (by simpa using same), if_neg same]
    rfl

theorem bytesBy_singleton (route : Route) (segment : Segment) :
    bytesBy route [segment] = if segment.route = route then segment.bytes else [] := by
  rw [bytesBy, leaving_singleton]
  split
  · exact List.flatMap_singleton bytes segment
  · rfl

theorem bytesBy_eq_nil {route : Route} {segments : List Segment}
    (none : forall segment, segment ∈ segments -> segment.route ≠ route) :
    bytesBy route segments = [] := by
  have absent : leaving route segments = [] := by
    rw [leaving, List.filter_eq_nil_iff]
    intro segment member same
    exact none segment member (of_decide_eq_true same)
  rw [bytesBy, absent]
  rfl

theorem frames_singleton (segment : Segment) :
    frames [segment] = if segment.route = .produced then [segment.bytes] else [] := by
  rw [frames, leaving_singleton]
  split
  · rfl
  · rfl

theorem length_flatMap_bytes (segments : List Segment) :
    (segments.flatMap bytes).length =
      (bytesBy .evicted segments).length + (bytesBy .resynced segments).length +
        ((frames segments).map List.length).sum := by
  induction segments with
  | nil => rfl
  | cons segment later inductionHypothesis =>
      rw [← List.singleton_append, bytesBy_append, bytesBy_append, frames_append,
        List.flatMap_append, List.map_append, List.sum_append, List.length_append,
        List.length_append, List.length_append, inductionHypothesis, bytesBy_singleton,
        bytesBy_singleton, frames_singleton, List.flatMap_singleton]
      cases segment.route with
      | evicted =>
          simp only [if_true, reduceCtorEq, if_false, List.length_nil, List.map_nil, List.sum_nil]
          omega
      | resynced =>
          simp only [if_true, reduceCtorEq, if_false, List.length_nil, List.map_nil, List.sum_nil]
          omega
      | produced =>
          simp only [if_true, reduceCtorEq, if_false, List.length_nil, List.map_cons, List.map_nil,
            List.sum_cons, List.sum_nil]
          omega

section

variable {segments : List Segment} {rest : List UInt8}

/-- A segment stands in the stream at its offset. -/
theorem take_drop_offset {index : Nat} {segment : Segment}
    (found : segments[index]? = some segment) :
    ((segments.flatMap bytes ++ rest).drop (offset segments index)).take segment.bytes.length =
      segment.bytes := by
  rcases List.getElem?_eq_some_iff.1 found with ⟨inside, here⟩
  have split : segments = segments.take index ++ segment :: segments.drop (index + 1) := by
    rw [← here, ← List.drop_eq_getElem_cons inside, List.take_append_drop]
  have stream : segments.flatMap bytes ++ rest =
      (segments.take index).flatMap bytes ++
        (segment.bytes ++ ((segments.drop (index + 1)).flatMap bytes ++ rest)) := by
    conv_lhs => rw [split]
    rw [List.flatMap_append, List.flatMap_cons, List.append_assoc, List.append_assoc]
  rw [stream, offset, List.drop_left, List.take_left]

/-- A segment is over before a later one begins. -/
theorem offset_add_length_le {first second : Nat} (before : first < second) {segment : Segment}
    (found : segments[first]? = some segment) :
    offset segments first + segment.bytes.length ≤ offset segments second := by
  rcases List.getElem?_eq_some_iff.1 found with ⟨inside, here⟩
  have through : offset segments (first + 1) = offset segments first + segment.bytes.length := by
    rw [offset, List.take_succ_eq_append_getElem inside, here, List.flatMap_append,
      List.length_append, List.flatMap_singleton]
    rfl
  rw [← through]
  have earlier : segments.take (first + 1) <+: segments.take second :=
    List.take_prefix_take_left before
  rcases earlier with ⟨between, whole⟩
  rw [offset, offset, ← whole, List.flatMap_append, List.length_append]
  exact Nat.le_add_right _ _

end

end Segment

/-- The segments that leave the byte ring at an event.  Reception makes a
segment even if nothing had to go for it. -/
def departures (stage : Stage) : Event -> List Segment
  | .receive chunk =>
      let dropped := (stage.ingest chunk).stage.bytes.totalEvicted - stage.bytes.totalEvicted
      [{ route := .evicted, bytes := (stage.bytes.toList ++ chunk).take dropped }]
  | .attempt =>
      match stage.extract.result with
      | .resynced discarded =>
          [{ route := .resynced, bytes := stage.bytes.toList.take discarded }]
      | .produced length => [{ route := .produced, bytes := stage.bytes.toList.take length }]
      | .starved | .incomplete => []
  | .take => []

def segments (stage : Stage) (events : List Event) : List Segment :=
  stage.gather departures events

theorem segments_append (stage : Stage) (first second : List Event) :
    stage.segments (first ++ second) =
      stage.segments first ++ (stage.replay first).segments second :=
  stage.gather_append departures first second

theorem segments_singleton (stage : Stage) (event : Event) :
    stage.segments [event] = stage.departures event :=
  List.append_nil _

theorem segments_takes (count : Nat) (stage : Stage) :
    stage.segments (List.replicate count .take) = [] := by
  apply gather_eq_nil
  intro stage event member
  rw [List.eq_of_mem_replicate member]
  rfl

/-- Attempts drop nothing for newer bytes. -/
theorem route_of_attempts {stage : Stage} {count : Nat} {segment : Segment}
    (member : segment ∈ stage.segments (List.replicate count .attempt)) :
    segment.route = .resynced ∨ segment.route = .produced := by
  induction count generalizing stage with
  | zero => exact absurd member List.not_mem_nil
  | succ count inductionHypothesis =>
      rw [List.replicate_succ, segments, gather] at member
      rcases List.mem_append.1 member with here | behind
      · rw [departures] at here
        cases ending : stage.extract.result with
        | starved | incomplete =>
            rw [ending] at here
            exact absurd here List.not_mem_nil
        | resynced =>
            rw [ending] at here
            exact .inl (congrArg Segment.route (List.mem_singleton.1 here))
        | produced =>
            rw [ending] at here
            exact .inr (congrArg Segment.route (List.mem_singleton.1 here))
      · exact inductionHypothesis behind

/-! ## The fates of the records -/

/-- A record that left the record ring. -/
structure Dismissal where
  record : Record
  /-- Whether the record was taken.  Otherwise it was dropped. -/
  taken : Bool
deriving DecidableEq

namespace Dismissal

/-- Records that leave together share their fate. -/
def all (taken : Bool) (records : List Record) : List Dismissal :=
  records.map fun record => { record, taken }

def takenRecords (dismissed : List Dismissal) : List Record :=
  (dismissed.filter taken).map record

def droppedRecords (dismissed : List Dismissal) : List Record :=
  (dismissed.filter fun dismissal => !dismissal.taken).map record

theorem takenRecords_append (first second : List Dismissal) :
    takenRecords (first ++ second) = takenRecords first ++ takenRecords second := by
  rw [takenRecords, List.filter_append, List.map_append]
  rfl

theorem droppedRecords_append (first second : List Dismissal) :
    droppedRecords (first ++ second) = droppedRecords first ++ droppedRecords second := by
  rw [droppedRecords, List.filter_append, List.map_append]
  rfl

theorem map_record_all (taken : Bool) (records : List Record) :
    (all taken records).map record = records := by
  rw [all, List.map_map]
  exact List.map_id records

theorem takenRecords_all (taken : Bool) (records : List Record) :
    takenRecords (all taken records) = if taken then records else [] := by
  rw [takenRecords, all, List.filter_map, List.map_map]
  cases taken with
  | false => exact congrArg _ (List.filter_false records)
  | true => exact (congrArg _ (List.filter_true records)).trans (List.map_id records)

theorem droppedRecords_all (taken : Bool) (records : List Record) :
    droppedRecords (all taken records) = if taken then [] else records := by
  rw [droppedRecords, all, List.filter_map, List.map_map]
  cases taken with
  | false => exact (congrArg _ (List.filter_true records)).trans (List.map_id records)
  | true => exact congrArg _ (List.filter_false records)

theorem length_takenRecords_add (dismissed : List Dismissal) :
    (takenRecords dismissed).length + (droppedRecords dismissed).length = dismissed.length := by
  rw [takenRecords, droppedRecords, List.length_map, List.length_map]
  exact (List.length_eq_length_filter_add taken).symm

theorem takenRecords_eq_map {dismissed : List Dismissal}
    (all : forall dismissal, dismissal ∈ dismissed -> dismissal.taken = true) :
    takenRecords dismissed = dismissed.map record := by
  rw [takenRecords, List.filter_eq_self.2 all]

theorem takenRecords_sublist (dismissed : List Dismissal) :
    (takenRecords dismissed).Sublist (dismissed.map record) :=
  List.filter_sublist.map record

end Dismissal

/-- The records that leave the record ring at an event. -/
def dismissals (stage : Stage) : Event -> List Dismissal
  | .receive _ => []
  | .attempt =>
      let dropped := stage.extract.stage.records.totalEvicted - stage.records.totalEvicted
      Dismissal.all false (stage.records.toList.take dropped)
  | .take => Dismissal.all true (stage.nextRecord?.map Prod.fst).toList

def dismissed (stage : Stage) (events : List Event) : List Dismissal :=
  stage.gather dismissals events

theorem dismissed_append (stage : Stage) (first second : List Event) :
    stage.dismissed (first ++ second) =
      stage.dismissed first ++ (stage.replay first).dismissed second :=
  stage.gather_append dismissals first second

/-! ## The ledgers balance at each event -/

section

variable {stage : Stage}

theorem departures_receive (sound : stage.Sound) (chunk : List UInt8) :
    stage.departures (.receive chunk) =
      [{ route := .evicted
         bytes := (stage.bytes.toList ++ chunk).take (stage.bytes.shortfall chunk.length) }] := by
  simp only [departures, ingest_stage sound, Ring.totalEvicted_acceptAll sound.bytes,
    Nat.add_sub_cancel_left]

theorem dismissals_attempt (sound : stage.Sound) :
    stage.dismissals .attempt =
      match stage.extract.result with
      | .produced _ => Dismissal.all false (stage.records.toList.take (stage.records.shortfall 1))
      | .starved | .incomplete | .resynced _ => [] := by
  simp only [dismissals, extract_records sound]
  cases stage.extract.result with
  | starved | incomplete | resynced =>
      simp only [Extraction.recordsAfter, Nat.sub_self, List.take_zero]
      rfl
  | produced length =>
      have counted (record : Record) : (stage.records.accept record).totalEvicted =
          stage.records.totalEvicted + stage.records.shortfall 1 := rfl
      simp only [Extraction.recordsAfter, counted, Nat.add_sub_cancel_left]

theorem dismissals_take (sound : stage.Sound) :
    stage.dismissals .take = Dismissal.all true (stage.records.toList.take 1) := by
  rw [dismissals, nextRecord?_eq sound]
  cases stage.records.toList <;> rfl

/-- Buffered and received bytes leave the byte ring or are buffered
afterwards, in the same order. -/
theorem stream_undergo (event : Event) (sound : stage.Sound) :
    stage.bytes.toList ++ event.bytes =
      (stage.departures event).flatMap Segment.bytes ++ (stage.undergo event).bytes.toList := by
  cases event with
  | receive chunk =>
      rw [departures_receive sound, undergo, ingest_stage sound, List.flatMap_singleton,
        Ring.toList_acceptAll sound.bytes, List.take_append_drop]
      rfl
  | attempt =>
      rw [undergo, toList_extract_bytes sound, departures, Event.bytes, List.append_nil]
      cases stage.extract.result with
      | starved | incomplete => rfl
      | resynced | produced =>
          rw [List.flatMap_singleton]
          exact (List.take_append_drop _ _).symm
  | take =>
      rw [undergo_take sound]
      exact List.append_nil _

/-- Waiting and extracted records leave the record ring or wait afterwards, in
the same order. -/
theorem records_undergo (event : Event) (sound : stage.Sound) :
    stage.records.toList ++ (Segment.frames (stage.departures event)).map Record.pad =
      (stage.dismissals event).map Dismissal.record ++ (stage.undergo event).records.toList := by
  cases event with
  | receive chunk =>
      rw [departures_receive sound]
      exact List.append_nil _
  | attempt =>
      rw [undergo, extract_records sound, dismissals_attempt sound, departures]
      cases stage.extract.result with
      | starved | incomplete | resynced => exact List.append_nil _
      | produced length =>
          simp only [Extraction.recordsAfter, Ring.toList_accept sound.records,
            Dismissal.map_record_all]
          rw [← List.append_assoc, List.take_append_drop]
          rfl
  | take =>
      rw [dismissals_take sound, Dismissal.map_record_all, toList_undergo_take sound,
        List.take_append_drop]
      exact List.append_nil _

theorem totals_attempt :
    (stage.undergo .attempt).totals =
      { totalsAfter stage.totals stage.extract.result with
        recordsEvicted := stage.totals.recordsEvicted +
          (stage.extract.stage.records.totalEvicted - stage.records.totalEvicted) } := by
  rw [undergo, extract]
  cases (stage.extractor.attempt stage.bytes stage.records).outcome <;> rfl

theorem totalEvicted_extract (sound : stage.Sound) :
    stage.extract.stage.records.totalEvicted - stage.records.totalEvicted =
      (Dismissal.droppedRecords (stage.dismissals .attempt)).length := by
  have within : stage.extract.stage.records.totalEvicted - stage.records.totalEvicted ≤
      stage.records.toList.length := by
    rw [extract_records sound, Ring.length_toList sound.records]
    cases stage.extract.result with
    | starved | incomplete | resynced => exact Nat.sub_self _ ▸ Nat.zero_le _
    | produced length =>
        refine Nat.le_trans (Nat.le_of_eq (Nat.add_sub_cancel_left _ _)) ?_
        exact Ring.shortfall_le_length sound.records sound.records.capacity_positive
  rw [dismissals, Dismissal.droppedRecords_all, if_neg Bool.false_ne_true,
    List.length_take_of_le within]

/-- The totals after an event, read off the ledgers. -/
theorem totals_undergo (event : Event) (sound : stage.Sound) :
    (stage.undergo event).totals =
      { bytesIngested := stage.totals.bytesIngested + event.bytes.length
        bytesEvicted := stage.totals.bytesEvicted +
          (Segment.bytesBy .evicted (stage.departures event)).length
        bytesResynced := stage.totals.bytesResynced +
          (Segment.bytesBy .resynced (stage.departures event)).length
        framesExtracted := stage.totals.framesExtracted +
          (Segment.frames (stage.departures event)).length
        recordsEvicted := stage.totals.recordsEvicted +
          (Dismissal.droppedRecords (stage.dismissals event)).length } := by
  cases event with
  | receive chunk =>
      have within : stage.bytes.shortfall chunk.length ≤ (stage.bytes.toList ++ chunk).length := by
        rw [List.length_append, Ring.shortfall]
        omega
      have size := List.length_take_of_le within
      rw [departures_receive sound, undergo, ingest_stage sound]
      simp [Segment.bytesBy_singleton, Segment.frames_singleton, size, Event.bytes, dismissals,
        Dismissal.droppedRecords]
  | attempt =>
      have reading := extract_reading sound
      rw [totals_attempt, totalEvicted_extract sound, departures]
      cases ending : stage.extract.result with
      | starved | incomplete => rfl
      | resynced discarded | produced length =>
          rw [ending] at reading
          have size := List.length_take_of_le reading.consumed_le.1
          simp only [Extraction.consumed] at size
          simp [Segment.bytesBy_singleton, Segment.frames_singleton, size, totalsAfter,
            Event.bytes]
  | take =>
      rw [undergo_take sound, dismissals_take sound, Dismissal.droppedRecords_all]
      rfl

/-- A segment that became a frame has the shape of one and fits into the
window. -/
theorem isFrame_of_departures (event : Event) (sound : stage.Sound) {frame : List UInt8}
    (member : frame ∈ Segment.frames (stage.departures event)) :
    IsFrame frame ∧ frame.length ≤ stage.extractor.rules.window := by
  cases event with
  | receive chunk =>
      rw [departures_receive sound, Segment.frames_singleton] at member
      exact absurd member List.not_mem_nil
  | attempt =>
      have reading := extract_reading sound
      rw [departures] at member
      cases ending : stage.extract.result with
      | starved | incomplete | resynced =>
          rw [ending] at member
          exact absurd member List.not_mem_nil
      | produced length =>
          rw [ending] at member reading
          have same : frame = stage.bytes.toList.take length := List.mem_singleton.1 member
          have bounded := reading.consumed_le
          rw [same]
          constructor
          · exact reading.isFrame_take
          · rw [List.length_take]
            exact Nat.le_trans (Nat.min_le_left _ _) bounded.2
  | take => exact absurd member List.not_mem_nil

end

/-! ## The ledgers balance after any events -/

section

variable {stage : Stage} (sound : stage.Sound) (events : List Event)

include sound

theorem stream_replay :
    stage.bytes.toList ++ events.flatMap Event.bytes =
      (stage.segments events).flatMap Segment.bytes ++ (stage.replay events).bytes.toList := by
  rw [segments, gather_piecewise departures _ rfl (fun _ _ => List.flatMap_append),
    ← gather_eq_flatMap Event.bytes stage events]
  exact held_gather (fun stage event sound => stream_undergo event sound) sound events

theorem records_replay :
    stage.records.toList ++ (Segment.frames (stage.segments events)).map Record.pad =
      (stage.dismissed events).map Dismissal.record ++ (stage.replay events).records.toList := by
  rw [segments, dismissed, gather_piecewise dismissals _ rfl (fun _ _ => List.map_append),
    gather_piecewise departures (fun segments => (Segment.frames segments).map Record.pad) rfl
      (fun first second => by rw [Segment.frames_append, List.map_append])]
  exact held_gather (fun stage event sound => records_undergo event sound) sound events

theorem totals_replay :
    (stage.replay events).totals =
      { bytesIngested := stage.totals.bytesIngested + (events.flatMap Event.bytes).length
        bytesEvicted := stage.totals.bytesEvicted +
          (Segment.bytesBy .evicted (stage.segments events)).length
        bytesResynced := stage.totals.bytesResynced +
          (Segment.bytesBy .resynced (stage.segments events)).length
        framesExtracted := stage.totals.framesExtracted +
          (Segment.frames (stage.segments events)).length
        recordsEvicted := stage.totals.recordsEvicted +
          (Dismissal.droppedRecords (stage.dismissed events)).length } := by
  induction events generalizing stage with
  | nil => rfl
  | cons event later inductionHypothesis =>
      rw [replay_cons, inductionHypothesis (sound.undergo event), totals_undergo event sound]
      simp only [segments, dismissed, gather, List.flatMap_cons, Segment.bytesBy_append,
        Segment.frames_append, Dismissal.droppedRecords_append, List.length_append, Nat.add_assoc]

theorem isFrame_of_segments {frame : List UInt8}
    (member : frame ∈ Segment.frames (stage.segments events)) :
    IsFrame frame ∧ frame.length ≤ stage.extractor.rules.window := by
  rw [segments, gather_piecewise departures _ rfl Segment.frames_append] at member
  rcases exists_of_mem_gather member with ⟨earlier, event, observed⟩
  rw [← rules_replay sound earlier]
  exact isFrame_of_departures event (sound.replay earlier) observed

end

/-! ## How far behind a dropped record is -/

section

variable {stage : Stage}

/-- An event drops at most one record, and only from a full record ring in
which the record of a new frame takes its place. -/
theorem dropped_at_event (event : Event) (sound : stage.Sound) {index : Nat} {record : Record}
    (found : (stage.dismissals event)[index]? = some { record, taken := false }) :
    index = 0 ∧ stage.records.length = stage.records.capacity ∧
      (Segment.frames (stage.departures event)).length = 1 := by
  have room := sound.records.2
  have inside := (List.getElem?_eq_some_iff.1 found).1
  cases event with
  | receive chunk => exact absurd inside (Nat.not_lt_zero _)
  | attempt =>
      rw [dismissals_attempt sound] at inside
      rw [departures]
      cases ending : stage.extract.result with
      | starved | incomplete | resynced =>
          rw [ending] at inside
          exact absurd inside (Nat.not_lt_zero _)
      | produced length =>
          rw [ending] at inside
          simp only [Dismissal.all, List.length_map, List.length_take, Ring.shortfall,
            Ring.free] at inside
          refine ⟨by omega, by omega, ?_⟩
          rw [Segment.frames_singleton]
          rfl
  | take =>
      rw [dismissals_take sound, Dismissal.all, List.getElem?_map] at found
      rcases Option.map_eq_some_iff.1 found with ⟨_, _, same⟩
      cases same

/-- When a record is dropped, at least as many newer ones are extracted, then
or earlier, as the record ring holds. -/
theorem dropped_behind (sound : stage.Sound) (events : List Event) {index : Nat} {record : Record}
    (found : (stage.dismissed events)[index]? = some { record, taken := false }) :
    index + stage.records.capacity <
      stage.records.length + (Segment.frames (stage.segments events)).length := by
  induction events generalizing stage index with
  | nil => cases found
  | cons event later inductionHypothesis =>
      have next := sound.undergo event
      have moved := congrArg List.length (records_undergo event sound)
      simp only [List.length_append, List.length_map, Ring.length_toList sound.records,
        Ring.length_toList next.records] at moved
      have frames : Segment.frames (stage.segments (event :: later)) =
          Segment.frames (stage.departures event) ++
            Segment.frames ((stage.undergo event).segments later) :=
        Segment.frames_append _ _
      have dismissals : stage.dismissed (event :: later) =
          stage.dismissals event ++ (stage.undergo event).dismissed later := rfl
      rw [dismissals] at found
      rw [frames, List.length_append]
      rcases Nat.lt_or_ge index (stage.dismissals event).length with here | behind
      · rw [List.getElem?_append_left here] at found
        rcases dropped_at_event event sound found with ⟨first, full, extracted⟩
        omega
      · rw [List.getElem?_append_right behind] at found
        have distance := inductionHypothesis next found
        rw [recordCapacity_undergo sound] at distance
        omega

end

end Stage
end TelemetryRelay
