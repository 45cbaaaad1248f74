import Mathlib.Data.List.TakeWhile
import TelemetryRelay.Proofs.Stage.Accounting

/-!
# Where a taken record comes from

A record leaves the stage long after the attempt that staged it, and others may
have been dropped or taken in between.  Still the attempt can be told.  Records
leave in the order in which their frames were extracted, so that the frames
that were extracted before it are those of the records that have left.

A record does not say how long its frame is.  What is read back from it are the
bytes before the first zero.  Nothing keeps zeros out of a frame, because only
braces are looked for when it is extracted.  So a taken record holds every byte
that the attempt consumed, but what is read back is all of them only if none is
zero; otherwise it is the beginning, and the closing brace may be missing.
-/

namespace TelemetryRelay

open Window (IsFrame frameStart frameEnd)

/-! ## What is read back from a record -/

/-- The record holds the whole frame, and what is read back from it ends before
the first zero. -/
structure Record.Keeps (record : Record) (frame : List UInt8) : Prop where
  bytes : record.bytes = frame ++ List.replicate (recordWidth - frame.length) 0
  readBack : record.frame = frame.takeWhile (· != 0)
  begins : record.frame.head? = some frameStart
  length_eq_iff : record.frame.length = frame.length ↔ 0 ∉ frame
  whole : 0 ∉ frame -> record.frame = frame ∧ record.frame.getLast? = some frameEnd

theorem Record.keeps_pad {frame : List UInt8} (framed : IsFrame frame)
    (fits : frame.length ≤ recordWidth) : (Record.pad frame).Keeps frame := by
  have readBack := Record.frame_pad_eq fits
  have whole (nonzero : 0 ∉ frame) := Record.frame_pad fits nonzero
  refine {
    bytes := Record.bytes_pad fits
    readBack
    begins := ?_
    length_eq_iff := ?_
    whole := fun nonzero => ⟨whole nonzero, (whole nonzero).symm ▸ framed.ends⟩ }
  · have first := framed.begins
    rw [readBack]
    cases frame with
    | nil => cases first
    | cons byte rest =>
        cases first
        rfl
  · constructor
    · intro same zero
      rw [readBack] at same
      have all := List.takeWhile_eq_self_iff.1 ((List.takeWhile_prefix _).eq_of_length same)
      exact absurd (all 0 zero) Bool.false_ne_true
    · intro nonzero
      rw [whole nonzero]

namespace Stage

/-! ## The attempt that staged a record -/

/-- An attempt on the stage takes the frame from the byte ring and hands the
record to the record ring. -/
structure Stages (stage : Stage) (frame : List UInt8) (record : Record) : Prop where
  produced : stage.extract.result = .produced frame.length
  consumed : stage.bytes.toList = frame ++ stage.extract.stage.bytes.toList
  accepted : stage.records.enqueueOne record = .ok stage.extract.stage.records

section

variable {stage : Stage}

theorem stages_of_produced (sound : stage.Sound) {length : Nat}
    (produced : stage.extract.result = .produced length) :
    stage.Stages (stage.bytes.toList.take length)
      (Record.pad (stage.bytes.toList.take length)) := by
  have reading := extract_reading sound
  have remaining := toList_extract_bytes sound
  have staged := extract_records sound
  rw [produced] at reading remaining staged
  have size := List.length_take_of_le reading.consumed_le.1
  simp only [Extraction.consumed] at size
  constructor
  · rw [produced, size]
  · rw [remaining]
    exact (List.take_append_drop _ _).symm
  · rw [Ring.enqueueOne_eq sound.records, staged]
    rfl

/-- Only an attempt makes a frame leave the byte ring, and it makes only
one. -/
theorem stages_of_departures (sound : stage.Sound) {event : Event} {front back : List (List UInt8)}
    {frame : List UInt8}
    (departed : Segment.frames (stage.departures event) = front ++ frame :: back) :
    event = .attempt ∧ front = [] ∧ stage.Stages frame (Record.pad frame) := by
  have none (silent : Segment.frames (stage.departures event) = []) : False := by
    rw [silent] at departed
    exact List.append_ne_nil_of_right_ne_nil front (List.cons_ne_nil frame back) departed.symm
  cases event with
  | receive chunk =>
      rw [departures_receive sound] at none
      exact absurd rfl none
  | attempt =>
      rw [departures] at departed none
      cases ending : stage.extract.result with
      | starved | incomplete | resynced =>
          rw [ending] at none
          exact absurd rfl none
      | produced length =>
          rw [ending, Segment.frames_singleton, if_pos rfl] at departed
          rcases List.singleton_eq_append_iff.1 departed with ⟨first, rest⟩ | ⟨_, impossible⟩
          · cases rest
            exact ⟨rfl, first, stages_of_produced sound ending⟩
          · cases impossible
  | take => exact absurd rfl none

/-- For every extracted frame there is the attempt that staged it, and the
frames in front of it are those that had been extracted by then. -/
theorem exists_staging (sound : stage.Sound) {events : List Event}
    {before behind : List (List UInt8)} {frame : List UInt8}
    (extracted : Segment.frames (stage.segments events) = before ++ frame :: behind) :
    ∃ earlier later, events = earlier ++ .attempt :: later ∧
      Segment.frames (stage.segments earlier) = before ∧
      (stage.replay earlier).Stages frame (Record.pad frame) := by
  have piecewise (events : List Event) :=
    gather_piecewise departures Segment.frames rfl Segment.frames_append stage events
  rw [segments, piecewise] at extracted
  rcases exists_of_gather_eq extracted with
    ⟨earlier, event, later, front, back, split, departed, others⟩
  rcases stages_of_departures (sound.replay earlier) departed with ⟨rfl, rfl, staged⟩
  refine ⟨earlier, later, split, ?_, staged⟩
  rw [segments, piecewise, others, List.append_nil]

end

/-- What is known of a record that is taken after the given events. -/
structure Origin (stage : Stage) (events : List Event) (record : Record) (earlier : List Event)
    (frame : List UInt8) : Prop where
  /-- The attempt is one of the events. -/
  attempted : ∃ later, events = earlier ++ .attempt :: later
  /-- The frames that had been extracted by then are those of the records that
  have left. -/
  counted : (Segment.frames (stage.segments earlier)).map Record.pad =
    (stage.dismissed events).map Dismissal.record
  stages : (stage.replay earlier).Stages frame record
  framed : IsFrame frame
  keeps : record.Keeps frame

theorem exists_origin {settings : Settings} (accepted : settings.validate = .ok ())
    (events : List Event) {record : Record} {rest : Stage}
    (taken : ((ofSettings settings accepted).replay events).nextRecord? = some (record, rest)) :
    ∃ earlier frame, (ofSettings settings accepted).Origin events record earlier frame := by
  have sound := sound_ofSettings accepted
  have account := accounted_ofSettings accepted events
  have window := (ofSettings settings accepted).extractor.window_le_recordWidth
  rw [nextRecord?_eq (sound.replay events)] at taken
  rcases Option.map_eq_some_iff.1 taken with ⟨oldest, waiting, same⟩
  cases same
  rcases List.head?_eq_some_iff.1 waiting with ⟨newer, contents⟩
  have staged := account.staged
  rw [contents] at staged
  -- The taken record is that of the first frame behind those whose records have left.
  rcases List.map_eq_append_iff.1 staged with ⟨before, further, extracted, left, others⟩
  rcases List.map_eq_cons_iff.1 others with ⟨frame, behind, rfl, rfl, _⟩
  rcases exists_staging sound extracted with ⟨earlier, later, split, counted, stages⟩
  have member : frame ∈ Segment.frames ((ofSettings settings accepted).segments events) := by
    rw [extracted]
    exact List.mem_append_right _ List.mem_cons_self
  rcases account.framed frame member with ⟨framed, inWindow⟩
  exact ⟨earlier, frame, {
    attempted := ⟨later, split⟩
    counted := counted ▸ left
    stages
    framed
    keeps := Record.keeps_pad framed (Nat.le_trans inWindow window) }⟩

/-- A taken record holds what the attempt that staged it consumed.

The attempt is found by counting.  Of what it consumed, the bytes up to the
first zero are read back.  They begin with a frame start, and unless there is a
zero they are the whole frame and end with a frame end. -/
theorem taken_record_keeps_consumed {settings : Settings} (accepted : settings.validate = .ok ()) :
    ∃ opened, create settings = .ok opened ∧
      forall calls record rest, (opened.stage.after calls).nextRecord? = some (record, rest) ->
        ∃ earlier frame, opened.stage.Origin (opened.stage.eventsOf calls) record earlier frame := by
  refine ⟨opened settings accepted, create_eq accepted, ?_⟩
  intro calls record rest taken
  rw [after_eq] at taken
  exact exists_origin accepted _ taken

/-- The record of the first frame is dropped for that of the second one, which
is taken. -/
theorem second_record_keeps_consumed :
    let settings : Settings :=
      { byteCapacity := 3, recordCapacity := 1, scan := { minFill := 2, window := 3 } }
    let calls : List Call :=
      [.ingest [0x7B, 0x7D], .extract, .ingest [0x7B, 0x61, 0x7D], .flush]
    settings.validate = .ok () ∧
      ∃ opened record rest, create settings = .ok opened ∧
        (opened.stage.after calls).nextRecord? = some (record, rest) ∧
        record.frame = [0x7B, 0x61, 0x7D] ∧
        ∃ earlier frame, opened.stage.Origin (opened.stage.eventsOf calls) record earlier frame := by
  intro settings calls
  have accepted : settings.validate = .ok () := by decide +kernel
  have taken : ((opened settings accepted).stage.after calls).nextRecord?.map
      (fun taken => taken.1.frame) = some [0x7B, 0x61, 0x7D] := by
    decide +kernel +revert
  rcases Option.map_eq_some_iff.1 taken with ⟨⟨record, rest⟩, found, readBack⟩
  obtain ⟨_, creation, origin⟩ := taken_record_keeps_consumed accepted
  rw [create_eq accepted] at creation
  cases creation
  exact ⟨accepted, _, record, rest, create_eq accepted, found, readBack,
    origin calls record rest found⟩

/-- Three bytes are consumed, and one is read back. -/
theorem zero_cuts_frame :
    let settings : Settings :=
      { byteCapacity := 3, recordCapacity := 1, scan := { minFill := 1, window := 3 } }
    let received : Call := .ingest [0x7B, 0, 0x7D]
    settings.validate = .ok () ∧
      ∃ opened record rest, create settings = .ok opened ∧
        (opened.stage.after [received]).extract.result = .produced 3 ∧
        (opened.stage.after [received, .extract]).nextRecord? = some (record, rest) ∧
        record.frame = [0x7B] := by
  intro settings received
  have accepted : settings.validate = .ok () := by decide +kernel
  have taken : ((opened settings accepted).stage.after [received, .extract]).nextRecord?.map
      (fun taken => taken.1.frame) = some [0x7B] := by
    decide +kernel +revert
  have consumed : ((opened settings accepted).stage.after [received]).extract.result =
      .produced 3 := by
    decide +kernel +revert
  rcases Option.map_eq_some_iff.1 taken with ⟨⟨record, rest⟩, found, readBack⟩
  exact ⟨accepted, _, record, rest, create_eq accepted, consumed, found, readBack⟩

end Stage
end TelemetryRelay
