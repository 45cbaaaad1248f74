import TelemetryRelay.Proofs.Stage.Ledger

/-!
# Packets

A packet is a chunk with one frame in it and no braces around the frame or
within it.  A stage that receives packets in time digests them one by one: an
attempt discards what stands before the frame, a second one extracts it, and
what is left is the end of the packet, which no attempt touches before the
next packet is there.

`Held` says what a buffer has in store: the frames that will be extracted from
it, how many attempts that takes at most, and what will be left.  An attempt
brings the buffer one step further, and a flush brings it to the end.
-/

namespace TelemetryRelay

open Window

/-- A chunk that brings one frame.  The frame has the given body. -/
structure Packet where
  before : List UInt8
  body : List UInt8
  after : List UInt8
deriving DecidableEq, Repr

namespace Packet

def framed (body : List UInt8) : List UInt8 :=
  frameStart :: (body ++ [frameEnd])

def frame (packet : Packet) : List UInt8 :=
  framed packet.body

def bytes (packet : Packet) : List UInt8 :=
  packet.before ++ packet.frame ++ packet.after

end Packet

/-- Bytes without a brace and without a zero. -/
structure Plain (bytes : List UInt8) : Prop where
  noStart : frameStart ∉ bytes
  noEnd : frameEnd ∉ bytes
  noZero : 0 ∉ bytes

instance plainDecidable (bytes : List UInt8) : Decidable (Plain bytes) :=
  decidable_of_iff (frameStart ∉ bytes ∧ frameEnd ∉ bytes ∧ 0 ∉ bytes)
    ⟨fun absent => ⟨absent.1, absent.2.1, absent.2.2⟩,
      fun plain => ⟨plain.noStart, plain.noEnd, plain.noZero⟩⟩

/-- A packet that can be digested behind the given rest of the packet before
it. -/
structure Packet.Fits (settings : Settings) (residue : List UInt8) (packet : Packet) : Prop where
  before : Plain packet.before
  body : Plain packet.body
  after : Plain packet.after
  readable : packet.bytes.length ≤ settings.serial.readChunk
  /-- The window shows the whole frame. -/
  visible : residue.length + packet.before.length + packet.frame.length ≤ settings.scan.window
  room : residue.length + packet.bytes.length ≤ settings.byteCapacity
  /-- The frame is still looked at when nothing stands before it. -/
  enough : settings.scan.minFill ≤ packet.frame.length + packet.after.length

/-- Packets each of which can be digested behind the rest of the one before
it. -/
inductive Conveyable (settings : Settings) : List UInt8 -> List Packet -> Prop where
  | done (residue : List UInt8) : Conveyable settings residue []
  | next {residue : List UInt8} {packet : Packet} {later : List Packet}
      (fits : packet.Fits settings residue) (rest : Conveyable settings packet.after later) :
      Conveyable settings residue (packet :: later)

instance fitsDecidable (settings : Settings) (residue : List UInt8) (packet : Packet) :
    Decidable (packet.Fits settings residue) :=
  decidable_of_iff
    ((Plain packet.before ∧ Plain packet.body ∧ Plain packet.after) ∧
      packet.bytes.length ≤ settings.serial.readChunk ∧
      residue.length + packet.before.length + packet.frame.length ≤ settings.scan.window ∧
      residue.length + packet.bytes.length ≤ settings.byteCapacity ∧
      settings.scan.minFill ≤ packet.frame.length + packet.after.length)
    ⟨fun ⟨⟨before, body, after⟩, readable, visible, room, enough⟩ =>
        { before, body, after, readable, visible, room, enough },
      fun fits => ⟨⟨fits.before, fits.body, fits.after⟩, fits.readable, fits.visible, fits.room,
        fits.enough⟩⟩

instance conveyableDecidable (settings : Settings) :
    (residue : List UInt8) -> (packets : List Packet) ->
      Decidable (Conveyable settings residue packets)
  | residue, [] => .isTrue (.done residue)
  | residue, packet :: later =>
      have _rest := conveyableDecidable settings packet.after later
      decidable_of_iff (packet.Fits settings residue ∧ Conveyable settings packet.after later)
        ⟨fun ⟨fits, rest⟩ => .next fits rest, fun | .next fits rest => ⟨fits, rest⟩⟩

theorem Conveyable.fits {settings : Settings} {residue : List UInt8} {packets : List Packet}
    (conveyable : Conveyable settings residue packets) {packet : Packet}
    (member : packet ∈ packets) : ∃ residue, packet.Fits settings residue := by
  induction conveyable with
  | done => exact absurd member List.not_mem_nil
  | next fits _ inductionHypothesis =>
      rcases List.mem_cons.1 member with rfl | later
      · exact ⟨_, fits⟩
      · exact inductionHypothesis later

namespace Packet

theorem length_framed (body : List UInt8) : (framed body).length = body.length + 2 := by
  rw [framed, List.length_cons, List.length_append, List.length_singleton]

theorem bytes_ne_nil (packet : Packet) : packet.bytes ≠ [] := by
  rw [bytes, frame, framed]
  simp

theorem Fits.frame_le_window {settings : Settings} {residue : List UInt8} {packet : Packet}
    (fits : packet.Fits settings residue) : packet.frame.length ≤ settings.scan.window :=
  Nat.le_trans (Nat.le_add_left _ _) fits.visible

theorem Fits.noZero {settings : Settings} {residue : List UInt8} {packet : Packet}
    (fits : packet.Fits settings residue) : 0 ∉ packet.frame := by
  intro zero
  rcases List.mem_cons.1 zero with start | inside
  · exact absurd start (by decide)
  · rcases List.mem_append.1 inside with body | stop
    · exact fits.body.noZero body
    · exact absurd (List.mem_singleton.1 stop) (by decide)

end Packet

/-! ## What a buffer has in store -/

/-- The frame that an attempt extracts, if it does, from the bytes that it
found buffered. -/
def Extraction.extracted (buffered : List UInt8) : Extraction -> List (List UInt8)
  | produced length => [buffered.take length]
  | starved | incomplete | resynced _ => []

/-- The buffered bytes give the listed frames within the given number of
attempts, and leave the given residue. -/
inductive Held (rules : ScanRules) (residue : List UInt8) :
    List UInt8 -> Nat -> List (List UInt8) -> Prop where
  | settled (noEnd : frameEnd ∉ residue) (attempts : Nat) : Held rules residue residue attempts []
  /-- A frame is left, and what stands before it takes an attempt of its
  own. -/
  | framed {before body : List UInt8} {attempts : Nat} (noStart : frameStart ∉ body)
      (noStartAfter : frameStart ∉ residue) (noEndAfter : frameEnd ∉ residue)
      (visible : before.length + (Packet.framed body).length ≤ rules.window)
      (enough : rules.minFill ≤ (Packet.framed body).length + residue.length)
      (one : 1 ≤ attempts) (another : before ≠ [] -> 2 ≤ attempts) :
      Held rules residue (before ++ Packet.framed body ++ residue) attempts [Packet.framed body]

namespace Held

variable {rules : ScanRules} {residue buffered : List UInt8} {attempts : Nat}
  {frames : List (List UInt8)}

theorem eq_of_zero (held : Held rules residue buffered 0 frames) :
    buffered = residue ∧ frames = [] ∧ frameEnd ∉ residue := by
  cases held with
  | settled noEnd => exact ⟨rfl, rfl, noEnd⟩
  | framed _ _ _ _ _ one _ => exact absurd one (by decide)

theorem lastAt_framed {before body : List UInt8} {width : Nat} (noStart : frameStart ∉ body)
    (noStartAfter : frameStart ∉ residue) (noEndAfter : frameEnd ∉ residue)
    (visible : before.length + (Packet.framed body).length ≤ width) :
    LastAt frameStart ((before ++ Packet.framed body ++ residue).take width) before.length ∧
      LastAt frameEnd ((before ++ Packet.framed body ++ residue).take width)
        (before.length + body.length + 1) := by
  have shown : (before ++ Packet.framed body ++ residue).take width =
      before ++ Packet.framed body ++ residue.take (width - (before ++ Packet.framed body).length) := by
    rw [List.take_append, List.take_of_length_le (by rw [List.length_append]; exact visible)]
  rw [shown]
  generalize rest : residue.take (width - (before ++ Packet.framed body).length) = visiblePart
  have part : forall byte, byte ∈ visiblePart -> byte ∈ residue := by
    intro byte member
    exact List.mem_of_mem_take (rest ▸ member)
  constructor
  · have split : before ++ Packet.framed body ++ visiblePart =
        before ++ frameStart :: (body ++ [frameEnd] ++ visiblePart) := by
      rw [Packet.framed, List.append_assoc, List.cons_append]
    rw [split]
    refine LastAt.of_append before ?_
    intro member
    rcases List.mem_append.1 member with inside | behind
    · rcases List.mem_append.1 inside with inBody | stop
      · exact noStart inBody
      · exact absurd (List.mem_singleton.1 stop) (by decide)
    · exact noStartAfter (part _ behind)
  · have split : before ++ Packet.framed body ++ visiblePart =
        (before ++ frameStart :: body) ++ frameEnd :: visiblePart := by
      simp only [Packet.framed, List.append_assoc, List.cons_append, List.nil_append]
    have size : before.length + body.length + 1 = (before ++ frameStart :: body).length := by
      rw [List.length_append, List.length_cons, Nat.add_assoc]
    rw [split, size]
    exact LastAt.of_append _ fun member => noEndAfter (part _ member)

/-- The reading of a buffer that holds a frame: first what stands before the
frame goes, and then the frame is extracted. -/
theorem reading_framed {before body : List UInt8} (noStart : frameStart ∉ body)
    (noStartAfter : frameStart ∉ residue) (noEndAfter : frameEnd ∉ residue)
    (visible : before.length + (Packet.framed body).length ≤ rules.window)
    (enough : rules.minFill ≤ (Packet.framed body).length + residue.length) :
    Reading rules (before ++ Packet.framed body ++ residue)
      (if before = [] then .produced (Packet.framed body).length else .resynced before.length) := by
  rcases lastAt_framed noStart noStartAfter noEndAfter visible with ⟨begins, ends⟩
  have filled : rules.minFill ≤ (before ++ Packet.framed body ++ residue).length := by
    rw [List.length_append, List.length_append]
    omega
  split
  · rename_i nothing
    subst nothing
    have size : (Packet.framed body).length = ([] : List UInt8).length + body.length + 1 + 1 := by
      rw [Packet.length_framed, List.length_nil, Nat.zero_add]
    rw [size]
    exact .frame filled ends begins
  · rename_i some
    exact .garbage filled ends begins (List.length_pos_iff.2 some)

theorem reading_settled (noEnd : frameEnd ∉ residue) {outcome : Extraction}
    (reading : Reading rules residue outcome) : outcome = .starved ∨ outcome = .incomplete := by
  have unseen : frameEnd ∉ residue.take rules.window := fun seen =>
    noEnd (List.mem_of_mem_take seen)
  rw [reading.eq_of_noEnd unseen]
  split
  · exact .inl rfl
  · exact .inr rfl

/-- An attempt extracts the frame in store, or leads up to it, or finds
nothing to do. -/
theorem step (held : Held rules residue buffered attempts frames) {outcome : Extraction}
    (reading : Reading rules buffered outcome) :
    ∃ left, frames = outcome.extracted buffered ++ left ∧
      Held rules residue (buffered.drop outcome.consumed) (attempts - 1) left := by
  cases held with
  | settled noEnd =>
      refine ⟨[], ?_⟩
      rcases reading_settled noEnd reading with rfl | rfl
      · exact ⟨rfl, .settled noEnd _⟩
      · exact ⟨rfl, .settled noEnd _⟩
  | @framed before body _ noStart noStartAfter noEndAfter visible enough one another =>
      have first := reading_framed noStart noStartAfter noEndAfter visible enough
      by_cases nothing : before = []
      · subst nothing
        rw [if_pos rfl] at first
        rw [reading.unique first, List.nil_append, Extraction.extracted, Extraction.consumed,
          List.take_left, List.drop_left]
        exact ⟨[], rfl, .settled noEndAfter _⟩
      · -- What stands before the frame goes, and the frame is in front then.
        rw [if_neg nothing] at first
        have two := another nothing
        rw [reading.unique first, Extraction.extracted, Extraction.consumed, List.append_assoc,
          List.drop_left]
        refine ⟨_, rfl, ?_⟩
        exact @framed _ _ [] body _ noStart noStartAfter noEndAfter
          (Nat.le_trans (Nat.add_le_add_right (Nat.zero_le _) _) visible) enough (by omega)
          (fun some => absurd rfl some)

theorem progress (held : Held rules residue buffered attempts frames) {outcome : Extraction}
    (reading : Reading rules buffered outcome) (none : outcome.madeProgress = false) :
    frames = [] := by
  cases held with
  | settled => rfl
  | @framed before _ _ noStart noStartAfter noEndAfter visible enough _ _ =>
      have first := reading_framed noStart noStartAfter noEndAfter visible enough
      rw [reading.unique first] at none
      split at none <;> cases none

end Held

namespace Stage

/-- A stage with the rings and rules of the settings, and what its byte ring
has in store. -/
structure Digests (settings : Settings) (residue : List UInt8) (attempts : Nat)
    (frames : List (List UInt8)) (stage : Stage) : Prop where
  sound : stage.Sound
  rules : stage.extractor.rules = settings.scan
  capacity : stage.bytes.capacity = settings.byteCapacity
  held : Held settings.scan residue stage.bytes.toList attempts frames

theorem frames_attempt (stage : Stage) :
    Segment.frames (stage.departures .attempt) =
      stage.extract.result.extracted stage.bytes.toList := by
  rw [departures]
  cases stage.extract.result with
  | starved | incomplete => rfl
  | resynced | produced => rw [Segment.frames_singleton]; rfl

theorem evicted_attempts (count : Nat) (stage : Stage) :
    Segment.bytesBy .evicted (stage.segments (List.replicate count .attempt)) = [] := by
  apply Segment.bytesBy_eq_nil
  intro segment member evicted
  rcases route_of_attempts member with resynced | produced
  · cases evicted.symm.trans resynced
  · cases evicted.symm.trans produced

namespace Digests

variable {settings : Settings} {residue : List UInt8} {attempts : Nat}
  {frames : List (List UInt8)} {stage : Stage}

theorem fresh (accepted : settings.validate = .ok ()) :
    (ofSettings settings accepted).Digests settings [] 0 [] where
  sound := sound_ofSettings accepted
  rules := rfl
  capacity := Ring.capacity_blank _
  held := by
    have positive := (settings.validate_eq_ok_iff.1 accepted).byteCapacity_positive
    have empty : (ofSettings settings accepted).bytes.toList = [] := Ring.toList_blank positive
    rw [empty]
    exact .settled List.not_mem_nil 0

theorem take (digests : stage.Digests settings residue attempts frames) :
    (stage.undergo .take).Digests settings residue attempts frames where
  sound := digests.sound.undergo .take
  rules := (rules_undergo digests.sound .take).trans digests.rules
  capacity := (byteCapacity_undergo digests.sound .take).trans digests.capacity
  held := by
    rw [undergo_take digests.sound]
    exact digests.held

theorem attempt (digests : stage.Digests settings residue attempts frames) :
    ∃ left, frames = Segment.frames (stage.departures .attempt) ++ left ∧
      (stage.undergo .attempt).Digests settings residue (attempts - 1) left := by
  have sound := digests.sound
  have reading := extract_reading sound
  rw [digests.rules] at reading
  rcases digests.held.step reading with ⟨left, extracted, held⟩
  refine ⟨left, by rw [frames_attempt, extracted], sound.undergo .attempt,
    (rules_undergo sound .attempt).trans digests.rules,
    (byteCapacity_undergo sound .attempt).trans digests.capacity, ?_⟩
  rw [undergo, toList_extract_bytes sound]
  exact held

/-- A packet that is received when nothing is in store takes two attempts. -/
theorem receive {packet : Packet} (digests : stage.Digests settings residue 0 frames)
    (fits : packet.Fits settings residue) :
    frames = [] ∧ Segment.bytesBy .evicted (stage.departures (.receive packet.bytes)) = [] ∧
      (stage.undergo (.receive packet.bytes)).Digests settings packet.after 2 [packet.frame] := by
  have sound := digests.sound
  rcases digests.held.eq_of_zero with ⟨buffered, none, _⟩
  have size := Ring.length_toList sound.bytes
  have room := fits.room
  have nothing : stage.bytes.shortfall packet.bytes.length = 0 := by
    rw [buffered] at size
    rw [Ring.shortfall, Ring.free, digests.capacity]
    omega
  refine ⟨none, ?_, sound.undergo _, (rules_undergo sound _).trans digests.rules,
    (byteCapacity_undergo sound _).trans digests.capacity, ?_⟩
  · rw [departures_receive sound, nothing, Segment.bytesBy_singleton]
    rfl
  · have received : (stage.undergo (.receive packet.bytes)).bytes.toList =
        residue ++ packet.before ++ packet.frame ++ packet.after := by
      rw [undergo, ingest_stage sound, Ring.toList_acceptAll sound.bytes, nothing, List.drop_zero,
        buffered, Packet.bytes, List.append_assoc, List.append_assoc, List.append_assoc]
    rw [received]
    refine .framed fits.body.noStart fits.after.noStart fits.after.noEnd ?_ fits.enough
      (by decide) (fun _ => Nat.le_refl 2)
    rw [List.length_append]
    exact fits.visible

/-- Attempts until one makes no progress extract all that is in store. -/
theorem attempts_within (digests : stage.Digests settings residue attempts frames) {fuel : Nat}
    (enough : stage.bytes.length < fuel) :
    Segment.frames (stage.segments (List.replicate (attemptsWithin fuel stage) .attempt)) =
      frames := by
  induction fuel generalizing stage attempts frames with
  | zero => exact absurd enough (Nat.not_lt_zero _)
  | succ fuel inductionHypothesis =>
      rcases digests.attempt with ⟨left, extracted, next⟩
      rw [attemptsWithin]
      split
      · rename_i progress
        have shorter := length_extract_lt digests.sound progress
        rw [List.replicate_succ, segments, gather, Segment.frames_append, extracted]
        exact congrArg (_ ++ ·)
          (inductionHypothesis next (Nat.lt_of_lt_of_le shorter (Nat.le_of_lt_succ enough)))
      · -- The last attempt makes no progress, so that it finds nothing in store.
        rename_i stuck
        have reading := extract_reading digests.sound
        rw [digests.rules] at reading
        have none := digests.held.progress reading (Bool.eq_false_iff.2 stuck)
        rw [none] at extracted
        rw [none, List.replicate_one, segments_singleton]
        exact (List.append_eq_nil_iff.1 extracted.symm).1

theorem flush (digests : stage.Digests settings residue attempts frames) :
    Segment.frames (stage.segments (stage.callEvents .flush)) = frames :=
  digests.attempts_within (Nat.lt_succ_self _)

end Digests
end Stage
end TelemetryRelay
