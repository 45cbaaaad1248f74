import TelemetryRelay.Proofs.Run.Unpaced
import TelemetryRelay.Proofs.Stage.Packets

/-!
# Runs over packets that come slowly

A run makes one extraction attempt at a tick, and a packet takes two.  If the
source withholds each packet for two intervals between attempts, and sends
take no time, then both attempts are made before the next packet arrives, and
the frames reach the sink one by one.

That there are two ticks between any two arrivals does not depend on how the
pace and the interval fit together.  Without delays the clock only jumps to
the next moment at which something is due, so that no tick is ever served
late.  When a packet arrives, the tick before has been served, hence the next
one is due less than one interval later, and another one interval after that;
a packet that arrives at the moment of a tick is read first.  `Underway` keeps
account of this: the attempts that the buffered bytes still need, at the ticks
to come, are over before the next delivery.

The last packet is followed at once by the end of the stream.  Its frame is
extracted by the flush.
-/

namespace TelemetryRelay

theorem Source.poll_paced {source : Source} {chunk : List UInt8} {later : List (List UInt8)}
    {pace : Nat} (isOpen : source.closed = false) (paced : source.pace = some pace)
    (script : source.chunks = chunk :: later) (now : Nat) {size : Nat} (positive : 0 < size) :
    source.poll now size =
      if now < source.deadline.getD (now + pace) then
        .waiting (source.deadline.getD (now + pace))
          { source with deadline := some (source.deadline.getD (now + pace)) }
      else
        .finished (source.deliver size).bytes (source.deliver size).source
          [(source.deliver size).entry] := by
  have delivery : source.deliveryTime? now = some (source.deadline.getD (now + pace)) := by
    rw [deliveryTime?, paced, script]
  rw [poll, isOpen, if_neg Bool.false_ne_true, if_neg (Nat.ne_of_gt positive), delivery]

theorem Source.poll_over {source : Source} (isOpen : source.closed = false)
    (script : source.chunks = []) (now : Nat) {size : Nat} (positive : 0 < size) :
    source.poll now size = .finished [] { source with closed := true } [.endOfStream source.device] := by
  have noDelivery : source.deliveryTime? now = none := by
    rw [deliveryTime?, script]
    cases source.pace <;> rfl
  have delivered : source.deliver size = source.reportEnd := by rw [deliver, script]
  rw [poll_at_once isOpen noDelivery positive, delivered]
  rfl

theorem Source.deliver_whole {source : Source} {chunk : List UInt8} {later : List (List UInt8)}
    (script : source.chunks = chunk :: later) {size : Nat} (fits : chunk.length ≤ size)
    (nonempty : chunk ≠ []) :
    (source.deliver size).bytes = chunk ∧
      (source.deliver size).source =
        { source with
          chunks := later
          deadline := none
          bytesRead := source.bytesRead + chunk.length } := by
  have whole : chunk.take size = chunk := List.take_of_length_le fits
  rw [deliver, script]
  simp only [whole, if_neg nonempty, if_neg (Nat.not_lt.2 fits)]
  exact ⟨trivial, trivial⟩

namespace Run

open Stage (Event Segment)

/-! ## Sends that take no time -/

theorem State.serveUpload_clock {state : State}
    (prompt : forall index, state.sink.delay index = 0) :
    state.serveUpload.now = state.now ∧ state.serveUpload.sink.delay = state.sink.delay := by
  unfold State.serveUpload
  simp only
  split
  · exact ⟨rfl, rfl⟩
  · rename_i record rest found
    rcases State.deliver_clock
      { state with uploadTick := state.uploadTick.serve state.now, stage := rest } record with
      ⟨clock, delay⟩
    rw [clock, delay]
    exact ⟨congrArg (state.now + ·) (prompt _), rfl⟩

/-! ## What a run keeps to -/

/-- What is still to come of the frames: those that the buffered bytes have in
store, within some attempts and before some residue, and those of the packets
that have not arrived. -/
structure Outlook where
  residue : List UInt8
  attempts : Nat
  frames : List (List UInt8)
  rest : List Packet

def Outlook.awaited (outlook : Outlook) : List (List UInt8) :=
  outlook.frames ++ outlook.rest.map Packet.frame

/-- What the loop over slow packets keeps to. -/
structure Underway (settings : Settings) (pace : Nat) (outlook : Outlook) (state : State) :
    Prop where
  digests : state.stage.Digests settings outlook.residue outlook.attempts outlook.frames
  conveyable : Conveyable settings outlook.residue outlook.rest
  isOpen : state.source.closed = false
  paced : state.source.pace = some pace
  script : state.source.chunks = outlook.rest.map Packet.bytes
  prompt : forall index, state.sink.delay index = 0
  period : state.extractionTick.period = settings.extractInterval
  /-- No tick is late. -/
  extraction : state.now ≤ state.extractionTick.due
  upload : state.now ≤ state.uploadTick.due
  early : state.now ≤ state.horizon
  /-- The attempts that are needed come before the delivery. -/
  timely : state.extractionTick.due + outlook.attempts * settings.extractInterval <
    state.horizon + settings.extractInterval

/-- The events extract the next of the awaited frames and evict nothing. -/
structure Advances (stage : Stage) (outlook : Outlook) (events : List Event) (after : Outlook) :
    Prop where
  awaited : outlook.awaited = Segment.frames (stage.segments events) ++ after.awaited
  kept : Segment.bytesBy .evicted (stage.segments events) = []

theorem Advances.trans {stage : Stage} {outlook between after : Outlook}
    {events later : List Event} (first : Advances stage outlook events between)
    (second : Advances (stage.replay events) between later after) :
    Advances stage outlook (events ++ later) after := by
  constructor
  · rw [first.awaited, second.awaited, Stage.segments_append, Segment.frames_append,
      List.append_assoc]
  · rw [Stage.segments_append, Segment.bytesBy_append, first.kept, second.kept, List.append_nil]

namespace Underway

variable {settings : Settings} {pace : Nat} {outlook : Outlook} {state : State}

theorem serve_extractionTick (underway : Underway settings pace outlook state)
    (due : state.extractionTick.isDue state.now = true) :
    (state.extractionTick.serve state.now).due =
      state.extractionTick.due + settings.extractInterval := by
  have late : state.extractionTick.due ≤ state.now := by simpa [Ticker.isDue] using due
  have onTime := underway.extraction
  have punctual : ¬Ticker.tolerance < state.now - state.extractionTick.due := by
    rw [Nat.sub_eq_zero_of_le onTime]
    exact Nat.not_lt_zero _
  rw [Ticker.serve, if_neg punctual]
  exact congrArg (state.extractionTick.due + ·) underway.period

theorem serveExtraction (underway : Underway settings pace outlook state)
    (due : state.extractionTick.isDue state.now = true) (waits : state.now < state.horizon) :
    ∃ after, Advances state.stage outlook [.attempt] after ∧
      Underway settings pace after state.serveExtraction := by
  have served := underway.serve_extractionTick due
  have onTime : state.extractionTick.due = state.now :=
    Nat.le_antisymm (by simpa [Ticker.isDue] using due) underway.extraction
  have timely := underway.timely
  rcases underway.digests.attempt with ⟨left, extracted, digests⟩
  refine ⟨{ outlook with attempts := outlook.attempts - 1, frames := left }, ⟨?_, ?_⟩, ?_⟩
  · rw [Outlook.awaited, Outlook.awaited, Stage.segments_singleton, extracted, List.append_assoc]
  · exact Stage.evicted_attempts 1 state.stage
  · exact {
      underway with
      digests
      extraction := by
        change state.now ≤ (state.extractionTick.serve state.now).due
        rw [served, onTime]
        exact Nat.le_add_right _ _
      timely := by
        change (state.extractionTick.serve state.now).due +
          (outlook.attempts - 1) * settings.extractInterval < state.horizon + settings.extractInterval
        rw [served, onTime]
        rw [onTime] at timely
        cases attempts : outlook.attempts with
        | zero =>
            -- The next tick may come after the delivery, but by less than an interval.
            rw [Nat.zero_sub, Nat.zero_mul]
            omega
        | succ attempts =>
            rw [attempts, Nat.succ_mul] at timely
            rw [Nat.add_sub_cancel]
            omega }

theorem serveUpload (underway : Underway settings pace outlook state)
    (due : state.uploadTick.isDue state.now = true) :
    Advances state.stage outlook [.take] outlook ∧ Underway settings pace outlook state.serveUpload := by
  rcases State.serveUpload_clock underway.prompt with ⟨clock, delay⟩
  rcases state.serveUpload_keeps with ⟨sameSource, sameTick, served⟩
  have late : state.uploadTick.due ≤ state.now := by simpa [Ticker.isDue] using due
  have moved := state.uploadTick.due_lt_serve_due state.now late
  have onTime := underway.upload
  have sameStage : state.serveUpload.stage = state.stage.undergo .take :=
    (reaches_serveUpload state).stage
  have sameHorizon : state.serveUpload.horizon = state.horizon := by
    rw [State.horizon, State.horizon, sameSource, clock]
  refine ⟨⟨rfl, rfl⟩, ?_⟩
  exact {
    digests := sameStage ▸ underway.digests.take
    conveyable := underway.conveyable
    isOpen := sameSource ▸ underway.isOpen
    paced := sameSource ▸ underway.paced
    script := sameSource ▸ underway.script
    prompt := delay ▸ underway.prompt
    period := sameTick ▸ underway.period
    extraction := by
      rw [clock, sameTick]
      exact underway.extraction
    upload := by
      rw [clock, served]
      omega
    early := by
      rw [clock, sameHorizon]
      exact underway.early
    timely := by
      rw [sameTick, sameHorizon]
      exact underway.timely }

theorem jump (underway : Underway settings pace outlook state) {delivery : Nat}
    (fixed : state.source.deadline = some delivery) :
    Underway settings pace outlook
      { state with
        now := min (min delivery (min state.extractionTick.due state.uploadTick.due)) delivery } := by
  have sameHorizon : State.horizon
      { state with
        now := min (min delivery (min state.extractionTick.due state.uploadTick.due)) delivery } =
        state.horizon := by
    simp only [State.horizon, fixed, Option.getD_some]
  have horizon : state.horizon = delivery := by
    simp only [State.horizon, fixed, Option.getD_some]
  exact {
    underway with
    extraction := by
      simp only
      omega
    upload := by
      simp only
      omega
    early := by
      rw [sameHorizon, horizon]
      exact Nat.min_le_right _ _
    timely := by
      rw [sameHorizon]
      exact underway.timely }

theorem waitingTurn (underway : Underway settings pace outlook state) {plan : Plan}
    (patient : plan.shutdown = none) {delivery : Nat}
    (fixed : state.source.deadline = some delivery) (waits : state.now < delivery) :
    ∃ after, Advances state.stage outlook (waitingEvents state) after ∧
      Underway settings pace after (Run.waitingTurn plan delivery state) := by
  have horizon : state.horizon = delivery := by rw [State.horizon, fixed, Option.getD_some]
  unfold waitingEvents Run.waitingTurn
  by_cases extractionDue : state.extractionTick.isDue state.now = true
  · rw [if_pos extractionDue, if_pos extractionDue]
    exact underway.serveExtraction extractionDue (horizon ▸ waits)
  · rw [if_neg extractionDue, if_neg extractionDue]
    by_cases uploadDue : state.uploadTick.isDue state.now = true
    · rw [if_pos uploadDue, if_pos uploadDue]
      exact ⟨outlook, underway.serveUpload uploadDue⟩
    · rw [if_neg uploadDue, if_neg uploadDue, patient, Option.getD_none]
      exact ⟨outlook, ⟨rfl, rfl⟩, underway.jump fixed⟩

/-- When a packet arrives, no attempt is needed any more. -/
theorem attempts_on_delivery (underway : Underway settings pace outlook state)
    (arrives : state.now = state.horizon) : outlook.attempts = 0 := by
  have interval := underway.period ▸ state.extractionTick.period_positive
  have extraction := underway.extraction
  have timely := underway.timely
  cases attempts : outlook.attempts with
  | zero => rfl
  | succ attempts =>
      rw [attempts, Nat.succ_mul] at timely
      omega

theorem fix (underway : Underway settings pace outlook state) :
    Underway settings pace outlook
      { state with source := { state.source with deadline := some state.horizon } } :=
  { underway with timely := underway.timely }

/-- A packet arrives when the buffer has nothing in store, and brings its
frame.  The next packet leaves time for the two attempts that this takes. -/
theorem receive (underway : Underway settings pace outlook state) (echo : Bool)
    (slow : 2 * settings.extractInterval ≤ pace) {packet : Packet} {later : List Packet}
    (next : outlook.rest = packet :: later) (arrives : state.now = state.horizon)
    (journal : List Entry) :
    ∃ after, Advances state.stage outlook [.receive packet.bytes] after ∧
      Underway settings pace after
        (({ state with
            source := { state.source with
              chunks := later.map Packet.bytes
              deadline := none
              bytesRead := state.source.bytesRead + packet.bytes.length } }.log journal).receive
          echo packet.bytes) := by
  have interval := underway.period ▸ state.extractionTick.period_positive
  have idle := underway.attempts_on_delivery arrives
  have timely := underway.timely
  have digests := underway.digests
  have conveyable := underway.conveyable
  rw [idle] at digests timely
  rw [next] at conveyable
  cases conveyable with
  | next fits conveyable =>
      rcases digests.receive fits with ⟨none, kept, digests⟩
      let after : Outlook :=
        { residue := packet.after, attempts := 2, frames := [packet.frame], rest := later }
      refine ⟨after, ⟨?_, ?_⟩, ?_⟩
      · rw [Outlook.awaited, none, next]
        rfl
      · rw [Stage.segments_singleton, kept]
      · cases echo <;>
          exact {
            underway with
            digests
            conveyable
            script := rfl
            early := Nat.le_add_right _ _
            timely := by
              -- The next tick comes within an interval, and the new pace is counted from now.
              change state.extractionTick.due + 2 * settings.extractInterval <
                state.now + state.source.pace.getD 0 + settings.extractInterval
              rw [underway.paced, Option.getD_some]
              omega }

/-- A turn ends the loop if all packets have arrived.  Otherwise a packet
arrives, or the turn waits for it. -/
theorem turn (underway : Underway settings pace outlook state) {plan : Plan}
    (patient : plan.shutdown = none) (reads : plan.readChunk = settings.serial.readChunk)
    (readable : 0 < settings.serial.readChunk) (slow : 2 * settings.extractInterval ≤ pace) :
    (∃ last, Run.turn plan state = .ended last ∧ turnEvents plan state = [] ∧
        outlook.rest = []) ∨
      ∃ next after, Run.turn plan state = .again next ∧
        Advances state.stage outlook (turnEvents plan state) after ∧
        Underway settings pace after next := by
  have goesOn : plan.isShutDown state.now = false := by
    rw [Plan.isShutDown, patient]
    rfl
  have script := underway.script
  unfold Run.turn turnEvents
  rw [goesOn, if_neg Bool.false_ne_true, if_neg Bool.false_ne_true, reads]
  cases rest : outlook.rest with
  | nil =>
      rw [rest] at script
      rw [Source.poll_over underway.isOpen script state.now readable]
      exact .inl ⟨_, rfl, rfl, rfl⟩
  | cons packet later =>
      rw [rest, List.map_cons] at script
      have horizon : state.horizon = state.source.deadline.getD (state.now + pace) := by
        rw [State.horizon, underway.paced, Option.getD_some]
      rw [Source.poll_paced underway.isOpen underway.paced script state.now readable, ← horizon]
      refine .inr ?_
      by_cases waits : state.now < state.horizon
      · -- The poll fixes the time of the delivery, if it was not fixed before.
        rw [if_pos waits]
        rcases underway.fix.waitingTurn patient rfl waits with ⟨after, advances, kept⟩
        exact ⟨_, after, rfl, advances, kept⟩
      · have arrives : state.now = state.horizon :=
          Nat.le_antisymm underway.early (Nat.le_of_not_lt waits)
        have fits : packet.Fits settings outlook.residue := by
          have conveyable := underway.conveyable
          rw [rest] at conveyable
          cases conveyable with
          | next fits _ => exact fits
        rcases Source.deliver_whole script fits.readable packet.bytes_ne_nil with ⟨bytes, source⟩
        rw [if_neg waits, bytes, source]
        simp only [if_neg packet.bytes_ne_nil]
        rcases underway.receive plan.echo slow rest arrives _ with ⟨after, advances, kept⟩
        exact ⟨_, after, rfl, advances, kept⟩

/-- All packets arrived in the course of the events.  What is still awaited is
in store. -/
def Arrived (settings : Settings) (outlook : Outlook) (state : State) (events : List Event)
    (last : State) : Prop :=
  ∃ after : Outlook, after.rest = [] ∧ Advances state.stage outlook events after ∧
    last.stage.Digests settings after.residue after.attempts after.frames

theorem loop {plan : Plan} (patient : plan.shutdown = none)
    (reads : plan.readChunk = settings.serial.readChunk)
    (readable : 0 < settings.serial.readChunk) (slow : 2 * settings.extractInterval ≤ pace)
    (underway : Underway settings pace outlook state) :
    (loop plan state).error = none ∧
      Arrived settings outlook state (loopEvents plan state) (loop plan state).state := by
  refine @loop_settles plan _ (Underway settings pace) (Arrived settings) ?_ _ state underway
  intro outlook state underway
  have reached := reaches_turn plan state
  rcases underway.turn patient reads readable slow with
    ⟨last, ends, events, none⟩ | ⟨next, between, again, first, kept⟩
  · rw [ends, events] at reached
    rw [events]
    exact .inl ⟨last, ends, outlook, none, ⟨rfl, rfl⟩, reached.stage ▸ underway.digests⟩
  · rw [again] at reached
    refine .inr ⟨next, between, again, kept, ?_⟩
    rintro later last ⟨after, none, advances, digests⟩
    exact ⟨after, none, first.trans (reached.stage ▸ advances), digests⟩

end Underway

/-! ## The run -/

section

variable {settings : Settings} (accepted : settings.validate = .ok ()) {pace : Nat}
  (slow : 2 * settings.extractInterval ≤ pace) {sink : Sink}
  (prompt : forall index, sink.delay index = 0) {packets : List Packet}
  (conveyable : Conveyable settings [] packets) (now : Nat)

include slow prompt conveyable

theorem underway_begun :
    Underway settings pace { residue := [], attempts := 0, frames := [], rest := packets }
      (begun accepted (Source.scripted (packets.map Packet.bytes) (some pace)) sink now) where
  digests := .fresh accepted
  conveyable := conveyable
  isOpen := rfl
  paced := rfl
  script := rfl
  prompt := prompt
  period := rfl
  extraction := Nat.le_refl now
  upload := Nat.le_refl now
  early := Nat.le_add_right now pace
  timely := by
    have interval := (Settings.intervals_positive accepted).1
    change now + 0 * settings.extractInterval < now + pace + settings.extractInterval
    omega

/-- The loop is over when all packets have arrived.  The frames are extracted
in order, and nothing is evicted. -/
theorem frames_packets :
    let source := Source.scripted (packets.map Packet.bytes) (some pace)
    (looped accepted source sink now none).error = none ∧
      frames accepted source sink now none = packets.map Packet.frame ∧
      Segment.bytesBy .evicted ((Stage.ofSettings settings accepted).segments
        (history accepted source sink now none)) = [] := by
  intro source
  have looping : (looped accepted source sink now none).error = none ∧
      Underway.Arrived settings (Outlook.mk [] 0 [] packets) (begun accepted source sink now)
        (loopHistory accepted source sink now none)
        (looped accepted source sink now none).state :=
    (underway_begun accepted slow prompt conveyable now).loop rfl rfl (Settings.readChunk_positive accepted)
      slow
  rcases looping with ⟨ending, after, none, advances, digests⟩
  have awaited : packets.map Packet.frame = _ := advances.awaited
  have left : after.awaited = after.frames := by
    rw [Outlook.awaited, none]
    exact List.append_nil _
  rw [left] at awaited
  refine ⟨ending, ?_, ?_⟩
  · rw [frames, segments_history, Segment.frames_append, digests.flush]
    exact awaited.symm
  · rw [segments_history, Segment.bytesBy_append, Stage.callEvents, Stage.evicted_attempts,
      List.append_nil]
    exact advances.kept

end

/-- Packets that fit and are slow enough are delivered completely and in order,
if sends take no time.  Which of the sends fail makes no difference. -/
theorem slow_packets_delivered {settings : Settings} (accepted : settings.validate = .ok ())
    {pace : Nat} (slow : 2 * settings.extractInterval ≤ pace) {sink : Sink}
    (prompt : forall index, sink.delay index = 0) {packets : List Packet}
    (conveyable : Conveyable settings [] packets)
    (few : packets.length ≤ settings.recordCapacity) (now : Nat) :
    let outcome :=
      run settings (Source.scripted (packets.map Packet.bytes) (some pace)) sink now none
    ∃ (summary : Summary) (added : List Delivery),
      outcome.result = .ok summary ∧
        outcome.sink.deliveries.toList = sink.deliveries.toList ++ added ∧
        (added.map fun delivery => delivery.record.frame) = packets.map Packet.frame ∧
        summary.stage.framesExtracted = packets.length ∧
        summary.stage.bytesEvicted = 0 ∧ summary.stage.recordsEvicted = 0 := by
  intro outcome
  rcases frames_packets accepted slow prompt conveyable now with ⟨ending, extracted, kept⟩
  rcases handed_of_ended accepted _ sink now none ending with
    ⟨summary, added, finished, listed, handed, totals⟩
  have account := Stage.accounted_ofSettings accepted (history accepted
    (Source.scripted (packets.map Packet.bytes) (some pace)) sink now none)
  have count := congrArg List.length extracted
  rw [List.length_map] at count
  rcases all_taken accepted _ sink now none (count ▸ few) with ⟨taken, dropped⟩
  refine ⟨summary, added, finished, listed, ?_, ?_, ?_, ?_⟩
  · have frame (packet : Packet) (member : packet ∈ packets) :
        (Record.pad packet.frame).frame = packet.frame := by
      rcases conveyable.fits member with ⟨_, fits⟩
      have window := (Stage.ofSettings settings accepted).extractor.window_le_recordWidth
      exact Record.frame_pad (Nat.le_trans fits.frame_le_window window) fits.noZero
    calc
      (added.map fun delivery => delivery.record.frame)
          = (added.map Delivery.record).map Record.frame := by
        rw [List.map_map]
        rfl
      _ = (packets.map Packet.frame).map (fun frame => (Record.pad frame).frame) := by
        rw [handed, taken, extracted, List.map_map]
        rfl
      _ = packets.map Packet.frame := by
        rw [List.map_map]
        exact List.map_congr_left frame
  · rw [totals, account.framesExtracted]
    exact count
  · rw [totals, account.bytesEvicted, kept]
    rfl
  · rw [totals, account.recordsEvicted]
    exact congrArg List.length dropped

/-- Two packets with bytes around their frames, under settings and a pace that
leave no slack.  The sink refuses what it is sent first. -/
theorem slow_packets_with_residue :
    let settings : Settings :=
      { byteCapacity := 5, recordCapacity := 2, extractInterval := 5
        scan := { minFill := 3, window := 4 }, serial := { readChunk := 5 } }
    let sink := Sink.scripted (fun _ => 0) (fun index => index != 0) false
    let packets : List Packet :=
      [{ before := [0x61], body := [0x62], after := [0x63] },
        { before := [0x64], body := [], after := [0x65] }]
    let outcome :=
      run settings (Source.scripted (packets.map Packet.bytes) (some 10)) sink 7 none
    settings.validate = .ok () ∧ 2 * settings.extractInterval ≤ 10 ∧
      (forall index, sink.delay index = 0) ∧ Conveyable settings [] packets ∧
      packets.length ≤ settings.recordCapacity ∧
      ∃ (summary : Summary) (added : List Delivery),
        outcome.result = .ok summary ∧
          outcome.sink.deliveries.toList = [] ++ added ∧
          (added.map fun delivery => delivery.record.frame) =
            [[0x7B, 0x62, 0x7D], [0x7B, 0x7D]] ∧
          summary.stage.framesExtracted = 2 ∧
          summary.stage.bytesEvicted = 0 ∧ summary.stage.recordsEvicted = 0 := by
  intro settings sink packets outcome
  have accepted : settings.validate = .ok () := by decide +kernel
  have slow : 2 * settings.extractInterval ≤ 10 := by decide
  have conveyable : Conveyable settings [] packets := by decide +kernel
  have few : packets.length ≤ settings.recordCapacity := by decide
  exact ⟨accepted, slow, fun _ => rfl, conveyable, few,
    slow_packets_delivered accepted slow (fun _ => rfl) conveyable few 7⟩

end Run
end TelemetryRelay
