import TelemetryRelay.Proofs.Stage.Progress

/-!
# Blocked stages

A window that is filled with bytes none of which ends a frame blocks the stage.
Whatever is received afterwards stands behind these bytes, so that no attempt
gets to see it, and the bytes themselves leave by neither of the two ways that
an attempt has.  Complete frames may pile up behind them.  Only an overflow of
the byte ring takes bytes from the front again.

Two facts are carried from call to call.  The beginning of the buffered bytes
stays as it is, because nothing leaves; and the number of buffered bytes grows
by what is received, so that it can be told in advance how much still fits.
-/

namespace TelemetryRelay
namespace Stage

open Window (frameEnd)

/-- The window is filled with bytes that do not end a frame. -/
structure Blocked (settings : Settings) (stage : Stage) : Prop
    extends stage.Conforms settings where
  filled : settings.scan.window ≤ stage.bufferedBytes
  noEnd : frameEnd ∉ stage.bytes.toList.take settings.scan.window

/-- Between two stages bytes were received, and no byte left.  About records
nothing is said but what the totals count. -/
structure Gains (received : List UInt8) (stage last : Stage) : Prop where
  buffered : last.bytes.toList = stage.bytes.toList ++ received
  totals : last.totals =
    { stage.totals with bytesIngested := stage.totals.bytesIngested + received.length }

namespace Gains

variable {stage between last : Stage} {received more : List UInt8}

theorem of_same (bytes : last.bytes = stage.bytes) (totals : last.totals = stage.totals) :
    Gains [] stage last where
  buffered := by rw [bytes, List.append_nil]
  totals := totals

theorem trans (first : Gains received stage between) (second : Gains more between last) :
    Gains (received ++ more) stage last where
  buffered := by rw [second.buffered, first.buffered, List.append_assoc]
  totals := by rw [second.totals, first.totals, List.length_append, Nat.add_assoc]

end Gains

namespace Blocked

variable {settings : Settings} {stage : Stage}

theorem extract_result (blocked : stage.Blocked settings) :
    stage.extract.result =
      if stage.bufferedBytes < settings.scan.minFill then .starved else .incomplete := by
  have reading := extract_reading blocked.sound
  rw [blocked.rules] at reading
  rw [reading.eq_of_noEnd blocked.noEnd, Ring.length_toList blocked.sound.bytes]
  rfl

theorem atRest (blocked : stage.Blocked settings) : stage.AtRest := by
  rw [AtRest, blocked.extract_result]
  split <;> rfl

/-- What comes behind a blocked window does not clear it. -/
theorem of_gains {last : Stage} {received : List UInt8} (blocked : stage.Blocked settings)
    (conforms : last.Conforms settings) (gained : Gains received stage last) :
    last.Blocked settings := by
  have filled := blocked.filled
  have size := Ring.length_toList blocked.sound.bytes
  have lastSize := Ring.length_toList conforms.sound.bytes
  rw [gained.buffered, List.length_append] at lastSize
  simp only [bufferedBytes] at filled
  refine { conforms with filled := ?_, noEnd := ?_ }
  · simp only [bufferedBytes]
    omega
  · rw [gained.buffered, List.take_append_of_le_length (by omega)]
    exact blocked.noEnd

theorem gains_perform (blocked : stage.Blocked settings) (call : Call)
    (room : stage.bufferedBytes + call.bytes.length ≤ settings.byteCapacity) :
    Gains call.bytes stage (stage.perform call) := by
  have attempted := blocked.atRest.extract_stage blocked.sound
  cases call with
  | ingest chunk =>
      rw [← blocked.byteCapacity] at room
      obtain ⟨buffered, totals⟩ := ingest_within blocked.sound room
      exact ⟨buffered, totals⟩
  | extract =>
      apply Gains.of_same
      · rw [Stage.perform, attempted]
      · rw [Stage.perform, attempted]
  | flush =>
      apply Gains.of_same
      · rw [Stage.perform, blocked.atRest.flush_stage, attempted]
      · rw [Stage.perform, blocked.atRest.flush_stage, attempted]
  | nextRecord =>
      have taken : stage.perform .nextRecord = _ := undergo_take blocked.sound
      apply Gains.of_same
      · rw [taken]
      · rw [taken]

theorem after (blocked : stage.Blocked settings) (calls : List Call)
    (room : stage.bufferedBytes + (calls.flatMap Call.bytes).length ≤ settings.byteCapacity) :
    (stage.after calls).Blocked settings ∧
      Gains (calls.flatMap Call.bytes) stage (stage.after calls) := by
  induction calls generalizing stage with
  | nil => exact ⟨blocked, .of_same rfl rfl⟩
  | cons call later inductionHypothesis =>
      rw [List.flatMap_cons, List.length_append] at room
      have gained := blocked.gains_perform call (by omega)
      have next := blocked.of_gains (blocked.perform call) gained
      have size : (stage.perform call).bufferedBytes =
          stage.bufferedBytes + call.bytes.length := by
        rw [bufferedBytes, ← Ring.length_toList next.sound.bytes, gained.buffered,
          List.length_append, Ring.length_toList blocked.sound.bytes]
        rfl
      obtain ⟨stillBlocked, rest⟩ := inductionHypothesis next (by omega)
      rw [List.flatMap_cons]
      exact ⟨stillBlocked, gained.trans rest⟩

end Blocked

/-- From a blocked stage nothing comes out before the byte ring overflows.

As long as the calls hand over no more bytes than there are free slots, every
attempt among them finds no frame end, or too few bytes to look for one; every
flush extracts nothing; and in the end the buffered bytes are the old ones and
everything that was received.  Of the totals only the received bytes have
changed, so that none was evicted or discarded and no frame was produced.  It
does not matter what is received. -/
theorem blocked_until_overflow {settings : Settings} {stage : Stage}
    (reached : Reachable settings stage)
    (filled : settings.scan.window ≤ stage.bufferedBytes)
    (noEnd : frameEnd ∉ stage.bytes.toList.take settings.scan.window) (calls : List Call)
    (room : (calls.flatMap Call.bytes).length ≤ settings.byteCapacity - stage.bufferedBytes) :
    (forall earlier later, calls = earlier ++ .extract :: later ->
        (stage.after earlier).extract.result =
          if (stage.after earlier).bufferedBytes < settings.scan.minFill then .starved
          else .incomplete) ∧
      (forall earlier later, calls = earlier ++ .flush :: later ->
        (stage.after earlier).flush.result = 0) ∧
      (stage.after calls).bytes.toList = stage.bytes.toList ++ calls.flatMap Call.bytes ∧
      (stage.after calls).totals =
        { stage.totals with
          bytesIngested := stage.totals.bytesIngested + (calls.flatMap Call.bytes).length } := by
  have blocked : stage.Blocked settings := { reached.conforms with filled, noEnd }
  have within := blocked.bufferedBytes_le
  have before : forall earlier call later, calls = earlier ++ call :: later ->
      (stage.after earlier).Blocked settings := by
    intro earlier call later split
    rw [split, List.flatMap_append, List.length_append] at room
    exact (blocked.after earlier (by omega)).1
  refine ⟨?_, ?_, ?_⟩
  · intro earlier later split
    exact (before earlier _ later split).extract_result
  · intro earlier later split
    exact (before earlier _ later split).atRest.flush_result
  · obtain ⟨_, gained⟩ := blocked.after calls (by omega)
    exact ⟨gained.buffered, gained.totals⟩

/-- Two bytes in front of a frame, and a frame start that stays in the
window. -/
theorem blocked_before_frame :
    let settings : Settings :=
      { byteCapacity := 5, recordCapacity := 1, scan := { minFill := 3, window := 2 } }
    let calls : List Call := [.extract, .ingest [0x7B, 0x7D, 0x7D], .extract, .flush, .nextRecord]
    ∃ stage, Reachable settings stage ∧ settings.scan.window ≤ stage.bufferedBytes ∧
      frameEnd ∉ stage.bytes.toList.take settings.scan.window ∧
      (calls.flatMap Call.bytes).length ≤ settings.byteCapacity - stage.bufferedBytes ∧
      (stage.after calls).bytes.toList = [0x7B, 0x61, 0x7B, 0x7D, 0x7D] ∧
      (stage.after calls).totals = { bytesIngested := 5 } := by
  intro settings calls
  have accepted : settings.validate = .ok () := by decide +kernel
  obtain ⟨stage, reached, buffered, totals⟩ :=
    @reachable_of_room settings accepted [0x7B, 0x61] (by decide)
  have size : stage.bufferedBytes = 2 := by
    rw [bufferedBytes, ← Ring.length_toList reached.conforms.sound.bytes, buffered]
    rfl
  have filled : settings.scan.window ≤ stage.bufferedBytes := by
    rw [size]
  have noEnd : frameEnd ∉ stage.bytes.toList.take settings.scan.window := by
    rw [buffered]
    decide
  have room : (calls.flatMap Call.bytes).length ≤ settings.byteCapacity - stage.bufferedBytes := by
    rw [size]
    decide
  obtain ⟨_, _, gained, counted⟩ := blocked_until_overflow reached filled noEnd calls room
  rw [buffered] at gained
  rw [totals] at counted
  exact ⟨stage, reached, filled, noEnd, room, gained, counted⟩

end Stage
end TelemetryRelay
