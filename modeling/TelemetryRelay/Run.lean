import TelemetryRelay.Sink
import TelemetryRelay.Source
import TelemetryRelay.Stage
import TelemetryRelay.Ticker

/-!
# Running the relay

A run multiplexes four activities on one clock: a request to shut down, reads
from the source, extraction attempts and uploads.  Each turn takes the first
of them, in this order, that is ready.  If none is, the clock jumps to the
earliest moment at which one will be.  The run ends with the stream or with
the request; then the stage is flushed and every record left is sent.

A turn never waits for a later turn, so that the loop ends: reads use up the
source's backlog, ticks are served before the next delivery only, and a jump
brings that delivery nearer.

Memory is idealised here, too.  The buffer of a read can be allocated whatever
its length, and so can the rings; a program would abort before its first turn.
The clock and the counters are natural numbers.
-/

namespace TelemetryRelay
namespace Run

structure Summary where
  stage : StageTotals
  sent : Nat
  failed : Nat
deriving DecidableEq, Repr

inductive Failure where
  | settings (fault : Settings.Fault)
  | source (error : SourceError)
deriving DecidableEq, Repr

def Failure.message : Failure -> String
  | settings fault => fault.message
  | source error => error.message

structure State where
  now : Nat
  source : Source
  stage : Stage
  sink : Sink
  /-- Records sent successfully. -/
  sent : Nat
  /-- Records whose sending failed.  They are not sent again. -/
  failed : Nat
  extractionTick : Ticker
  uploadTick : Ticker
  signals : Array Signal

namespace State

def report (state : State) (signals : List Signal) : State :=
  { state with signals := state.signals ++ signals.toArray }

def log (state : State) (entries : List Entry) : State :=
  state.report (entries.map .journal)

/-- Hand received bytes to the stage, and back to the source if they are to be
echoed. -/
def receive (state : State) (echo : Bool) (bytes : List UInt8) : State :=
  let step := state.stage.ingest bytes
  { state with
    stage := step.stage
    source := if echo then state.source.write bytes else state.source }.report step.signals

/-- Make the extraction attempt that is due. -/
def serveExtraction (state : State) : State :=
  let step := state.stage.extract
  { state with
    stage := step.stage
    extractionTick := state.extractionTick.serve state.now }.report step.signals

def deliver (state : State) (record : Record) : State :=
  let sending := state.sink.send state.now record
  let after := { state with now := sending.now, sink := sending.sink }.log sending.journal
  match sending.result with
  | .ok () =>
      { after with sent := after.sent + 1 }.report [.increment .recordsSent 1]
  | .error error =>
      { after with failed := after.failed + 1 }.report
        [.journal (.sendFailed sending.sink.name error.message), .increment .recordsFailed 1]

/-- Make the upload that is due: send the oldest waiting record, if there is
one. -/
def serveUpload (state : State) : State :=
  let served := { state with uploadTick := state.uploadTick.serve state.now }
  match served.stage.nextRecord? with
  | none => served
  | some (record, stage) => { served with stage }.deliver record

/-- Send waiting records, but no more than the given number. -/
def drain : Nat -> State -> State
  | 0, state => state
  | count + 1, state =>
      match state.stage.nextRecord? with
      | none => state
      | some (record, stage) => drain count ({ state with stage }.deliver record)

/-- Flush the stage and send all that waits. -/
def finish (state : State) : State :=
  let step := state.stage.flush
  let flushed := { state with stage := step.stage }.report step.signals
  let pending := flushed.stage.pendingRecords
  let drained := (flushed.log [.flushed step.result pending]).drain pending
  drained.log [.pipelineStopped drained.stage.totals.framesExtracted drained.sent drained.failed]

def summary (state : State) : Summary :=
  { stage := state.stage.totals, sent := state.sent, failed := state.failed }

end State

/-- What the loop keeps to throughout a run. -/
structure Plan where
  readChunk : Nat
  echo : Bool
  /-- When the request to shut down comes, if it does. -/
  shutdown : Option Nat

inductive Turn where
  /-- The loop goes on. -/
  | again (state : State)
  /-- The loop is over. -/
  | ended (state : State)
  /-- The source cannot be read. -/
  | failed (error : SourceError) (state : State)

def Plan.isShutDown (plan : Plan) (now : Nat) : Bool :=
  plan.shutdown.any (· ≤ now)

/-- The turn of a loop whose source delivers nothing before the given time. -/
def waitingTurn (plan : Plan) (delivery : Nat) (state : State) : State :=
  if state.extractionTick.isDue state.now then
    state.serveExtraction
  else if state.uploadTick.isDue state.now then
    state.serveUpload
  else
    let tick := min state.extractionTick.due state.uploadTick.due
    { state with now := min (min delivery tick) (plan.shutdown.getD delivery) }

def turn (plan : Plan) (state : State) : Turn :=
  if plan.isShutDown state.now then
    .ended (state.log [.shutdownRequested])
  else
    match state.source.poll state.now plan.readChunk with
    | .refused error => .failed error state
    | .finished bytes source journal =>
        let read := { state with source }.log journal
        if bytes = [] then .ended read else .again (read.receive plan.echo bytes)
    | .waiting due source => .again (waitingTurn plan due { state with source })

/-- What a turn can come to, and when. -/
inductive Course (plan : Plan) (state : State) : Turn -> Prop
  | shutDown (request : plan.isShutDown state.now = true) :
      Course plan state (.ended (state.log [.shutdownRequested]))
  | refused {error : SourceError} (early : plan.isShutDown state.now = false)
      (answer : state.source.poll state.now plan.readChunk = .refused error) :
      Course plan state (.failed error state)
  | atEnd {source : Source} {journal : List Entry} (early : plan.isShutDown state.now = false)
      (answer : state.source.poll state.now plan.readChunk = .finished [] source journal) :
      Course plan state (.ended ({ state with source }.log journal))
  | reads {bytes : List UInt8} {source : Source} {journal : List Entry}
      (early : plan.isShutDown state.now = false)
      (answer : state.source.poll state.now plan.readChunk = .finished bytes source journal)
      (nonempty : bytes ≠ []) :
      Course plan state (.again (({ state with source }.log journal).receive plan.echo bytes))
  | waits {due : Nat} {source : Source} (early : plan.isShutDown state.now = false)
      (answer : state.source.poll state.now plan.readChunk = .waiting due source) :
      Course plan state (.again (waitingTurn plan due { state with source }))

theorem course (plan : Plan) (state : State) : Course plan state (turn plan state) := by
  unfold turn
  split
  · rename_i request
    exact .shutDown request
  · rename_i later
    have early : plan.isShutDown state.now = false := Bool.eq_false_iff.2 later
    split
    · rename_i error answer
      exact .refused early answer
    · rename_i bytes source journal answer
      simp only
      split
      · rename_i nothing
        subst nothing
        exact .atEnd early answer
      · rename_i nonempty
        exact .reads early answer nonempty
    · rename_i due source answer
      exact .waits early answer

/-! ## The loop ends -/

/-- When the source delivers next, as far as the turn now can tell. -/
def State.horizon (state : State) : Nat :=
  state.source.deadline.getD (state.now + state.source.pace.getD 0)

/-- Time before the horizon that the tickers have not passed yet. -/
def State.ticksLeft (state : State) : Nat :=
  (state.horizon - state.extractionTick.due) + (state.horizon - state.uploadTick.due)

/-- Time up to the horizon. -/
def State.timeLeft (state : State) : Nat :=
  state.horizon - state.now

namespace State

theorem deliver_source (state : State) (record : Record) :
    (state.deliver record).source = state.source := by
  cases outcome : (state.sink.send state.now record).result <;>
    simp only [deliver, outcome, report, log]

theorem deliver_extractionTick (state : State) (record : Record) :
    (state.deliver record).extractionTick = state.extractionTick := by
  cases outcome : (state.sink.send state.now record).result <;>
    simp only [deliver, outcome, report, log]

theorem deliver_uploadTick (state : State) (record : Record) :
    (state.deliver record).uploadTick = state.uploadTick := by
  cases outcome : (state.sink.send state.now record).result <;>
    simp only [deliver, outcome, report, log]

theorem deliver_clock (state : State) (record : Record) :
    (state.deliver record).now = state.now + state.sink.delay state.sink.deliveries.size ∧
      (state.deliver record).sink.delay = state.sink.delay := by
  cases outcome : state.sink.accepts state.sink.deliveries.size <;>
    simp [deliver, Sink.send, outcome, report, log]

/-- An upload leaves the source and the other ticker alone. -/
theorem serveUpload_keeps (state : State) :
    state.serveUpload.source = state.source ∧
      state.serveUpload.extractionTick = state.extractionTick ∧
      state.serveUpload.uploadTick = state.uploadTick.serve state.now := by
  unfold serveUpload
  simp only
  split
  · exact ⟨rfl, rfl, rfl⟩
  · rw [deliver_source, deliver_extractionTick, deliver_uploadTick]
    exact ⟨rfl, rfl, rfl⟩

theorem le_serveUpload_now (state : State) : state.now ≤ state.serveUpload.now := by
  unfold serveUpload
  simp only
  split
  · exact Nat.le_refl _
  · rename_i record rest _
    rw [(deliver_clock
      { state with uploadTick := state.uploadTick.serve state.now, stage := rest } record).1]
    exact Nat.le_add_right _ _

theorem horizon_eq_of_fixed {state : State} {due : Nat}
    (fixed : state.source.deliveryTime? state.now = some due) : state.horizon = due := by
  unfold Source.deliveryTime? at fixed
  split at fixed
  · rename_i pace chunk later paceEq chunksEq
    simp only [Option.some.injEq] at fixed
    simp only [horizon, paceEq, Option.getD_some]
    exact fixed
  · cases fixed

/-- The backlog after bytes were received is that of the source they came
from; echoing adds to what was written only. -/
theorem receive_backlog (state : State) (echo : Bool) (bytes : List UInt8) :
    (state.receive echo bytes).source.backlog = state.source.backlog := by
  cases echo <;> rfl

end State

/-- A turn that waits uses up ticks or time before the delivery, and wins back
neither. -/
theorem waitingTurn_advances (plan : Plan) (delivery : Nat) (state : State)
    (fixed : state.source.deadline = some delivery) (early : state.now < delivery)
    (stillOpen : plan.isShutDown state.now = false) :
    (waitingTurn plan delivery state).source = state.source ∧
      ((waitingTurn plan delivery state).ticksLeft < state.ticksLeft ∧
          (waitingTurn plan delivery state).timeLeft ≤ state.timeLeft ∨
        (waitingTurn plan delivery state).ticksLeft = state.ticksLeft ∧
          (waitingTurn plan delivery state).timeLeft < state.timeLeft) := by
  unfold waitingTurn
  split
  · rename_i due
    have passed := state.extractionTick.due_lt_serve_due state.now (by simpa [Ticker.isDue] using due)
    have before : state.extractionTick.due ≤ state.now := by simpa [Ticker.isDue] using due
    refine ⟨rfl, Or.inl ⟨?_, ?_⟩⟩
    · simp only [State.ticksLeft, State.horizon, State.serveExtraction, State.report, fixed,
        Option.getD_some]
      omega
    · simp only [State.timeLeft, State.horizon, State.serveExtraction, State.report, fixed,
        Option.getD_some]
      exact Nat.le_refl _
  · split
    · rename_i due
      have passed := state.uploadTick.due_lt_serve_due state.now (by simpa [Ticker.isDue] using due)
      have before : state.uploadTick.due ≤ state.now := by simpa [Ticker.isDue] using due
      obtain ⟨sameSource, sameExtraction, served⟩ := state.serveUpload_keeps
      refine ⟨sameSource, Or.inl ⟨?_, ?_⟩⟩
      · simp only [State.ticksLeft, State.horizon, sameSource, sameExtraction, served, fixed,
          Option.getD_some]
        omega
      · simp only [State.timeLeft, State.horizon, sameSource, fixed, Option.getD_some]
        exact Nat.sub_le_sub_left state.le_serveUpload_now delivery
    · rename_i extractionLater uploadLater
      have first : state.now < state.extractionTick.due := by
        simpa [Ticker.isDue] using extractionLater
      have second : state.now < state.uploadTick.due := by
        simpa [Ticker.isDue] using uploadLater
      have third : state.now < plan.shutdown.getD delivery := by
        cases request : plan.shutdown with
        | none => simpa using early
        | some time => simpa [Plan.isShutDown, request] using stillOpen
      refine ⟨rfl, Or.inr ⟨?_, ?_⟩⟩
      · simp only [State.ticksLeft, State.horizon, fixed, Option.getD_some]
      · simp only [State.timeLeft, State.horizon, fixed, Option.getD_some]
        omega

/-- A turn after which the loop goes on uses up the backlog, or ticks, or
time. -/
theorem turn_advances {plan : Plan} {state next : State}
    (goesOn : turn plan state = .again next) :
    next.source.backlog < state.source.backlog ∨
      next.source.backlog = state.source.backlog ∧
        (next.ticksLeft < state.ticksLeft ∧ next.timeLeft ≤ state.timeLeft ∨
          next.ticksLeft = state.ticksLeft ∧ next.timeLeft < state.timeLeft) := by
  have course := course plan state
  rw [goesOn] at course
  cases course with
  | reads _ answer nonempty =>
      obtain ⟨sameBytes, sameSource⟩ := Source.poll_finished answer nonempty
      refine Or.inl ?_
      rw [State.receive_backlog]
      simp only [State.log, State.report, sameSource]
      exact Source.backlog_deliver_lt _ _ (by rw [← sameBytes]; exact nonempty)
  | waits stillOpen answer =>
      rename_i due source
      obtain ⟨found, early, sameSource⟩ := Source.poll_waiting answer
      subst sameSource
      have advance := waitingTurn_advances plan due
        { state with source := { state.source with deadline := some due } } rfl early stillOpen
      have sameHorizon := State.horizon_eq_of_fixed found
      have sameTicks : State.ticksLeft
          { state with source := { state.source with deadline := some due } } =
            state.ticksLeft := by
        simp only [State.ticksLeft, sameHorizon]
        rfl
      have sameTime : State.timeLeft
          { state with source := { state.source with deadline := some due } } =
            state.timeLeft := by
        simp only [State.timeLeft, sameHorizon]
        rfl
      rw [sameTicks, sameTime] at advance
      refine Or.inr ⟨?_, advance.2⟩
      rw [advance.1]
      rfl

theorem turn_decreases {plan : Plan} {state next : State}
    (goesOn : turn plan state = .again next) :
    Prod.Lex (· < ·) (Prod.Lex (· < ·) (· < ·))
      (next.source.backlog, next.ticksLeft, next.timeLeft)
      (state.source.backlog, state.ticksLeft, state.timeLeft) := by
  rcases turn_advances goesOn with fewer | ⟨same, ⟨fewer, _⟩ | ⟨sameTicks, fewer⟩⟩
  · exact Prod.Lex.left _ _ fewer
  · rw [same]
    exact Prod.Lex.right _ (Prod.Lex.left _ _ fewer)
  · rw [same, sameTicks]
    exact Prod.Lex.right _ (Prod.Lex.right _ fewer)

structure Exit where
  state : State
  /-- The error of the source, if that ended it. -/
  error : Option SourceError

/-- Take turns until one of them ends the loop. -/
def loop (plan : Plan) (state : State) : Exit :=
  match _outcome : turn plan state with
  | .again next => loop plan next
  | .ended last => { state := last, error := none }
  | .failed error last => { state := last, error := some error }
termination_by (state.source.backlog, state.ticksLeft, state.timeLeft)
decreasing_by
  exact turn_decreases _outcome

/-! ## A whole run -/

/-- A run: its result, and everything it leaves behind. -/
structure Outcome where
  result : Except Failure Summary
  now : Nat
  source : Source
  sink : Sink
  signals : List Signal

/-- The beginning of a run over a fresh stage.  Both tickers are due at
once. -/
def start (settings : Settings) (accepted : settings.validate = .ok ()) (stage : Stage.Step Unit)
    (source : Source) (sink : Sink) (now : Nat) : State :=
  let positive := Settings.intervals_positive accepted
  { now, source, sink
    stage := stage.stage
    sent := 0
    failed := 0
    extractionTick := { due := now, period := settings.extractInterval, period_positive := positive.1 }
    uploadTick := { due := now, period := settings.uploadInterval, period_positive := positive.2 }
    signals :=
      (stage.signals ++ [Signal.journal (.pipelineRunning source.device sink.name)]).toArray }

def planOf (settings : Settings) (now : Nat) (shutdownAfter : Option Nat) : Plan :=
  { readChunk := settings.serial.readChunk
    echo := settings.serial.echo
    shutdown := shutdownAfter.map (now + ·) }

/-- Run until the stream ends or, if a time is given, until that much time has
passed.  Settings that are not acceptable end the run before it touches
anything. -/
def run (settings : Settings) (source : Source) (sink : Sink) (now : Nat)
    (shutdownAfter : Option Nat) : Outcome :=
  match accepted : settings.validate with
  | .error fault =>
      { result := .error (.settings fault), now, source, sink, signals := [] }
  | .ok () =>
      let plan := planOf settings now shutdownAfter
      let exit := loop plan (start settings accepted (Stage.opened settings accepted) source sink now)
      match exit.error with
      | some error =>
          { result := .error (.source error)
            now := exit.state.now
            source := exit.state.source
            sink := exit.state.sink
            signals := exit.state.signals.toList }
      | none =>
          let last := exit.state.finish
          { result := .ok last.summary
            now := last.now
            source := last.source
            sink := last.sink
            signals := last.signals.toList }

end Run
end TelemetryRelay
