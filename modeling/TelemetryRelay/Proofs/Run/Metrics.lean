import TelemetryRelay.Proofs.Run.Failures
import TelemetryRelay.Proofs.Stage.Metrics

/-!
# What runs publish

A run counts the sends where its stage counts the rest, and increments counters
of its own for them.  `Published` says that the signals so far and the summary
so far agree, counter by counter.  It holds when a run begins, since nothing but
journal lines has been emitted, and everything that a run does keeps it: the
loop, however its turns follow one another, the flush, and the drain.

The counters outlive the run.  After any number of runs they are sums, one
summand for each run that ended with a summary.  A run that failed adds nothing,
because it fails before anything is counted.
-/

namespace TelemetryRelay
namespace Run

/-- What a summary has for a counter. -/
def Summary.of (summary : Summary) : Counter -> Nat
  | .recordsSent => summary.sent
  | .recordsFailed => summary.failed
  | counter => summary.stage.of counter

/-- What a summary has under a published name. -/
def Summary.metric (summary : Summary) (name : String) : Nat :=
  if name = "uart_records_sent_total" then summary.sent
  else if name = "uart_records_failed_total" then summary.failed
  else summary.stage.metric name

theorem Summary.metric_eq (summary : Summary) (name : String) :
    summary.metric name = ((Counter.named? name).map summary.of).getD 0 := by
  by_cases known : ∃ counter : Counter, name = counter.name
  · rcases known with ⟨counter, rfl⟩
    rw [Counter.named?_name]
    cases counter <;> rfl
  · have other : forall counter : Counter, name ≠ counter.name := not_exists.1 known
    have unknown := Counter.named?_eq_none other
    have nothing : summary.stage.metric name = 0 := by
      rw [StageTotals.metric_eq, unknown]
      rfl
    rw [unknown]
    exact (if_neg (other .recordsSent)).trans <| (if_neg (other .recordsFailed)).trans nothing

/-! ## During a run -/

/-- The signals so far and the summary so far agree. -/
def State.Published (state : State) : Prop :=
  forall counter, Signal.count counter state.signals.toList = state.summary.of counter

namespace State.Published

variable {state : State}

theorem emit {next : State} {signals : List Signal} (published : state.Published)
    (emitted : next.signals = state.signals ++ signals.toArray)
    (counted : forall counter,
      next.summary.of counter = state.summary.of counter + Signal.count counter signals) :
    next.Published := by
  intro counter
  rw [emitted, Array.toList_append, Signal.count_append, published counter, counted]

/-- What a stage publishes is published by the run that it belongs to. -/
theorem advance {next : State} {signals : List Signal} (published : state.Published)
    (publishes : state.stage.Publishes signals next.stage)
    (emitted : next.signals = state.signals ++ signals.toArray) (sent : next.sent = state.sent)
    (failed : next.failed = state.failed) : next.Published := by
  refine published.emit emitted ?_
  intro counter
  have counted := publishes.counted counter
  cases counter <;> simp only [State.summary, Summary.of, StageTotals.of] at counted ⊢ <;> omega

theorem log (published : state.Published) (entries : List Entry) :
    (state.log entries).Published :=
  published.advance (.of_journal _ entries) rfl rfl rfl

theorem receive (published : state.Published) (echo : Bool) (bytes : List UInt8) :
    (state.receive echo bytes).Published :=
  published.advance (state.stage.publishes_undergo (.receive bytes)) rfl rfl rfl

theorem serveExtraction (published : state.Published) : state.serveExtraction.Published :=
  published.advance (state.stage.publishes_undergo .attempt) rfl rfl rfl

/-- A send is counted once, as one that succeeded or as one that failed. -/
theorem deliver (published : state.Published) (record : Record) :
    (state.deliver record).Published := by
  have sent : State.Published
      { state with
        now := (state.sink.send state.now record).now
        sink := (state.sink.send state.now record).sink } := published
  have logged := sent.log (state.sink.send state.now record).journal
  unfold State.deliver
  simp only
  split
  · refine logged.emit rfl ?_
    intro counter
    cases counter <;> rfl
  · refine logged.emit rfl ?_
    intro counter
    cases counter <;> rfl

theorem serveUpload (published : state.Published) : state.serveUpload.Published := by
  unfold State.serveUpload
  simp only
  split
  · exact published
  · rename_i record rest found
    have taken : State.Published
        { state with uploadTick := state.uploadTick.serve state.now, stage := rest } :=
      published.advance (Stage.publishes_take found) rfl rfl rfl
    exact taken.deliver record

theorem waitingTurn (published : state.Published) (plan : Plan) (delivery : Nat) :
    (waitingTurn plan delivery state).Published := by
  unfold Run.waitingTurn
  split
  · exact published.serveExtraction
  · split
    · exact published.serveUpload
    · exact published

theorem turn (published : state.Published) (plan : Plan) : (turn plan state).state.Published := by
  -- Nothing depends on where the clock, the tickers, the source and the sink stand.
  have polled : forall source, State.Published { state with source } := fun _ => published
  have course := course plan state
  generalize Run.turn plan state = taken at course ⊢
  cases course with
  | shutDown request => exact published.log _
  | refused => exact published
  | atEnd => exact (polled _).log _
  | reads => exact ((polled _).log _).receive plan.echo _
  | waits => exact (polled _).waitingTurn plan _

theorem loop (published : state.Published) (plan : Plan) : (loop plan state).state.Published :=
  @loop_composes plan (fun first _ last => first.Published -> last.Published)
    (fun _ kept => kept.turn plan) (fun first second kept => second (first kept)) state published

theorem drain (published : state.Published) (count : Nat) : (state.drain count).Published := by
  induction count generalizing state with
  | zero => exact published
  | succ count inductionHypothesis =>
      rw [State.drain]
      split
      · exact published
      · rename_i record rest found
        have taken : State.Published { state with stage := rest } :=
          published.advance (Stage.publishes_take found) rfl rfl rfl
        exact inductionHypothesis (taken.deliver record)

theorem finish (published : state.Published) : state.finish.Published := by
  have flushed : State.Published
      ({ state with stage := state.stage.flush.stage }.report state.stage.flush.signals) :=
    published.advance state.stage.publishes_flush rfl rfl rfl
  exact ((flushed.log _).drain _).log _

end State.Published

theorem published_begun {settings : Settings} (accepted : settings.validate = .ok ())
    (source : Source) (sink : Sink) (now : Nat) : (begun accepted source sink now).Published := by
  intro counter
  cases counter <;> rfl

/-! ## Run after run -/

section

variable {settings : Settings} {source : Source} {sink : Sink} {now : Nat}
  {shutdownAfter : Option Nat}

theorem count_of_summary (counter : Counter) {summary : Summary}
    (finished : (run settings source sink now shutdownAfter).result = .ok summary) :
    Signal.count counter (run settings source sink now shutdownAfter).signals =
      summary.of counter := by
  cases judged : settings.validate with
  | error fault =>
      rw [run_of_rejected source sink now shutdownAfter judged] at finished
      cases finished
  | ok =>
      rw [run_eq judged source sink now shutdownAfter] at finished ⊢
      cases ending : (looped judged source sink now shutdownAfter).error with
      | some error =>
          simp only [ending] at finished
          cases finished
      | none =>
          simp only [ending] at finished ⊢
          cases finished
          exact ((published_begun judged source sink now).loop _).finish counter

theorem count_of_failure (counter : Counter) {failure : Failure}
    (failed : (run settings source sink now shutdownAfter).result = .error failure) :
    Signal.count counter (run settings source sink now shutdownAfter).signals = 0 := by
  rw [Signal.count, (untouched_of_failed failed).counters]
  rfl

end

/-- A run with settings and a source of its own. -/
structure Launch extends Session where
  settings : Settings
  source : Source

def Launch.outcome (launch : Launch) : Outcome :=
  run launch.settings launch.source launch.sink launch.now launch.shutdownAfter

def signalsOf (launches : List Launch) : List Signal :=
  launches.flatMap fun launch => launch.outcome.signals

def summariesOf (launches : List Launch) : List Summary :=
  launches.filterMap fun launch => launch.outcome.result.toOption

theorem count_signalsOf (counter : Counter) (launches : List Launch) :
    Signal.count counter (signalsOf launches) =
      ((summariesOf launches).map fun summary => summary.of counter).sum := by
  induction launches with
  | nil => rfl
  | cons launch later inductionHypothesis =>
      have first : signalsOf (launch :: later) = launch.outcome.signals ++ signalsOf later :=
        List.flatMap_cons
      rw [first, Signal.count_append, inductionHypothesis]
      cases result : launch.outcome.result with
      | error failure =>
          have none : summariesOf (launch :: later) = summariesOf later :=
            List.filterMap_cons_none (by rw [result]; rfl)
          rw [none, Launch.outcome, count_of_failure counter result, Nat.zero_add]
      | ok summary =>
          have some : summariesOf (launch :: later) = summary :: summariesOf later :=
            List.filterMap_cons_some (by rw [result]; rfl)
          rw [some, Launch.outcome, count_of_summary counter result, List.map_cons, List.sum_cons]

theorem metric_signalsOf (name : String) (launches : List Launch) :
    (Signal.metric? name (signalsOf launches)).getD 0 =
      ((summariesOf launches).map fun summary => summary.metric name).sum := by
  simp only [Signal.getD_metric?, Summary.metric_eq]
  cases Counter.named? name with
  | some counter => exact count_signalsOf counter launches
  | none =>
      have zeros : (summariesOf launches).map (fun _ => 0) =
          List.replicate (summariesOf launches).length 0 := List.map_const'
      simp only [Option.map_none, Option.getD_none, zeros, List.sum_replicate_nat, Nat.mul_zero]

/-- The published metrics agree with what the stages and the runs report of
themselves.  After any calls on a fresh stage each counter equals the total of
its name, each but that of the received bytes is absent exactly as long as the
total is zero, and the gauge shows the buffered share of the byte ring once
anything was received or attempted.  After any runs, each with settings, a
source and a sink of its own, each counter is the sum of what the summaries
have for it, and runs that failed have no part in it. -/
theorem metrics_agree :
    (forall (settings : Settings) (accepted : settings.validate = .ok ()) (calls : List Stage.Call),
        Stage.Metered settings calls (Stage.published accepted calls)
          ((Stage.ofSettings settings accepted).after calls)) ∧
      forall (launches : List Launch) (name : String),
        (Signal.metric? name (signalsOf launches)).getD 0 =
          ((summariesOf launches).map fun summary => summary.metric name).sum :=
  ⟨fun _ accepted calls => Stage.metered accepted calls,
    fun launches name => metric_signalsOf name launches⟩

/-- A ring of two bytes that overflows before the flush finds a frame, and three
runs of which the second fails because the first one has closed the source. -/
theorem metrics_agree_after_overflow :
    let settings : Settings :=
      { byteCapacity := 2, recordCapacity := 1, scan := { minFill := 1, window := 2 } }
    let calls : List Stage.Call := [.ingest [0x61, 0x7B, 0x7D], .flush, .nextRecord]
    let sink := Sink.scripted (fun _ => 4) (fun index => index != 0) false
    let source := Source.scripted [[0x7B, 0x7D], [0x7B, 0x7D]] (some 3)
    let first : Launch := { settings, source, sink, now := 0, shutdownAfter := none }
    let second := { first with source := first.outcome.source }
    let third := { first with settings := { settings with byteCapacity := 1 } }
    ∃ accepted : settings.validate = .ok (),
      Stage.Metered settings calls (Stage.published accepted calls)
          ((Stage.ofSettings settings accepted).after calls) ∧
        (Signal.metric? "uart_records_failed_total" (signalsOf [first, second, third])).getD 0 =
          ((summariesOf [first, second, third]).map fun summary =>
            summary.metric "uart_records_failed_total").sum := by
  intro settings calls sink source first second third
  have accepted : settings.validate = .ok () := by decide +kernel
  have metered := metrics_agree.1 settings accepted calls
  have summed := metrics_agree.2 [first, second, third] "uart_records_failed_total"
  exact ⟨accepted, metered, summed⟩

end Run
end TelemetryRelay
