import TelemetryRelay.Record
import TelemetryRelay.Signal

/-!
# Sinks

A sink takes the records that leave the relay.  Each send takes a while and
may fail; both depend on the sends made before.  A sink that also keeps a
journal writes a line for each record it is sent, before it is known whether
the send succeeds.
-/

namespace TelemetryRelay

inductive DeliveryError where
  | connection (reason : String)
  | publish (reason : String)
deriving DecidableEq, Repr

def DeliveryError.message : DeliveryError -> String
  | connection reason => s!"Connection failed: {reason}"
  | publish reason => s!"Publish failed: {reason}"

/-- A send as the receiving side saw it. -/
structure Delivery where
  /-- When the send was over. -/
  time : Nat
  record : Record
  accepted : Bool
deriving DecidableEq

/-- A receiving side whose behaviour is laid down in advance. -/
structure Sink where
  /-- How long the send with the given index takes. -/
  delay : Nat -> Nat
  /-- Whether the send with the given index succeeds. -/
  accepts : Nat -> Bool
  /-- Keep a journal of the records. -/
  journaling : Bool
  /-- All sends so far, in order. -/
  deliveries : Array Delivery
  /-- Number of records in the journal. -/
  logged : Nat

namespace Sink

/-- A sink that has not received anything. -/
def scripted (delay : Nat -> Nat) (accepts : Nat -> Bool) (journaling : Bool) : Sink :=
  { delay, accepts, journaling, deliveries := #[], logged := 0 }

def name (sink : Sink) : String :=
  if sink.journaling then "log" else "recording"

/-- What is reported when a sink is made. -/
def openingEntries (sink : Sink) : List Entry :=
  if sink.journaling then [.uploadsDisabled] else []

/-- A send: whether it succeeded, when it was over, and what it left. -/
structure Sent where
  result : Except DeliveryError Unit
  now : Nat
  sink : Sink
  journal : List Entry

def send (sink : Sink) (now : Nat) (record : Record) : Sent :=
  let index := sink.deliveries.size
  let time := now + sink.delay index
  let accepted := sink.accepts index
  { result := if accepted then .ok () else .error (.publish "broker unreachable")
    now := time
    sink := { sink with
      deliveries := sink.deliveries.push { time, record, accepted }
      logged := if sink.journaling then sink.logged + 1 else sink.logged }
    journal := if sink.journaling then [.recordLogged record.display] else [] }

end Sink
end TelemetryRelay
