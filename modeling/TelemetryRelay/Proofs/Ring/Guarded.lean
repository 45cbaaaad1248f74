import TelemetryRelay.Proofs.Ring.Queue

/-!
# Operations of a ring with guards

Every operation of a ring is written once more, step by step and with a guard
at each of them: a sum has to fit 64 bits, a difference must not fall below
zero, a slot or a range has to lie inside its list, a copy needs as many items
as places, and a step that is refused is not passed over.  A guarded operation
stops at the first breach.

The guarded operations are described by their steps only.  What they come to
is known from the unguarded ones.
-/

namespace TelemetryRelay

/-- What a guarded step stops at. -/
inductive Breach where
  /-- A sum that does not fit 64 bits. -/
  | sum (left right : Nat)
  /-- A difference below zero. -/
  | difference (whole part : Nat)
  /-- A division by zero, or into pieces of size zero. -/
  | zeroDivisor
  /-- A place that a list of that size does not have. -/
  | place (index size : Nat)
  /-- A range that a list of that size does not have. -/
  | range (start stop size : Nat)
  /-- A copy to more or fewer places than there are items. -/
  | lengths (items places : Nat)
  /-- A step of an operation that is refused by the ring itself. -/
  | refusal (error : RingError)
deriving DecidableEq, Repr

/-- A result, unless a guard stops what should lead to it. -/
abbrev Guarded (β : Type) : Type :=
  Except Breach β

namespace Guarded

variable {α β : Type}

/-! ## Guarded steps -/

/-- A sum that fits 64 bits. -/
def add (left right : Nat) : Guarded Nat :=
  if left + right < UInt64.size then .ok (left + right) else .error (.sum left right)

/-- A difference that is not below zero. -/
def sub (whole part : Nat) : Guarded Nat :=
  if part ≤ whole then .ok (whole - part) else .error (.difference whole part)

def remainder (number divisor : Nat) : Guarded Nat :=
  if 0 < divisor then .ok (number % divisor) else .error .zeroDivisor

def itemAt (items : List α) (index : Nat) : Guarded α :=
  match items[index]? with
  | some item => .ok item
  | none => .error (.place index items.length)

def range (items : List α) (start stop : Nat) : Guarded (List α) :=
  if start ≤ stop ∧ stop ≤ items.length then .ok ((items.take stop).drop start)
  else .error (.range start stop items.length)

def splitAt (items : List α) (place : Nat) : Guarded (List α × List α) :=
  if place ≤ items.length then .ok (items.take place, items.drop place)
  else .error (.range 0 place items.length)

def copyOver (places items : List α) : Guarded (List α) :=
  if items.length = places.length then .ok items
  else .error (.lengths items.length places.length)

def setSlot (slots : Array α) (index : Nat) (item : α) : Guarded (Array α) :=
  if index < slots.size then .ok (slots.setIfInBounds index item)
  else .error (.place index slots.size)

def overwrite (slots : Array α) (start stop : Nat) (items : List α) : Guarded (Array α) := do
  let places <- range slots.toList start stop
  let copied <- copyOver places items
  return Ring.writeRun slots start copied

/-- A step that must not be refused. -/
def granted (answer : Except RingError β) : Guarded β :=
  answer.mapError .refusal

/-! ## Guarded operations -/

def advance (ring : Ring α) (count : Nat) : Guarded (Ring α) := do
  let readCursor <- remainder (<- add ring.readCursor count) ring.capacity
  let length <- sub ring.length count
  return { ring with readCursor, length }

/-- Drop items to make room.  A ring that holds fewer refuses. -/
def evict (ring : Ring α) (count : Nat) : Guarded (Except RingError (Ring α)) :=
  if ring.length < count then
    return .error (.evictionUnderflow count ring.length)
  else do
    let next <- advance ring count
    let totalEvicted <- add ring.totalEvicted count
    return .ok { next with totalEvicted }

def free (ring : Ring α) : Guarded Nat :=
  sub ring.capacity ring.length

def writeCursor (ring : Ring α) : Guarded Nat := do
  remainder (<- add ring.readCursor ring.length) ring.capacity

def isWrapped (ring : Ring α) : Guarded Bool :=
  if 0 < ring.length then do
    return ring.capacity ≤ (<- add ring.readCursor ring.length)
  else
    return false

def place (ring : Ring α) (item : α) : Guarded (Ring α) := do
  let slots <- setSlot ring.slots (<- writeCursor ring) item
  let length <- add ring.length 1
  let totalEnqueued <- add ring.totalEnqueued 1
  return { ring with slots, length, totalEnqueued }

def enqueueOne (ring : Ring α) (item : α) : Guarded (Ring α) := do
  let roomy <- if ring.isFull then granted (<- evict ring 1) else .ok ring
  place roomy item

/-- Fill free slots, first up to the last slot and then from the first one. -/
def fill (ring : Ring α) (items : List α) : Guarded (Ring α) := do
  let write <- writeCursor ring
  let head := min items.length (<- sub ring.capacity write)
  let front <- range items 0 head
  let slots <- overwrite ring.slots write (<- add write head) front
  let back <- range items head items.length
  let slots <- overwrite slots 0 (<- sub items.length head) back
  let length <- add ring.length items.length
  let totalEnqueued <- add ring.totalEnqueued items.length
  return { ring with slots, length, totalEnqueued }

/-- Drop the shortfall of room for so many items. -/
def makeRoom (ring : Ring α) (count : Nat) : Guarded (Ring α) := do
  let room <- free ring
  if room < count then granted (<- evict ring (<- sub count room)) else .ok ring

/-- Accept items in a single pass.  More than there are slots are refused. -/
def enqueueBulk (ring : Ring α) (items : List α) : Guarded (Except RingError (Ring α)) :=
  if items.length = 0 then
    return .ok ring
  else if ring.capacity < items.length then
    return .error (.chunkTooLarge items.length ring.capacity)
  else do
    return .ok (<- fill (<- makeRoom ring items.length) items)

/-- Accept pieces one after the other, none of which may be refused. -/
def enqueuePieces (ring : Ring α) (accepted : Nat) : List (List α) -> Guarded (Nat × Ring α)
  | [] => return (accepted, ring)
  | piece :: rest => do
      let next <- granted (<- enqueueBulk ring piece)
      enqueuePieces next (<- add accepted piece.length) rest

/-- Accept any number of items, no step of which may be refused. -/
def enqueue (ring : Ring α) (items : List α) : Guarded (Nat × Ring α) :=
  if items.length = 0 then
    return (0, ring)
  else if items.length = 1 then do
    return (1, <- enqueueOne ring (<- itemAt items 0))
  else if ring.capacity < items.length then
    if 0 < ring.capacity then enqueuePieces ring 0 (Ring.pieces ring.capacity items)
    else .error .zeroDivisor
  else do
    return (items.length, <- granted (<- enqueueBulk ring items))

/-- Copy slots over the places, and say what these hold afterwards.  A range
that runs past the last slot is refused. -/
def copyFrom (ring : Ring α) (start : Nat) (places : List α) :
    Guarded (Except RingError Unit × List α) := do
  let stop <- add start places.length
  if ring.capacity < stop then
    return (.error (.outOfRange start places.length ring.capacity), places)
  else
    return (.ok (), <- copyOver places (<- range ring.slots.toList start stop))

/-- Copy slots over the places, which must not be refused. -/
def copyRun (ring : Ring α) (start : Nat) (places : List α) : Guarded (List α) := do
  let (answer, held) <- copyFrom ring start places
  granted answer
  return held

def peek (ring : Ring α) (places : List α) : Guarded (Nat × List α) :=
  let count := min places.length ring.length
  if count = 0 then
    return (0, places)
  else do
    let head := min count (<- sub ring.capacity ring.readCursor)
    let (front, back) <- splitAt (<- range places 0 count) head
    let oldest <- copyRun ring ring.readCursor front
    let newer <- copyRun ring 0 back
    return (count, oldest ++ newer ++ places.drop count)

def dequeue (ring : Ring α) (places : List α) : Guarded (Nat × List α × Ring α) := do
  let (count, held) <- peek ring places
  return (count, held, <- advance ring count)

def pop? (ring : Ring α) : Guarded (Option (α × Ring α)) :=
  if ring.isEmpty then
    return none
  else do
    let item <- itemAt ring.slots.toList ring.readCursor
    return some (item, <- advance ring 1)

def skipOne (ring : Ring α) : Guarded (Bool × Ring α) :=
  if ring.isEmpty then return (false, ring) else do return (true, <- advance ring 1)

def discard (ring : Ring α) (count : Nat) : Guarded (Nat × Ring α) := do
  return (min count ring.length, <- advance ring (min count ring.length))

def clear (ring : Ring α) : Guarded (Ring α) := do
  return { ring with readCursor := (<- writeCursor ring), length := 0 }

def segments (ring : Ring α) : Guarded (List α × List α) := do
  let head := min ring.length (<- sub ring.capacity ring.readCursor)
  let front <- range ring.slots.toList ring.readCursor (<- add ring.readCursor head)
  let back <- range ring.slots.toList 0 (<- sub ring.length head)
  return (front, back)

def toList (ring : Ring α) : Guarded (List α) := do
  let (front, back) <- segments ring
  return front ++ back

/-- The guarded reply of a ring, and the ring afterwards. -/
def serve (ring : Ring α) : Ring.Operation α -> Guarded (Ring.Reply α × Ring α)
  | .enqueueOne item => do return (.done, <- enqueueOne ring item)
  | .enqueueBulk items => do
      match <- enqueueBulk ring items with
      | .ok next => return (.done, next)
      | .error error => return (.refused error, ring)
  | .enqueue items => do
      let (count, next) <- enqueue ring items
      return (.counted count, next)
  | .peek target => do
      let (count, held) <- peek ring target
      return (.copied count held, ring)
  | .dequeue target => do
      let (count, held, next) <- dequeue ring target
      return (.copied count held, next)
  | .pop => do
      match <- pop? ring with
      | some (item, next) => return (.item (some item), next)
      | none => return (.item none, ring)
  | .skipOne => do
      let (answer, next) <- skipOne ring
      return (.told answer, next)
  | .discard count => do
      let (dropped, next) <- discard ring count
      return (.counted dropped, next)
  | .clear => do return (.done, <- clear ring)

/-- Replies to a sequence of guarded operations, and the ring afterwards. -/
def follow (ring : Ring α) :
    List (Ring.Operation α) -> Guarded (List (Ring.Reply α) × Ring α)
  | [] => return ([], ring)
  | operation :: later => do
      let (reply, next) <- serve ring operation
      let (replies, last) <- follow next later
      return (reply :: replies, last)

end Guarded
end TelemetryRelay
