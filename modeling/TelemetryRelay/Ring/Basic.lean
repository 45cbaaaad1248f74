/-!
# The overwriting ring

A ring holds the newest items of a stream in a fixed number of slots.  It
never refuses an item for want of room: when every slot is occupied, the
oldest buffered item gives way.  The state is the array of slots, the index of
the oldest buffered item and the number of buffered items; the place of the
next write follows from those two, so that a full ring and an empty ring are
told apart by the length alone.

Slots outside the buffered span keep whatever was last written to them.  They
are visible through `copyFrom` only.  `Valid` states the two relations between
cursor, length and capacity on which every operation relies.  It is kept apart
from the type, so that what an operation does to a ring of any other shape can
be said as well.

Memory is idealised.  Every capacity can be allocated, while a program aborts
if the slots take `2 ^ 63` bytes or more, and the two counters are natural
numbers, while a program counts in 64 bits.
-/

namespace TelemetryRelay

universe u

/-- Why a ring refuses a request.  Being full is not among the causes. -/
inductive RingError where
  /-- A copy would run past the last slot. -/
  | outOfRange (start length capacity : Nat)
  /-- A single pass cannot hold that many items. -/
  | chunkTooLarge (length capacity : Nat)
  /-- More items would be dropped than are buffered. -/
  | evictionUnderflow (requested available : Nat)
  /-- The storage has no slot. -/
  | zeroCapacity
deriving DecidableEq, Repr

namespace RingError

def message : RingError -> String
  | outOfRange start length capacity =>
      s!"copy of {length} elements from slot {start} exceeds capacity {capacity}"
  | chunkTooLarge length capacity =>
      s!"chunk of {length} elements exceeds capacity {capacity}"
  | evictionUnderflow requested available =>
      s!"cannot evict {requested} elements, only {available} buffered"
  | zeroCapacity => "ring capacity must be non-zero"

end RingError

/-- A demand that no caller may make.  It ends the program with a message
instead of being answered. -/
inductive Abort where
  /-- A ring without any slot was asked for. -/
  | ringWithoutSlots
deriving DecidableEq, Repr

def Abort.message : Abort -> String
  | ringWithoutSlots => "Ring capacity must be > 0"

/-- A circular store that drops its oldest items for new ones. -/
structure Ring (α : Type u) where
  /-- The storage; its size is the capacity. -/
  slots : Array α
  /-- Index of the oldest buffered item. -/
  readCursor : Nat
  /-- Number of buffered items. -/
  length : Nat
  /-- Items accepted since the ring was made. -/
  totalEnqueued : Nat
  /-- Items dropped to make room since the ring was made. -/
  totalEvicted : Nat
deriving DecidableEq

namespace Ring

variable {α : Type u}

/-- A ring over the given slots that buffers nothing. -/
def overSlots (slots : Array α) : Ring α :=
  { slots, readCursor := 0, length := 0, totalEnqueued := 0, totalEvicted := 0 }

/-- An empty ring whose slots hold the default item. -/
def blank [Inhabited α] (capacity : Nat) : Ring α :=
  overSlots (Array.replicate capacity default)

/-- An empty ring of a positive capacity.  Asking for no slot aborts. -/
def create [Inhabited α] (capacity : Nat) : Except Abort (Ring α) :=
  if capacity = 0 then .error .ringWithoutSlots else .ok (blank capacity)

/-- An empty ring over supplied storage, every slot of which is reset. -/
def ofStorage [Inhabited α] (storage : Array α) : Except RingError (Ring α) :=
  if storage.size = 0 then .error .zeroCapacity else .ok (blank storage.size)

def capacity (ring : Ring α) : Nat :=
  ring.slots.size

/-- The cursor lies in the storage and no more is buffered than fits. -/
def Valid (ring : Ring α) : Prop :=
  ring.readCursor < ring.capacity ∧ ring.length ≤ ring.capacity

instance validDecidable (ring : Ring α) : Decidable ring.Valid :=
  inferInstanceAs (Decidable (_ ∧ _))

def isEmpty (ring : Ring α) : Bool :=
  ring.length == 0

def isFull (ring : Ring α) : Bool :=
  ring.length == ring.capacity

def free (ring : Ring α) : Nat :=
  ring.capacity - ring.length

def fillRatio (ring : Ring α) : Float :=
  ring.length.toFloat / ring.capacity.toFloat

/-- Index of the slot that receives the next item. -/
def writeCursor (ring : Ring α) : Nat :=
  (ring.readCursor + ring.length) % ring.capacity

/-- Whether the buffered span reaches or crosses the last slot, so that the
next item goes to a slot at or before the read cursor. -/
def isWrapped (ring : Ring α) : Bool :=
  0 < ring.length && ring.capacity ≤ ring.readCursor + ring.length

/-! ## Dropping from the front -/

/-- Move the read cursor over the oldest `count` items. -/
def advance (ring : Ring α) (count : Nat) : Ring α :=
  { ring with
    readCursor := (ring.readCursor + count) % ring.capacity
    length := ring.length - count }

/-- Drop the oldest `count` items to make room, and count them as evicted. -/
def evict (ring : Ring α) (count : Nat) : Except RingError (Ring α) :=
  if ring.length < count then
    .error (.evictionUnderflow count ring.length)
  else
    .ok { ring.advance count with totalEvicted := ring.totalEvicted + count }

/-- Drop the oldest item, and say whether there was one. -/
def skipOne (ring : Ring α) : Bool × Ring α :=
  if ring.isEmpty then (false, ring) else (true, ring.advance 1)

/-- Drop up to `count` of the oldest items, and say how many were dropped. -/
def discard (ring : Ring α) (count : Nat) : Nat × Ring α :=
  (min count ring.length, ring.advance (min count ring.length))

def clear (ring : Ring α) : Ring α :=
  { ring with readCursor := ring.writeCursor, length := 0 }

/-! ## Writing at the back -/

/-- Put the items into consecutive slots from `start` on. -/
def writeRun (slots : Array α) (start : Nat) : List α -> Array α
  | [] => slots
  | item :: rest => writeRun (slots.setIfInBounds start item) (start + 1) rest

def place (ring : Ring α) (item : α) : Ring α :=
  { ring with
    slots := ring.slots.setIfInBounds ring.writeCursor item
    length := ring.length + 1
    totalEnqueued := ring.totalEnqueued + 1 }

/-- Accept one item.  A full ring first drops its oldest one. -/
def enqueueOne (ring : Ring α) (item : α) : Except RingError (Ring α) := do
  let roomy <- if ring.isFull then ring.evict 1 else .ok ring
  return roomy.place item

/-- Fill free slots from the write cursor on, going over to the first slot
after the last one. -/
def fill (ring : Ring α) (items : List α) : Ring α :=
  let head := min items.length (ring.capacity - ring.writeCursor)
  { ring with
    slots := writeRun (writeRun ring.slots ring.writeCursor (items.take head)) 0 (items.drop head)
    length := ring.length + items.length
    totalEnqueued := ring.totalEnqueued + items.length }

/-- Accept items in a single pass.  Exactly the shortfall of room is dropped
from the front beforehand.  More items than there are slots are refused. -/
def enqueueBulk (ring : Ring α) (items : List α) : Except RingError (Ring α) :=
  if items.length = 0 then
    .ok ring
  else if ring.capacity < items.length then
    .error (.chunkTooLarge items.length ring.capacity)
  else do
    let roomy <-
      if ring.free < items.length then ring.evict (items.length - ring.free) else .ok ring
    return roomy.fill items

/-- Cut a list into pieces of the given size; the last one may be shorter. -/
def pieces (size : Nat) (items : List α) : List (List α) :=
  if _more : 0 < size ∧ items ≠ [] then
    items.take size :: pieces size (items.drop size)
  else
    []
termination_by items.length
decreasing_by
  have nonempty : 0 < items.length := List.length_pos_iff.2 _more.2
  simp only [List.length_drop]
  omega

/-- Accept pieces one after the other.  The result counts the accepted items;
a refused piece ends the pass. -/
def enqueuePieces (ring : Ring α) (accepted : Nat) : List (List α) -> Nat × Ring α
  | [] => (accepted, ring)
  | piece :: rest =>
      match ring.enqueueBulk piece with
      | .ok next => next.enqueuePieces (accepted + piece.length) rest
      | .error _ => (accepted, ring)

/-- Accept any number of items, the newest ones displacing the oldest.  The
first component counts the accepted items, which is all of them unless the
ring is not `Valid`. -/
def enqueue (ring : Ring α) (items : List α) : Nat × Ring α :=
  match items with
  | [] => (0, ring)
  | [item] =>
      match ring.enqueueOne item with
      | .ok next => (1, next)
      | .error _ => (0, ring)
  | items =>
      if ring.capacity < items.length then
        ring.enqueuePieces 0 (pieces ring.capacity items)
      else
        match ring.enqueueBulk items with
        | .ok next => (items.length, next)
        | .error _ => (0, ring)

/-! ## Reading at the front -/

/-- Items of the slots from index `start` up to, not including, `stop`. -/
def slotRange (ring : Ring α) (start stop : Nat) : List α :=
  (ring.slots.extract start stop).toList

/-- Copy as many slots as `target` has places, from slot `start` on.  The
range may not run past the last slot.  Slots that buffer nothing are copied
like any other. -/
def copyFrom (ring : Ring α) (start : Nat) (target : List α) : Except RingError (List α) :=
  if ring.capacity < start + target.length then
    .error (.outOfRange start target.length ring.capacity)
  else
    .ok (ring.slotRange start (start + target.length))

/-- Copy the oldest items over the front of `target`, as many as there are
places and items.  The first component counts them; the places behind keep
what they held. -/
def peek (ring : Ring α) (target : List α) : Nat × List α :=
  let count := min target.length ring.length
  if count = 0 then
    (0, target)
  else
    let head := min count (ring.capacity - ring.readCursor)
    let front := (target.take count).take head
    let back := (target.take count).drop head
    match ring.copyFrom ring.readCursor front, ring.copyFrom 0 back with
    | .ok oldest, .ok newer => (count, oldest ++ newer ++ target.drop count)
    | _, _ => (0, target)

theorem length_slotRange (ring : Ring α) (start stop : Nat) :
    (ring.slotRange start stop).length = min stop ring.capacity - start := by
  simp only [slotRange, capacity, Array.length_toList, Array.size_extract]

theorem length_copyFrom {ring : Ring α} {start : Nat} {target copied : List α}
    (copies : ring.copyFrom start target = .ok copied) : copied.length = target.length := by
  unfold copyFrom at copies
  split at copies
  · cases copies
  · cases copies
    rw [length_slotRange]
    omega

/-- Peeking changes what the places hold, not how many there are. -/
theorem length_peek (ring : Ring α) (target : List α) :
    (ring.peek target).2.length = target.length := by
  unfold peek
  simp only
  split
  · rfl
  · split
    · rename_i oldest newer front back
      simp only [List.length_append, length_copyFrom front, length_copyFrom back, List.length_take,
        List.length_drop]
      omega
    · rfl

/-- As `peek`, and then drop the items that were copied. -/
def dequeue (ring : Ring α) (target : List α) : Nat × List α × Ring α :=
  let (count, filled) := ring.peek target
  (count, filled, ring.advance count)

def pop? (ring : Ring α) : Option (α × Ring α) :=
  if ring.isEmpty then
    none
  else
    ring.slots[ring.readCursor]?.map fun item => (item, ring.advance 1)

/-- The buffered items as two runs of slots, oldest first.  The second run is
empty unless the span crosses the last slot. -/
def segments (ring : Ring α) : List α × List α :=
  let head := min ring.length (ring.capacity - ring.readCursor)
  (ring.slotRange ring.readCursor (ring.readCursor + head), ring.slotRange 0 (ring.length - head))

def toList (ring : Ring α) : List α :=
  ring.segments.1 ++ ring.segments.2

/-! ## Description -/

/-- One line with the capacity, the cursor and the counters; items are not
shown. -/
def describe (ring : Ring α) : String :=
  let fields :=
    s!"capacity: {ring.capacity}, read: {ring.readCursor}, len: {ring.length}, " ++
    s!"total_enqueued: {ring.totalEnqueued}, total_evicted: {ring.totalEvicted}"
  "RingBuffer \x7b " ++ fields ++ " \x7d"

end Ring
end TelemetryRelay
