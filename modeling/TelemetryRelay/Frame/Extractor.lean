import TelemetryRelay.Frame.Window
import TelemetryRelay.Record
import TelemetryRelay.Signal

/-!
# Extracting frames

An extraction attempt looks at the oldest buffered bytes through a window of
bounded width.  It either leaves both rings alone, or drops bytes that cannot
begin a frame, or moves one frame from the byte ring into a record of the
record ring.  Nothing that one attempt found out is used by the next.
-/

namespace TelemetryRelay

/-- When the buffered bytes are looked at, and how many of them at once. -/
structure ScanRules where
  /-- Bytes that must be buffered before an attempt looks at them. -/
  minFill : Nat := 80
  /-- Width of the window. -/
  window : Nat := 100
deriving DecidableEq, Repr

namespace ScanRules

inductive Fault where
  | emptyWindow
  | windowBeyondRecord (window : Nat)
deriving DecidableEq, Repr

def Fault.message : Fault -> String
  | emptyWindow => "Invalid extractor config: window must be > 0"
  | windowBeyondRecord window =>
      s!"Invalid extractor config: window {window} exceeds record width {recordWidth}"

/-- The window has to show something, and a record has to hold what it
shows. -/
def validate (rules : ScanRules) : Except Fault Unit :=
  if rules.window = 0 then .error .emptyWindow
  else if recordWidth < rules.window then .error (.windowBeyondRecord rules.window)
  else .ok ()

theorem validate_eq_ok_iff (rules : ScanRules) :
    rules.validate = .ok () ↔ 0 < rules.window ∧ rules.window ≤ recordWidth := by
  unfold validate
  split
  · rename_i empty
    constructor
    · intro impossible
      cases impossible
    · rintro ⟨positive, _⟩
      omega
  · split
    · rename_i wide
      constructor
      · intro impossible
        cases impossible
      · rintro ⟨_, narrow⟩
        omega
    · exact ⟨fun _ => by omega, fun _ => rfl⟩

end ScanRules

/-- How an extraction attempt ended. -/
inductive Extraction where
  /-- Too few bytes are buffered. -/
  | starved
  /-- No frame ends in the window. -/
  | incomplete
  /-- Bytes were dropped that cannot begin a frame. -/
  | resynced (discarded : Nat)
  /-- A frame became a record. -/
  | produced (length : Nat)
deriving DecidableEq, Repr

namespace Extraction

/-- Whether the byte ring changed. -/
def madeProgress : Extraction -> Bool
  | starved => false
  | incomplete => false
  | resynced _ => true
  | produced _ => true

end Extraction

/-- Accepted rules, and the room that the window is copied to.  The room is
kept between attempts to be used again; what an attempt finds in it is left
over from earlier ones. -/
structure Extractor where
  rules : ScanRules
  accepted : rules.validate = .ok ()
  scratch : List UInt8
  length_scratch : scratch.length = rules.window
deriving DecidableEq

namespace Extractor

def blank (rules : ScanRules) (accepted : rules.validate = .ok ()) : Extractor :=
  { rules, accepted, scratch := List.replicate rules.window 0, length_scratch := by simp }

def create (rules : ScanRules) : Except ScanRules.Fault Extractor :=
  match accepted : rules.validate with
  | .error fault => .error fault
  | .ok () => .ok (blank rules accepted)

/-- The extractor that nothing was said about. -/
def standard : Extractor :=
  blank {} rfl

/-- Copy the oldest buffered bytes, as many as the window shows, over the
front of the room.  The result shows them and leaves the room as it then is. -/
def look (extractor : Extractor) (bytes : Ring UInt8) : List UInt8 × Extractor :=
  let room := extractor.scratch.take (min bytes.length extractor.rules.window)
  let seen := bytes.peek room
  (seen.2.take seen.1,
    { extractor with
      scratch := seen.2 ++ extractor.scratch.drop room.length
      length_scratch := by
        have fixed := extractor.length_scratch
        simp only [seen, room, List.length_append, List.length_drop, List.length_take,
          Ring.length_peek]
        omega })

/-- An attempt: how it ended, what it leaves and the lines it writes. -/
structure Attempt where
  outcome : Extraction
  extractor : Extractor
  bytes : Ring UInt8
  records : Ring Record
  journal : List Entry

def dropGarbage (extractor : Extractor) (bytes : Ring UInt8) (records : Ring Record)
    (length : Nat) (line : Nat -> Entry) : Attempt :=
  let (discarded, rest) := bytes.discard length
  { outcome := .resynced discarded, extractor, bytes := rest, records, journal := [line discarded] }

/-- Move a frame from the front of the byte ring into a record. -/
def promote (extractor : Extractor) (bytes : Ring UInt8) (records : Ring Record) (length : Nat) :
    Attempt :=
  let (copied, frame, rest) := bytes.dequeue (List.replicate (min length recordWidth) 0)
  let full := if records.isFull then [Entry.droppingRecord] else []
  let (kept, inconsistent) :=
    match records.enqueueOne (Record.pad frame) with
    | .ok next => (next, [])
    | .error error => (records, [Entry.recordRingInconsistent error])
  { outcome := .produced copied
    extractor
    bytes := rest
    records := kept
    journal := full ++ inconsistent ++ [.frameExtracted copied] }

def attempt (extractor : Extractor) (bytes : Ring UInt8) (records : Ring Record) : Attempt :=
  if bytes.length < extractor.rules.minFill then
    { outcome := .starved, extractor, bytes, records, journal := [] }
  else
    let (window, extractor) := extractor.look bytes
    match Window.inspect window with
    | .noEnd =>
        { outcome := .incomplete, extractor, bytes, records
          journal := [.noFrameEnd bytes.length] }
    | .garbage length => extractor.dropGarbage bytes records length .discardedBeforeStart
    | .orphanEnd length => extractor.dropGarbage bytes records length .discardedThroughEnd
    | .frame length => extractor.promote bytes records length

end Extractor
end TelemetryRelay
