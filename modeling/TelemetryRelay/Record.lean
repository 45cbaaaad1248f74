import TelemetryRelay.Json.Reader
import TelemetryRelay.Text.Quoted

/-!
# Records

A record is a block of fixed width that holds one frame and is filled up with
zero bytes.  The length of the frame is not stored: the frame ends before the
first zero byte, or at the end of the block.  Nothing is required of the
frame's content.  Reading it as text or as a document may fail; showing it
replaces what is not text.
-/

namespace TelemetryRelay

inductive RecordError where
  /-- The frame is longer than a record. -/
  | frameTooLong (length width : Nat)
  /-- The frame is not text. -/
  | invalidUtf8 (fault : Utf8.Fault)
  /-- The frame is not a document. -/
  | invalidJson (fault : Json.Fault)
deriving DecidableEq, Repr

def RecordError.message : RecordError -> String
  | frameTooLong length width => s!"Frame of {length} bytes exceeds record width {width}"
  | invalidUtf8 fault => s!"Record is not valid UTF-8: {fault.message}"
  | invalidJson fault => s!"Record is not valid JSON: {fault.message}"

/-- Number of bytes in a record.  A frame of the widest scan window fits. -/
def recordWidth : Nat :=
  100

/-- A frame in a block of fixed width, filled up with zeros. -/
structure Record where
  bytes : List UInt8
  length_bytes : bytes.length = recordWidth
deriving DecidableEq

namespace Record

/-- The record of a frame that fits; of a longer one, its beginning. -/
def pad (frame : List UInt8) : Record :=
  { bytes := (frame ++ List.replicate recordWidth 0).take recordWidth
    length_bytes := by simp [recordWidth] }

theorem bytes_pad {frame : List UInt8} (fits : frame.length ≤ recordWidth) :
    (pad frame).bytes = frame ++ List.replicate (recordWidth - frame.length) 0 := by
  change (frame ++ List.replicate recordWidth 0).take recordWidth = _
  rw [List.take_append, List.take_of_length_le fits, List.take_replicate,
    Nat.min_eq_left (Nat.sub_le _ _)]

def empty : Record :=
  pad []

instance recordInhabited : Inhabited Record :=
  ⟨empty⟩

/-- The record of a frame, provided it fits. -/
def ofFrame (frame : List UInt8) : Except RecordError Record :=
  if recordWidth < frame.length then .error (.frameTooLong frame.length recordWidth)
  else .ok (pad frame)

/-- The bytes before the first zero. -/
def frame (record : Record) : List UInt8 :=
  record.bytes.takeWhile (· != 0)

/-- What is read back from the record of a frame is the frame up to its first
zero. -/
theorem frame_pad_eq {frame : List UInt8} (fits : frame.length ≤ recordWidth) :
    (pad frame).frame = frame.takeWhile (· != 0) := by
  have filling (count : Nat) : (List.replicate count (0 : UInt8)).takeWhile (· != 0) = [] := by
    cases count with
    | zero => rfl
    | succ count => rfl
  change (pad frame).bytes.takeWhile (· != 0) = _
  rw [bytes_pad fits, List.takeWhile_append, filling, List.append_nil]
  split
  · rename_i through
    exact ((List.takeWhile_prefix _).eq_of_length through).symm
  · rfl

theorem frame_pad {frame : List UInt8} (fits : frame.length ≤ recordWidth)
    (nonzero : 0 ∉ frame) : (pad frame).frame = frame := by
  have all : forall byte, byte ∈ frame -> (byte != 0) = true := by
    intro byte member
    rw [bne_iff_ne]
    intro zero
    exact nonzero (zero ▸ member)
  have whole : (frame ++ []).takeWhile (· != 0) = frame ++ [] :=
    List.takeWhile_append_of_pos all
  rwa [List.append_nil, ← frame_pad_eq fits] at whole

def text (record : Record) : Except RecordError String :=
  (Utf8.decode record.frame).mapError .invalidUtf8

def json (record : Record) : Except RecordError Json.Value :=
  (Json.parse record.frame).mapError .invalidJson

/-- The frame as text in which a replacement character stands for each piece
that is not text. -/
def display (record : Record) : String :=
  Utf8.decodeLossy record.frame

/-- The displayed frame in quotes, labelled as a record. -/
def describe (record : Record) : String :=
  s!"Record({Quoted.render record.display})"

end Record
end TelemetryRelay
