import TelemetryRelay.Message.Reader
import TelemetryRelay.Proofs.Json.Document
import TelemetryRelay.Proofs.Message.Identifier
import TelemetryRelay.Proofs.Message.Time

/-!
# Messages are read back

A message is written as an object of its five fields.  Reading it back meets
each field once, under its name and with a value that the field accepts; when
the object ends, all five are there.

The payload of a record is a canonical value: a text, or what a frame with
plain numbers holds.  A frame is shorter than the nesting allowance, so that one
level more for the envelope is still allowed.
-/

namespace TelemetryRelay
namespace Message

open Utf8 (encodeChars)
open Json (Canonical EndsNumber)

/-! ## Fields -/

def fieldValue (message : Message) : Field -> Json.Value
  | .kind => .text message.kind
  | .id => .text message.id.text
  | .deviceId => .text message.deviceId
  | .timestamp => .text message.timestamp.text
  | .payload => message.payload

def member (message : Message) (field : Field) : String × Json.Value :=
  (field.name, message.fieldValue field)

theorem encode_wire (message : Message) :
    Utf8.encode message.wire =
      0x7B :: (encodeChars (Json.renderMembers (Field.all.map message.member)) ++ [0x7D]) := by
  change Utf8.encode (String.ofList ('\x7b' ::
    (Json.renderMembers (Field.all.map message.member) ++ ['\x7d']))) = _
  rw [Utf8.encode_ofList, Utf8.encodeChars_cons, Utf8.encodeChars_append]
  rfl

def Draft.take (message : Message) (draft : Draft) : Field -> Draft
  | .kind => { draft with kind := some message.kind }
  | .id => { draft with id := some message.id }
  | .deviceId => { draft with deviceId := some message.deviceId }
  | .timestamp => { draft with timestamp := some message.timestamp }
  | .payload => { draft with payload := some message.payload }

theorem Draft.holds_take (message : Message) (draft : Draft) (field other : Field) :
    (draft.take message field).holds other = (decide (other = field) || draft.holds other) := by
  cases field <;> cases other <;> rfl

theorem Field.ofName?_name (field : Field) : Field.ofName? field.name = some field := by
  cases field <;> decide +kernel

structure Readable (message : Message) : Prop where
  year_first : 0 ≤ message.timestamp.year
  year_last : message.timestamp.year ≤ 9999
  fraction : message.timestamp.nanos < 10 ^ 9
  payload : Canonical (Json.nestingLimit - 1) message.payload

theorem completed_of_complete {draft : Draft} {message : Message}
    (complete : draft.complete = .ok message) (rest : List UInt8) :
    completed (.ok (draft, rest)) = .ok (message, rest) := by
  rw [completed, complete]

section

variable {message : Message} (readable : message.Readable)

theorem textField_written {α : Type} (expected : String) (interpret : String -> Except String α)
    {content : String} {value : α} (accepted : interpret content = .ok value)
    (rest : List UInt8) :
    textField expected interpret (encodeChars (Json.Value.text content).renderChars ++ rest) =
      .ok (value, rest) := by
  have quote : Json.OpensValue 0x22 := ⟨by decide, by decide⟩
  rw [Json.Value.renderChars, Json.encodeChars_renderText]
  unfold textField
  rw [Json.skipBlanks_opened quote]
  dsimp only
  rw [if_pos rfl, Json.text_written]
  dsimp only
  rw [accepted]

theorem mapError_of_eq_ok {α ε φ : Type} {outcome : Except ε α} {value : α} (wording : ε -> φ)
    (success : outcome = .ok value) : outcome.mapError wording = .ok value := by
  rw [success]
  rfl

include readable

theorem readField_written (field : Field) (draft : Draft) {rest : List UInt8}
    (ends : EndsNumber rest) :
    readField field draft (encodeChars (message.fieldValue field).renderChars ++ rest) =
      .ok (draft.take message field, rest) := by
  cases field with
  | kind =>
      rw [readField, fieldValue, textField_written _ Except.ok rfl]
      rfl
  | id =>
      rw [readField, fieldValue, textField_written _
        (fun text => (Uuid.ofText text).mapError fun fault =>
          s!"UUID parsing failed: {fault.message}")
        (mapError_of_eq_ok _ (Uuid.ofText_text message.id))]
      rfl
  | deviceId =>
      rw [readField, fieldValue, textField_written _ Except.ok rfl]
      rfl
  | timestamp =>
      have read := Timestamp.ofText_text readable.year_first readable.year_last readable.fraction
      rw [readField, fieldValue, textField_written _
        (fun text => (Timestamp.ofText text).mapError Timestamp.Fault.message)
        (mapError_of_eq_ok _ read)]
      rfl
  | payload =>
      have read : Json.value (Json.nestingLimit - 1)
          (encodeChars message.payload.renderChars ++ rest) = .ok (message.payload, rest) :=
        readable.payload.readsBack.read rest ends
      rw [readField, fieldValue, read]
      rfl

/-! ## Members -/

/-- Behind the name of a field that is still missing, its value is read and then
the members that follow. -/
theorem readMembers_found {budget : Nat} {first : Bool} {draft : Draft} {bytes : List UInt8}
    {field : Field} (missing : draft.holds field = false) {rest : List UInt8}
    (ends : EndsNumber rest)
    (found : Json.nextKey first bytes = .ok (true, Json.memberBytes (message.member field) rest)) :
    readMembers (budget + 1) first draft bytes =
      readMembers budget false (draft.take message field) rest := by
  have colon : Json.expectColon (0x3A :: (encodeChars (message.fieldValue field).renderChars ++
      rest)) = .ok (encodeChars (message.fieldValue field).renderChars ++ rest) := rfl
  rw [readMembers, found, Json.memberBytes]
  dsimp only
  rw [Json.text_written, member]
  dsimp only
  rw [Field.ofName?_name]
  dsimp only
  rw [missing, if_neg (by decide), colon]
  dsimp only
  rw [readField_written readable field draft ends]

/-- The fields behind the first are read back up to the closing brace. -/
theorem readMembers_later {fields : List Field} (once : fields.Nodup) {draft : Draft}
    (missing : forall field, field ∈ fields -> draft.holds field = false) (rest : List UInt8)
    {budget : Nat}
    (enough : (encodeChars (Json.laterMembers (fields.map message.member)) ++
      0x7D :: rest).length ≤ budget) :
    readMembers budget false draft
        (encodeChars (Json.laterMembers (fields.map message.member)) ++ 0x7D :: rest) =
      .ok (fields.foldl (Draft.take message) draft, 0x7D :: rest) := by
  induction fields generalizing draft budget with
  | nil =>
      change (0x7D :: rest).length ≤ budget at enough
      obtain ⟨less, rfl, -⟩ := Json.exists_budget enough
      rfl
  | cons field fields inductionHypothesis =>
      obtain ⟨absent, onceLater⟩ := List.nodup_cons.mp once
      obtain ⟨missingFirst, missingLater⟩ := List.forall_mem_cons.mp missing
      rw [List.map_cons, Json.encodeChars_laterMembers] at enough ⊢
      obtain ⟨less, rfl, enoughMember⟩ := Json.exists_budget enough
      have enoughLater := Nat.le_trans (Json.length_le_memberBytes (message.member field) _)
        (Nat.le_of_succ_le enoughMember)
      rw [readMembers_found readable missingFirst (Json.endsNumber_laterMembers _ rest) rfl,
        List.foldl_cons]
      apply inductionHypothesis onceLater _ enoughLater
      intro other member
      have different : other ≠ field := fun same => absent (same ▸ member)
      rw [Draft.holds_take, missingLater other member, decide_eq_false different]
      rfl

theorem readMembers_written {field : Field} {fields : List Field} (once : (field :: fields).Nodup)
    (rest : List UInt8) {budget : Nat}
    (enough : (encodeChars (Json.renderMembers ((field :: fields).map message.member)) ++
      0x7D :: rest).length ≤ budget) :
    readMembers budget true {}
        (encodeChars (Json.renderMembers ((field :: fields).map message.member)) ++ 0x7D :: rest) =
      .ok ((field :: fields).foldl (Draft.take message) {}, 0x7D :: rest) := by
  obtain ⟨absent, onceLater⟩ := List.nodup_cons.mp once
  have nothing (field : Field) : ({} : Draft).holds field = false := by
    cases field <;> rfl
  rw [List.map_cons, Json.encodeChars_renderMembers] at enough ⊢
  obtain ⟨less, rfl, enoughMember⟩ := Json.exists_budget enough
  have enoughLater := Nat.le_trans (Json.length_le_memberBytes (message.member field) _)
    enoughMember
  rw [readMembers_found readable (nothing field) (Json.endsNumber_laterMembers _ rest) rfl,
    List.foldl_cons]
  apply readMembers_later readable onceLater _ rest enoughLater
  intro other present
  have different : other ≠ field := fun same => absent (same ▸ present)
  rw [Draft.holds_take, nothing, decide_eq_false different]
  rfl

theorem ofWire_wire : ofWire (Utf8.encode message.wire) = .ok message := by
  have complete : (Field.all.foldl (Draft.take message) {}).complete = .ok message := rfl
  have document : read (Utf8.encode message.wire) = .ok (message, []) := by
    rw [encode_wire, read]
    change finish leaveObject (completed (readMembers _ true {} _)) = _
    rw [Field.all] at complete ⊢
    rw [readMembers_written readable (by decide) [] (Nat.le_succ _),
      completed_of_complete complete]
    rfl
  rw [ofWire, document]
  rfl

end

/-! ## Messages of records -/

/-- The payload of a record whose frame is no document, or one of plain numbers,
is a canonical value. -/
theorem canonical_payloadOf {record : Record}
    (plain : forall value, record.json = .ok value -> Json.PlainNumerals record.frame) :
    Canonical (Json.nestingLimit - 1) (payloadOf record) := by
  unfold payloadOf
  split
  · rename_i value document
    have parsed : Json.parse record.frame = .ok value := by
      cases outcome : Json.parse record.frame with
      | error fault =>
          rw [Record.json, outcome] at document
          cases document
      | ok read =>
          rw [Record.json, outcome] at document
          cases document
          rfl
    have short : record.frame.length ≤ recordWidth :=
      record.length_bytes ▸ (List.takeWhile_sublist _).length_le
    exact (Json.canonical_of_parse (plain value document) parsed).mono
      (Nat.le_trans short (by decide))
  · exact .text record.display

/-- A message survives its written form.  What is read back from the wire is the
envelope that the record was put into, with the frame's document as its
payload, or else the frame as a text. -/
theorem ofRecord_survives_wire (deviceId : String) (id : Uuid) (time : Timestamp)
    (record : Record)
    (plain : forall value, record.json = .ok value -> Json.PlainNumerals record.frame)
    (first : 0 ≤ time.year) (last : time.year ≤ 9999) (fraction : time.nanos < 10 ^ 9) :
    let message := ofRecord deviceId id time record
    ofWire (Utf8.encode message.wire) = .ok message ∧
      message.kind = "telemetry" ∧ message.id = id ∧ message.deviceId = deviceId ∧
      message.timestamp = time ∧
      (forall value, record.json = .ok value -> message.payload = value) ∧
      (forall fault, record.json = .error fault -> message.payload = .text record.display) := by
  have readable : (ofRecord deviceId id time record).Readable :=
    ⟨first, last, fraction, canonical_payloadOf plain⟩
  refine ⟨ofWire_wire readable, rfl, rfl, rfl, rfl, ?_, ?_⟩
  · intro value document
    change payloadOf record = value
    rw [payloadOf, document]
  · intro fault refused
    change payloadOf record = .text record.display
    rw [payloadOf, refused]

/-- Numbers at both ends of their range, a text with an escape and digits in it,
and the last nanosecond of the year 9999. -/
theorem extreme_record_survives_wire :
    let record := Record.pad (Utf8.encode
      "\x7b\"n\":[-9223372036854775808,18446744073709551615],\"a\":\"\\u0007 1.5\"\x7d")
    let time : Timestamp := ⟨253402300799, 999999999⟩
    let message := ofRecord "dev-1" Uuid.zero time record
    record.json.toOption.isSome = true ∧ ofWire (Utf8.encode message.wire) = .ok message ∧
      message.kind = "telemetry" ∧ message.id = Uuid.zero ∧ message.deviceId = "dev-1" ∧
        message.timestamp = time ∧
        (forall value, record.json = .ok value -> message.payload = value) ∧
        (forall fault, record.json = .error fault -> message.payload = .text record.display) := by
  intro record time message
  have numbers : Json.numerals record.frame =
      [Utf8.encode (toString (-9223372036854775808 : Int)),
        Utf8.encode (toString (18446744073709551615 : Int))] := by
    decide +kernel
  have plain : Json.PlainNumerals record.frame := by
    intro numeral member
    rw [numbers, List.mem_pair] at member
    rcases member with rfl | rfl
    · exact ⟨_, ⟨by decide, by decide⟩, rfl⟩
    · exact ⟨_, ⟨by decide, by decide⟩, rfl⟩
  exact ⟨by decide +kernel, ofRecord_survives_wire "dev-1" Uuid.zero time record
    (fun _ _ => plain) (by decide +kernel) (by decide +kernel) (by decide +kernel)⟩

end Message
end TelemetryRelay
