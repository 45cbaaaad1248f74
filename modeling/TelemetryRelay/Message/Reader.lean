import TelemetryRelay.Decimal.Layout
import TelemetryRelay.Json.Skip
import TelemetryRelay.Message
import TelemetryRelay.Text.Quoted

/-!
# Reading messages

A message is read from an object with its five fields, in any order and among
others, or from an array of the five in order.  A field that occurs twice, or
not at all, is reported without a place of its own.  Such a complaint is placed
where reading stands after the attempt to leave the object or array.
-/

namespace TelemetryRelay
namespace Message

inductive Field where
  | kind
  | id
  | deviceId
  | timestamp
  | payload
deriving DecidableEq, Repr

def Field.name : Field -> String
  | kind => "message_type"
  | id => "message_id"
  | deviceId => "device_id"
  | timestamp => "timestamp"
  | payload => "payload"

/-- The fields in the order in which they are written. -/
def Field.all : List Field :=
  [kind, id, deviceId, timestamp, payload]

def Field.ofName? (name : String) : Option Field :=
  all.find? (·.name == name)

structure Draft where
  kind : Option String := none
  id : Option Uuid := none
  deviceId : Option String := none
  timestamp : Option Timestamp := none
  payload : Option Json.Value := none

def Draft.holds (draft : Draft) : Field -> Bool
  | .kind => draft.kind.isSome
  | .id => draft.id.isSome
  | .deviceId => draft.deviceId.isSome
  | .timestamp => draft.timestamp.isSome
  | .payload => draft.payload.isSome

/-- A message of all fields, or the first field that is missing. -/
def Draft.complete (draft : Draft) : Except Field Message := do
  let kind <- draft.kind.elim (throw .kind) pure
  let id <- draft.id.elim (throw .id) pure
  let deviceId <- draft.deviceId.elim (throw .deviceId) pure
  let timestamp <- draft.timestamp.elim (throw .timestamp) pure
  let payload <- draft.payload.elim (throw .payload) pure
  return { kind, id, deviceId, timestamp, payload }

/-- How messages are called in complaints. -/
def expectedName : String :=
  "struct TelemetryMessage"

/-- What is read instead of the expected value, as complaints cite it. -/
def citedNumber : Json.Number -> String
  | .whole value => s!"integer `{value}`"
  | .real value => s!"floating point `{Decimal.Layout.document.render value}`"

/-- Complain about a value of the wrong kind.  Words, numbers and texts are
read before, brackets are not. -/
def wrongKind (expected : String) (bytes : List UInt8) : Json.Halt :=
  let complain (found : String) (rest : List UInt8) : Json.Halt :=
    .here (.content s!"invalid type: {found}, expected {expected}") rest
  let word (letters found : String) (rest : List UInt8) : Json.Halt :=
    match Json.expectWord letters.toUTF8.toList rest with
    | .error halt => halt
    | .ok after => complain found after
  let numeral (negative : Bool) (rest : List UInt8) : Json.Halt :=
    match Json.number negative rest with
    | .error halt => halt
    | .ok (read, after) => complain (citedNumber read) after
  match bytes with
  | [] => .next .expectedValue []
  | byte :: rest =>
      match Char.ofUInt8 byte with
      | 'n' => word "ull" "null" rest
      | 't' => word "rue" "boolean `true`" rest
      | 'f' => word "alse" "boolean `false`" rest
      | '-' => numeral true rest
      | '"' =>
          match Json.text rest with
          | .error halt => halt
          | .ok (read, after) => complain s!"string {Quoted.render read}" after
      | '[' => complain "sequence" bytes
      | '\x7b' => complain "map" bytes
      | _ =>
          if (Json.decimalDigit? byte).isSome then numeral false bytes
          else .next .expectedValue bytes

/-- Read a text and interpret it. -/
def textField {α : Type} (expected : String) (interpret : String -> Except String α)
    (bytes : List UInt8) : Json.Step α :=
  match Json.skipBlanks bytes with
  | [] => .error (.next .endInValue [])
  | byte :: rest =>
      if byte = 0x22 then
        match Json.text rest with
        | .error halt => .error halt
        | .ok (read, after) =>
            match interpret read with
            | .error complaint => .error (.here (.content complaint) after)
            | .ok value => .ok (value, after)
      else .error (wrongKind expected (byte :: rest))

def readField (field : Field) (draft : Draft) (bytes : List UInt8) : Json.Step Draft :=
  match field with
  | .kind =>
      (textField "a string" Except.ok bytes).map fun (kind, rest) =>
        ({ draft with kind := some kind }, rest)
  | .id =>
      (textField "a formatted UUID string"
        (fun text => (Uuid.ofText text).mapError fun fault =>
          s!"UUID parsing failed: {fault.message}") bytes).map
        fun (id, rest) => ({ draft with id := some id }, rest)
  | .deviceId =>
      (textField "a string" Except.ok bytes).map fun (deviceId, rest) =>
        ({ draft with deviceId := some deviceId }, rest)
  | .timestamp =>
      (textField "an RFC 3339 formatted date and time string"
        (fun text => (Timestamp.ofText text).mapError Timestamp.Fault.message) bytes).map
        fun (timestamp, rest) => ({ draft with timestamp := some timestamp }, rest)
  | .payload =>
      (Json.value (Json.nestingLimit - 1) bytes).map fun (payload, rest) =>
        ({ draft with payload := some payload }, rest)

/-- Why the inside of an object or array is refused. -/
inductive Objection where
  | placed (halt : Json.Halt)
  /-- The complaint still has to be placed; the bytes are the unread ones. -/
  | unplaced (complaint : String) (rest : List UInt8)

/-- The outcome of reading the inside of an object or array. -/
abbrev Inside (α : Type) : Type :=
  Except Objection (α × List UInt8)

/-- Read the members of an object up to its closing brace. -/
def readMembers : Nat -> Bool -> Draft -> List UInt8 -> Inside Draft
  | 0, _, _, bytes => .error (.placed (.next .endInObject bytes))
  | budget + 1, first, draft, bytes =>
      match Json.nextKey first bytes with
      | .error halt => .error (.placed halt)
      | .ok (false, rest) => .ok (draft, rest)
      | .ok (true, rest) =>
          match Json.text rest with
          | .error halt => .error (.placed halt)
          | .ok (key, afterKey) =>
              match Field.ofName? key with
              | none =>
                  match Json.expectColon afterKey with
                  | .error halt => .error (.placed halt)
                  | .ok afterColon =>
                      match Json.skipValue afterColon with
                      | .error halt => .error (.placed halt)
                      | .ok after => readMembers budget false draft after
              | some field =>
                  if draft.holds field then
                    .error (.unplaced s!"duplicate field `{field.name}`" afterKey)
                  else
                    match Json.expectColon afterKey with
                    | .error halt => .error (.placed halt)
                    | .ok afterColon =>
                        match readField field draft afterColon with
                        | .error halt => .error (.placed halt)
                        | .ok (next, after) => readMembers budget false next after

/-- Read the given fields from an array, of which some have been read. -/
def readElements (before : Nat) (draft : Draft) :
    List Field -> List UInt8 -> Inside Draft
  | [], bytes => .ok (draft, bytes)
  | field :: fields, bytes =>
      match Json.nextElement (before == 0) bytes with
      | .error halt => .error (.placed halt)
      | .ok (false, rest) =>
          .error (.unplaced
            s!"invalid length {before}, expected {expectedName} with {Field.all.length} elements"
            rest)
      | .ok (true, rest) =>
          match readField field draft rest with
          | .error halt => .error (.placed halt)
          | .ok (next, after) => readElements (before + 1) next fields after

/-- Leave an object: where reading stands then, and what it complains about if
the object does not end here. -/
def leaveObject (bytes : List UInt8) : List UInt8 × Option Json.Halt :=
  match Json.skipBlanks bytes with
  | [] => ([], some (.next .endInObject []))
  | byte :: rest =>
      if byte = 0x7D then (rest, none)
      else if byte = 0x2C then (byte :: rest, some (.next .trailingComma (byte :: rest)))
      else (byte :: rest, some (.next .trailingCharacters (byte :: rest)))

/-- Leave an array: where reading stands then, and what it complains about if
the array does not end here. -/
def leaveArray (bytes : List UInt8) : List UInt8 × Option Json.Halt :=
  match Json.skipBlanks bytes with
  | [] => ([], some (.next .endInList []))
  | byte :: rest =>
      if byte = 0x5D then (rest, none)
      else if byte = 0x2C then
        match Json.skipBlanks rest with
        | [] => ([], some (.next .trailingCharacters []))
        | next :: behind =>
            if next = 0x5D then (next :: behind, some (.next .trailingComma (next :: behind)))
            else (next :: behind, some (.next .trailingCharacters (next :: behind)))
      else (byte :: rest, some (.next .trailingCharacters (byte :: rest)))

/-- Join what was read inside with the attempt to leave.  A complaint from the
inside comes first. -/
def finish (leave : List UInt8 -> List UInt8 × Option Json.Halt) (inside : Inside Message) :
    Json.Step Message :=
  match inside with
  | .error (.placed halt) => .error halt
  | .error (.unplaced complaint rest) => .error (.here (.content complaint) (leave rest).1)
  | .ok (message, rest) =>
      match leave rest with
      | (_, some halt) => .error halt
      | (after, none) => .ok (message, after)

/-- A message of all fields; a missing one is a complaint without a place. -/
def completed (inside : Inside Draft) : Inside Message :=
  match inside with
  | .error objection => .error objection
  | .ok (draft, rest) =>
      match draft.complete with
      | .ok message => .ok (message, rest)
      | .error field => .error (.unplaced s!"missing field `{field.name}`" rest)

/-- Read a message, leaving what follows it. -/
def read (bytes : List UInt8) : Json.Step Message :=
  match Json.skipBlanks bytes with
  | [] => .error (.next .endInValue [])
  | byte :: rest =>
      if byte = 0x7B then
        finish leaveObject (completed (readMembers (rest.length + 1) true {} rest))
      else if byte = 0x5B then
        finish leaveArray (completed (readElements 0 {} Field.all rest))
      else .error (wrongKind expectedName (byte :: rest))

/-- Read a document that holds exactly one message. -/
def ofWire (document : List UInt8) : Except Json.Fault Message :=
  match read document with
  | .error halt => .error (halt.locate document)
  | .ok (message, rest) =>
      match Json.expectEnd rest with
      | .error halt => .error (halt.locate document)
      | .ok () => .ok message

end Message
end TelemetryRelay
