import TelemetryRelay.Json.Writer
import TelemetryRelay.Record
import TelemetryRelay.Timestamp
import TelemetryRelay.Uuid

/-!
# Messages

A record leaves the relay in an envelope that says which device it comes from
and when, and that can be told apart from every other one.  A record that is a
document becomes the payload as such; any other is forwarded as a text.
-/

namespace TelemetryRelay

/-- A record on its way, with its envelope. -/
structure Message where
  kind : String
  id : Uuid
  deviceId : String
  timestamp : Timestamp
  payload : Json.Value

namespace Message

def payloadOf (record : Record) : Json.Value :=
  match record.json with
  | .ok value => value
  | .error _ => .text record.display

/-- Put a record into its envelope. -/
def ofRecord (deviceId : String) (id : Uuid) (timestamp : Timestamp) (record : Record) : Message :=
  { kind := "telemetry", id, deviceId, timestamp, payload := payloadOf record }

/-- The written form: one document, with the fields in this order. -/
def wire (message : Message) : String :=
  Json.Value.render <| .object
    [("message_type", .text message.kind),
      ("message_id", .text message.id.text),
      ("device_id", .text message.deviceId),
      ("timestamp", .text message.timestamp.text),
      ("payload", message.payload)]

end Message
end TelemetryRelay
