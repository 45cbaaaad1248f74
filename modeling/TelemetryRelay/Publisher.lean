import TelemetryRelay.Message
import TelemetryRelay.Settings.Basic
import TelemetryRelay.Sink

/-!
# Publishing

The way of a record to the broker ends, as far as the relay is concerned, in
the queue of the broker's client.  The client takes any message for a topic
that names one place; a topic with wildcards, which only subscribers may use,
is refused.
-/

namespace TelemetryRelay

structure Publisher where
  deviceId : String
  topic : String
  /-- Messages handed to the client so far, in order. -/
  queued : List Message

namespace Publisher

def name : String :=
  "mqtt"

def published (publisher : Publisher) : Nat :=
  publisher.queued.length

/-- A connection as the settings describe it, with the line that reports it.
Without a device id the client has no name. -/
def connect (settings : TelemetrySettings) : Except DeliveryError (Publisher × Entry) :=
  if settings.deviceId = "" then .error (.connection "device id is empty")
  else
    let topic := settings.resolvedTopic
    .ok ({ deviceId := settings.deviceId, topic, queued := [] },
      .brokerConnected settings.brokerHost settings.brokerPort topic)

/-- Whether a topic names more than one place. -/
def hasWildcard (topic : String) : Bool :=
  topic.toList.any fun char => char == '+' || char == '#'

def send (publisher : Publisher) (id : Uuid) (timestamp : Timestamp) (record : Record) :
    Except DeliveryError (Publisher × Entry) :=
  if hasWildcard publisher.topic then
    .error (.publish "Failed to send mqtt requests to eventloop")
  else
    let message := Message.ofRecord publisher.deviceId id timestamp record
    .ok ({ publisher with queued := publisher.queued ++ [message] },
      .recordPublished id.text publisher.topic)

end Publisher
end TelemetryRelay
