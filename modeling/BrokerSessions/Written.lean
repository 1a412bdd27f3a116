-- The written forms of the types that leave a broker: settings, sessions, wills
-- and what belongs to them. Each type is read back from what it was written as.
import BrokerSessions.Json
import BrokerSessions.Store

namespace BrokerSessions

open Wire

/-! ## Times -/

instance : Wire Timestamp where
  write t := write t.millis
  read j := (read j).map Timestamp.mk

/-- Nanoseconds may be written beyond a second; they carry over. -/
instance : Wire Timespan where
  write s := .object [("secs", write s.seconds), ("nanos", write s.nanos)]
  read j := do
    match ← exactFields? ["secs", "nanos"] j with
    | [seconds, nanos] => Timespan.carry? (← required seconds) (← required nanos)
    | _ => none

/-! ## Wills -/

instance : Wire QoS where
  write
    | .atMostOnce => .text "AtMostOnce"
    | .atLeastOnce => .text "AtLeastOnce"
    | .exactlyOnce => .text "ExactlyOnce"
  read j := do
    match ← choice? j with
    | "AtMostOnce" => some .atMostOnce
    | "AtLeastOnce" => some .atLeastOnce
    | "ExactlyOnce" => some .exactlyOnce
    | _ => none

instance : Wire PayloadFormat where
  write
    | .unspecified => .text "Unspecified"
    | .utf8 => .text "Utf8"
  read j := do
    match ← choice? j with
    | "Unspecified" => some .unspecified
    | "Utf8" => some .utf8
    | _ => none

instance : Wire UserProperty where
  write p := .object [("name", write p.name), ("value", write p.value)]
  read j := do
    match ← fields? ["name", "value"] j with
    | [name, value] => return { name := ← required name, value := ← required value }
    | _ => none

/-- The members of a written publication, in their order. -/
def Publication.memberNames : List String :=
  ["topic", "payload", "qos", "retain", "message_expiry_interval", "delay_interval",
    "payload_format_indicator", "content_type", "response_topic", "correlation_data",
    "user_properties", "broker_id"]

instance : Wire Publication where
  write p := .object (Publication.memberNames.zip [
    write p.topic, write p.payload, write p.qos, write p.retain, write p.messageExpiry,
    write p.delay, write p.format, write p.contentType, write p.responseTopic,
    write p.correlation, write p.properties, write p.broker])
  read j := do
    match ← fields? Publication.memberNames j with
    | [topic, payload, qos, retain, messageExpiry, delay, format, contentType, responseTopic,
        correlation, properties, broker] =>
      return {
        topic := ← required topic
        payload := ← ifPresent payload
        qos := ← required qos
        retain := ← required retain
        messageExpiry := ← required messageExpiry
        delay := ← required delay
        format := ← ifPresent format
        contentType := ← ifPresent contentType
        responseTopic := ← ifPresent responseTopic
        correlation := ← ifPresent correlation
        properties := ← required properties
        broker := ← required broker }
    | _ => none

instance : Wire Will where
  write w := .object [("publish", write w.publication), ("payload_id", write w.payloadId)]
  read j := do
    match ← fields? ["publish", "payload_id"] j with
    | [publication, payloadId] =>
      return { publication := ← required publication, payloadId := ← required payloadId }
    | _ => none

instance : Wire PendingWill where
  write p := .object [("delay_interval", write p.delay),
    ("original_delay_interval", write p.requestedDelay)]
  read j := do
    match ← fields? ["delay_interval", "original_delay_interval"] j with
    | [delay, requestedDelay] =>
      return { delay := ← required delay, requestedDelay := ← required requestedDelay }
    | _ => none

/-! ## Sessions and settings -/

instance : Wire Session where
  write s := .object [("connected", write s.connected),
    ("session_expiry_interval", write s.expiry), ("will", write s.will)]
  read j := do
    match ← fields? ["connected", "session_expiry_interval", "will"] j with
    | [connected, expiry, will] =>
      return {
        connected := ← required connected
        expiry := ← required expiry
        will := ← ifPresent will }
    | _ => none

/-- A setting that is missing has its standard value. -/
instance : Wire Config where
  write c := .object [("bucket_count", write c.bucketCount),
    ("default_session_expiry_interval", write c.defaultExpiry),
    ("cleanup_interval", write c.cleanupInterval)]
  read j := do
    match ← someFields? ["bucket_count", "default_session_expiry_interval", "cleanup_interval"] j with
    | [bucketCount, defaultExpiry, cleanupInterval] =>
      return {
        bucketCount := ← orElse Config.standard.bucketCount bucketCount
        defaultExpiry := ← orElse Config.standard.defaultExpiry defaultExpiry
        cleanupInterval := ← orElse Config.standard.cleanupInterval cleanupInterval }
    | _ => none

/-- The types that leave a broker. -/
inductive WireType where
  | config
  | session
  | will
  | publication
  | property
  | qos
  | format
  | pendingWill
  | timestamp
deriving DecidableEq

/-- The type whose written form is meant. -/
abbrev WireType.Value : WireType → Type
  | config => Config
  | session => Session
  | will => Will
  | publication => Publication
  | property => UserProperty
  | qos => QoS
  | format => PayloadFormat
  | pendingWill => PendingWill
  | timestamp => Timestamp

instance (t : WireType) : Wire t.Value :=
  match t with
  | .config => inferInstanceAs (Wire Config)
  | .session => inferInstanceAs (Wire Session)
  | .will => inferInstanceAs (Wire Will)
  | .publication => inferInstanceAs (Wire Publication)
  | .property => inferInstanceAs (Wire UserProperty)
  | .qos => inferInstanceAs (Wire QoS)
  | .format => inferInstanceAs (Wire PayloadFormat)
  | .pendingWill => inferInstanceAs (Wire PendingWill)
  | .timestamp => inferInstanceAs (Wire Timestamp)

/-- Reads a value of a type and writes it again. -/
def WireType.reread (t : WireType) (j : Json) : Option Json :=
  (read j : Option t.Value).map write

end BrokerSessions
