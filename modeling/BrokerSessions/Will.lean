-- Last wills. A will is the message that the broker publishes for a client that
-- goes away without saying so. The bytes of the message live in a payload store;
-- a will names them by a payload id, and carries them only for as long as a
-- caller needs them.
import BrokerSessions.Footprint

namespace BrokerSessions

/-- A handle into the payload store. -/
abbrev PayloadId := UInt64

/-- How hard the broker tries to deliver a message. -/
inductive QoS where
  | atMostOnce
  | atLeastOnce
  | exactlyOnce
deriving DecidableEq

/-- The number of a level on the wire. -/
def QoS.code : QoS → Nat
  | .atMostOnce => 0
  | .atLeastOnce => 1
  | .exactlyOnce => 2

/-- What a client says about the bytes of a payload. -/
inductive PayloadFormat where
  | unspecified
  | utf8
deriving DecidableEq

/-- A name and a value that a client attaches to a message. -/
structure UserProperty where
  name : String
  value : String
deriving DecidableEq

/-- The message of a will. Intervals are seconds. -/
structure Publication where
  topic : String
  payload : Option Bytes := none
  qos : QoS := .atMostOnce
  retain : Bool := false
  messageExpiry : Int64 := 4294967295
  delay : Int64 := 0
  format : Option PayloadFormat := none
  contentType : Option String := none
  responseTopic : Option String := none
  correlation : Option Bytes := none
  properties : List UserProperty := []
  broker : String := ""
deriving DecidableEq

/-- The message without the bytes of its payload. -/
def Publication.withoutPayload (p : Publication) : Publication := { p with payload := none }

/-- The message with one more user property, after those it has. -/
def Publication.addProperty (p : Publication) (property : UserProperty) : Publication :=
  { p with properties := p.properties ++ [property] }

/-- A will of a session. It holds one reference to the payload that it names. -/
structure Will where
  publication : Publication
  payloadId : PayloadId
deriving DecidableEq

namespace Will

/-- The bytes that the will carries at the moment, if any. -/
def payload (w : Will) : Option Bytes := w.publication.payload

/-- The will with the given bytes. -/
def withPayload (w : Will) (bytes : Bytes) : Will :=
  { w with publication := { w.publication with payload := some bytes } }

/-- The will with the reference to its payload, but without the bytes. -/
def withoutPayload (w : Will) : Will := { w with publication := w.publication.withoutPayload }

@[simp] theorem payload_withPayload (w : Will) (b : Bytes) : (w.withPayload b).payload = some b := rfl

@[simp] theorem payload_withoutPayload (w : Will) : w.withoutPayload.payload = none := rfl

@[simp] theorem payloadId_withPayload (w : Will) (b : Bytes) :
    (w.withPayload b).payloadId = w.payloadId := rfl

@[simp] theorem payloadId_withoutPayload (w : Will) : w.withoutPayload.payloadId = w.payloadId := rfl

@[simp] theorem withoutPayload_withPayload (w : Will) (b : Bytes) :
    (w.withPayload b).withoutPayload = w.withoutPayload := rfl

@[simp] theorem withoutPayload_withoutPayload (w : Will) :
    w.withoutPayload.withoutPayload = w.withoutPayload := rfl

end Will

/-! ## Footprints -/

open Footprint in
instance : Footprint UserProperty :=
  ⟨fun p => reference + ofText p.name + ofText p.value⟩

/-- The bytes of the payload belong to the payload store and do not count here. -/
def Publication.footprint (p : Publication) : Nat :=
  Footprint.choice + Footprint.word
    + Footprint.ofItems p.properties
    + Footprint.word
    + Footprint.ofText p.topic
    + Footprint.ofOption Footprint.ofText p.responseTopic
    + Footprint.ofOption Footprint.ofText p.contentType
    + Footprint.ofOption Footprint.ofBytes p.correlation
    + Footprint.ofText p.broker
    + Footprint.choice + Footprint.flag

open Footprint in
instance : Footprint Will := ⟨fun w => shell + word + reference + w.publication.footprint⟩

end BrokerSessions
