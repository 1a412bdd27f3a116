-- Client sessions. A session is what the broker remembers of one client: whether
-- it is connected, for how many seconds the session outlives a disconnect, and
-- its last will. A session with a positive interval is persistent. A session
-- that is neither connected nor persistent is a tombstone: it only tells when
-- the client went away.
import BrokerSessions.Will

namespace BrokerSessions

/-- The name under which a client is known. -/
abbrev ClientId := String

/-- What the broker remembers of one client. -/
structure Session where
  connected : Bool
  expiry : Int64
  will : Option Will := none
deriving DecidableEq

namespace Session

/-- The longest interval that a client can ask for: a four-byte number of seconds. -/
def longestExpiry : Int64 := 4294967295

/-- A persistent session outlives a disconnect. The connection does not matter. -/
def isPersistent (s : Session) : Bool := 0 < s.expiry

/-- A live session is connected or persistent. The store counts these. -/
def isLive (s : Session) : Bool := s.connected || s.isPersistent

/-- A tombstone is neither connected nor persistent. -/
def isTombstone (s : Session) : Bool := !s.isLive

/-- The session without its will. -/
def withoutWill (s : Session) : Session := { s with will := none }

/-- The session whose will, if there is one, carries no bytes. -/
def withoutPayload (s : Session) : Session := { s with will := s.will.map Will.withoutPayload }

/-- The payload that the will of the session names. -/
def payloadId? (s : Session) : Option PayloadId := s.will.map Will.payloadId

/-- The payload that has to be looked up before the will is complete: there is a
will, and it carries no bytes. -/
def awaited? (s : Session) : Option PayloadId :=
  match s.will with
  | some w => if w.payload.isSome then none else some w.payloadId
  | none => none

@[simp] theorem isLive_withoutWill (s : Session) : s.withoutWill.isLive = s.isLive := rfl

@[simp] theorem isLive_withoutPayload (s : Session) : s.withoutPayload.isLive = s.isLive := rfl

@[simp] theorem payloadId?_withoutPayload (s : Session) :
    s.withoutPayload.payloadId? = s.payloadId? := by
  cases s with
  | mk c e w => cases w <;> rfl

@[simp] theorem withoutPayload_withoutPayload (s : Session) :
    s.withoutPayload.withoutPayload = s.withoutPayload := by
  cases s with
  | mk c e w => cases w <;> rfl

end Session

open Footprint in
instance : Footprint Session :=
  ⟨fun s => shell + flag + word + reference + (s.will.map footprint).getD 0⟩

end BrokerSessions
