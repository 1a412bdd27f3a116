-- When a session ends. A disconnected session ends once the time since its last
-- change reaches its interval. A connected session never ends. A session without
-- an interval ends the moment its client disconnects.
import BrokerSessions.Session
import BrokerSessions.Timestamp

namespace BrokerSessions.Session

/-- The interval of the session in milliseconds. -/
def expiryMillis (s : Session) : Int64 := Saturating.mul s.expiry 1000

/-- Whether the session is over, `elapsed` milliseconds after its last change. -/
def isExpired (s : Session) (elapsed : Int64) : Bool :=
  !s.connected && (s.expiry ≤ 0 || s.expiryMillis ≤ elapsed)

/-- Whether the client is away but may still come back to its session. -/
def isInGrace (s : Session) (elapsed : Int64) : Bool :=
  !s.connected && s.isPersistent && elapsed < s.expiryMillis

/-- The instant at which a session that was last changed at `stamp` ends. -/
def expiresAt (s : Session) (stamp : Timestamp) : Timestamp := stamp.addSeconds s.expiry

end BrokerSessions.Session
