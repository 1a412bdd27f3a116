-- What can be asked of a store, beyond a plain look at it. Six requests change
-- one bucket each. The seventh, `find`, may have to fetch a payload on the way.
import BrokerSessions.Store

namespace BrokerSessions

inductive Request where
  /-- Keep this session for a client, in place of the one it had. -/
  | put (client : ClientId) (session : Session) (stamp : Timestamp) (bucket : Nat)
  /-- A client went away. Its will is kept for publishing or given up. -/
  | disconnect (client : ClientId) (stamp : Timestamp) (sendWill : Bool) (bucket : Nat)
      (expiry : Option Int64)
  /-- Forget a client. -/
  | remove (client : ClientId) (bucket : Nat)
  /-- Forget every client of a bucket whose session is over. -/
  | purge (bucket : Nat)
  /-- Change for how long a session outlives a disconnect. -/
  | setExpiry (client : ClientId) (expiry : Int64) (bucket : Nat)
  /-- Give up the will of a client that is away. -/
  | cancelWill (client : ClientId) (bucket : Nat)
  /-- Look a session up, with the bytes of its will if they are wanted. -/
  | find (client : ClientId) (bucket : Nat) (hideExpired withWill : Bool)
deriving DecidableEq

namespace Request

/-- What a request gives when it is granted. -/
def Result : Request → Type
  | put .. => Unit
  | disconnect .. => Session
  | remove .. => Unit
  | purge _ => List ClientId
  | setExpiry .. => Unit
  | cancelWill .. => Option Record
  | find .. => Option Session

/-- The bucket that a request names. -/
def bucket : Request → Nat
  | put _ _ _ b => b
  | disconnect _ _ _ b _ => b
  | remove _ b => b
  | purge b => b
  | setExpiry _ _ b => b
  | cancelWill _ b => b
  | find _ b _ _ => b

/-- Whether a request changes the store. -/
def isMutation : Request → Bool
  | find .. => false
  | _ => true

/-- What the store answers. -/
abbrev Reply (q : Request) : Type := Except Refusal q.Result

end Request

end BrokerSessions
