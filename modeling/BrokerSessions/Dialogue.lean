-- Conversations with a store. Whoever talks to the store, a broker or a
-- collaborator that the store itself has called, has a state of its own. It may
-- look at the store, change its own state, and ask requests one after the other;
-- each next step may depend on all answers so far. A conversation always ends.
import BrokerSessions.Request

namespace BrokerSessions

/-- A conversation of somebody with own state `σ` that ends with a value. -/
inductive Dialogue (σ α : Type) where
  | done (value : α)
  | look (next : Store → σ → Dialogue σ α)
  | keep (own : σ) (next : Dialogue σ α)
  | ask (q : Request) (next : q.Reply → Dialogue σ α)

namespace Dialogue

variable {σ α β : Type}

/-- One conversation after the other. -/
def bind : Dialogue σ α → (α → Dialogue σ β) → Dialogue σ β
  | done a, f => f a
  | look next, f => look fun store own => (next store own).bind f
  | keep own next, f => keep own (next.bind f)
  | ask q next, f => ask q fun reply => (next reply).bind f

instance : Monad (Dialogue σ) where
  pure := done
  bind := bind

/-- The store as it is now. -/
def store : Dialogue σ Store := look fun store _ => done store

/-- The own state as it is now. -/
def own : Dialogue σ σ := look fun _ own => done own

/-- A change of the own state. -/
def change (f : σ → σ) : Dialogue σ Unit := look fun _ own => keep (f own) (done ())

/-- A request, and the answer to it. -/
def request (q : Request) : Dialogue σ q.Reply := ask q done

/-! ## Requests that name a client and no bucket -/

def putById (client : ClientId) (session : Session) (stamp : Timestamp) :
    Dialogue σ (Except Refusal Unit) := do
  request (.put client session stamp ((← store).bucketOf client))

def disconnectById (client : ClientId) (stamp : Timestamp) (sendWill : Bool)
    (expiry : Option Int64) : Dialogue σ (Except Refusal Session) := do
  request (.disconnect client stamp sendWill ((← store).bucketOf client) expiry)

def removeById (client : ClientId) : Dialogue σ (Except Refusal Unit) := do
  request (.remove client ((← store).bucketOf client))

def setExpiryById (client : ClientId) (expiry : Int64) : Dialogue σ (Except Refusal Unit) := do
  request (.setExpiry client expiry ((← store).bucketOf client))

def cancelWillById (client : ClientId) : Dialogue σ (Except Refusal (Option Record)) := do
  request (.cancelWill client ((← store).bucketOf client))

/-- A session that is over is hidden, and a will comes with its bytes. -/
def findById (client : ClientId) : Dialogue σ (Except Refusal (Option Session)) := do
  request (.find client ((← store).bucketOf client) true true)

def stampById (client : ClientId) : Dialogue σ (Except Refusal (Option Timestamp)) := do
  let s ← store
  return s.stamp? (s.bucketOf client) client

/-! ## A sweep over all buckets -/

/-- How many clients a purge removed. A purge that is refused removed none. -/
def removedBy : Except Refusal (List ClientId) → Nat
  | .ok clients => clients.length
  | .error _ => 0

/-- Purges some buckets and counts the clients removed, on top of those that were
removed before. -/
def purgeAll (before : Nat) : List Nat → Dialogue σ Nat
  | [] => pure before
  | bucket :: rest => do
    let removed ← request (.purge bucket)
    purgeAll (before + removedBy removed) rest

/-- Purges every bucket and counts the clients removed. -/
def sweep : Dialogue σ Nat := do
  purgeAll 0 (List.range (← store).bucketCount)

end Dialogue

/-- The three that a store depends on and does not own. A payload store takes
references back and hands out bytes, an event log hears of sessions that ended,
and a clock tells the time. The first two may talk to the store before they
return. -/
structure Collaborators (σ : Type) where
  release : PayloadId → Dialogue σ Unit
  fetch : PayloadId → Dialogue σ (Option Bytes)
  announce : Timestamp → ClientId → Dialogue σ Unit
  now : σ → Timestamp

end BrokerSessions
