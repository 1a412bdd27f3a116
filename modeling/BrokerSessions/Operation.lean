-- The requests, carried out. Each change of a bucket works under the writer of
-- that bucket, keeps the two counters in step with the records, and gives back
-- the payload reference of every will that it drops. The collaborators are called
-- in the middle of this, and what they see of the counters at that moment is part
-- of the contract, so the order of the steps matters.
import BrokerSessions.Custody
import BrokerSessions.World

namespace BrokerSessions

namespace Operation

variable {σ : Type} (env : Collaborators σ) (serve : Server σ)

/-! ## Calls to the collaborators -/

/-- Gives the payload reference of a will back, if there is a will. -/
def release (s : Session) : Act σ Unit :=
  match s.payloadId? with
  | some id => do
    modify fun w => w.note (.released id)
    (env.release id).run serve
  | none => pure ()

/-- Asks for the bytes of a payload. -/
def fetch (id : PayloadId) : Act σ (Option Bytes) := do
  modify fun w => w.note (.fetched id)
  (env.fetch id).run serve

/-- Tells the event log that the session of a client ended. -/
def announce (instant : Timestamp) (client : ClientId) : Act σ Unit := do
  modify fun w => w.note (.announced instant client)
  (env.announce instant client).run serve

/-- The session with the bytes of its will, or without a will whose payload is gone. -/
def attachPayload (s : Session) : Act σ Session := do
  return (← s.resolveM (fetch env serve) .attach).1

/-- The journal gets to know of a session that lost its will. -/
def noteDangling (s : Session) : Bool → Act σ Unit
  | true => pure ()
  | false => modify fun w => { w with journal := s.payloadId?.toList.map .dangled ++ w.journal }

/-- The session, but without a will whose payload is gone. -/
def dropDangling (s : Session) : Act σ Session := do
  let (kept, whole) ← s.resolveM (fetch env serve) .check
  noteDangling s whole
  return kept

/-! ## Changes -/

/-- Makes room for a record: the one it replaces, if there is one, leaves the
counters, and its will is given back even if both name the same payload. -/
def replace (client : ClientId) (bucket : Nat) (fresh : Record) : Act σ Unit := do
  match (← get).store.record? bucket client with
  | some old =>
    modify fun w => w.lowerMemory old.weight
    release env serve old.object
    modify fun w => w.recount old.object.isLive fresh.object.isLive
  | none => modify fun w => w.recount false fresh.object.isLive

/-- Puts a record into a bucket, and its weight onto the counter. -/
def keep (client : ClientId) (bucket : Nat) (fresh : Record) : Act σ Unit := do
  modify fun w => w.raiseMemory fresh.weight
  modify fun w => w.file bucket client fresh

/-- Keeps a session, with the bytes of its will stripped. -/
def put (client : ClientId) (session : Session) (stamp : Timestamp) (bucket : Nat) :
    Act σ (Except Refusal Unit) :=
  if stamp.isPositive then
    writing bucket do
      let fresh : Record := Entry.weighed { object := session.withoutPayload, stamp }
      replace env serve client bucket fresh
      keep client bucket fresh
      return .ok ()
  else
    return .error (.invalidArgument .stampNotPositive)

/-- Files a disconnect of a client that nobody knew: it gets a session without a
will that ends after the default interval. -/
def fileStranger (client : ClientId) (stamp : Timestamp) (bucket : Nat) : Act σ Session := do
  let stranger : Session := { connected := false, expiry := (← get).store.defaultExpiry }
  modify fun w => w.recount false stranger.isLive
  keep client bucket (Entry.weighed { object := stranger, stamp })
  return stranger.withoutPayload

/-- The session with its will, if the will is to be sent, and else without it. A
will that is not sent is given back. -/
def willOrNone (s : Session) : (sendWill : Bool) → Act σ Session
  | true => pure s
  | false => do
    release env serve s
    return s.withoutWill

/-- Files a disconnect of a known client. A will whose payload is gone is dropped. -/
def fileKnown (client : ClientId) (old : Record) (stamp : Timestamp) (sendWill : Bool)
    (bucket : Nat) (expiry : Option Int64) : Act σ Session := do
  modify fun w => w.lowerMemory old.weight
  let kept ← willOrNone env serve old.object sendWill
  let away ← dropDangling env serve
    { kept with connected := false, expiry := expiry.getD kept.expiry }
  modify fun w => w.recount old.object.isLive away.isLive
  keep client bucket (Entry.weighed { object := away, stamp })
  return away.withoutPayload

/-- Files a disconnect, of a known client or of a stranger. -/
def fileDisconnect (client : ClientId) (stamp : Timestamp) (sendWill : Bool) (bucket : Nat)
    (expiry : Option Int64) : Act σ Session := do
  match (← get).store.record? bucket client with
  | some old => fileKnown env serve client old stamp sendWill bucket expiry
  | none => fileStranger client stamp bucket

/-- A client went away. The answer is its session as it is now, with the bytes of
the will, ready to be published. -/
def disconnect (client : ClientId) (stamp : Timestamp) (sendWill : Bool) (bucket : Nat)
    (expiry : Option Int64) : Act σ (Except Refusal Session) :=
  writing bucket do
    let filed ← fileDisconnect env serve client stamp sendWill bucket expiry
    return .ok (← attachPayload env serve filed)

/-- Takes the record of a client out of a bucket and off the counters. An unknown
client is gone already. -/
def forget (client : ClientId) (bucket : Nat) : Act σ Unit := do
  match (← get).store.record? bucket client with
  | some old =>
    modify fun w => w.erase bucket client
    modify fun w => w.recount old.object.isLive false
    release env serve old.object
    modify fun w => w.lowerMemory old.weight
    modify fun w => w.note (.forgotten bucket client old)
  | none => pure ()

/-- Forgets a client, whatever its session. -/
def remove (client : ClientId) (bucket : Nat) : Act σ (Except Refusal Unit) :=
  writing bucket do
    forget env serve client bucket
    return .ok ()

/-- Forgets one client whose session is over. -/
def dismiss (bucket : Nat) (client : ClientId) (r : Record) : Act σ Unit := do
  modify fun w => w.recount r.object.isLive false
  release env serve r.object
  modify fun w => w.lowerMemory r.weight
  modify fun w => w.erase bucket client
  modify fun w => w.note (.forgotten bucket client r)

/-- Forgets every client of a bucket whose session is over. When all of them are
gone, the event log hears of each, with the instant at which the session ended. -/
def purge (bucket : Nat) : Act σ (Except Refusal (List ClientId)) :=
  writing bucket do
    let w ← get
    let expired := w.store.expired bucket (env.now w.outside)
    expired.forM fun (client, r) => dismiss env serve bucket client r
    expired.forM fun (client, r) => announce env serve (r.object.expiresAt r.stamp) client
    return .ok (expired.map Prod.fst)

/-- Changes for how long a session outlives a disconnect, and stamps the record
anew. A tombstone is no session. -/
def setExpiry (client : ClientId) (expiry : Int64) (bucket : Nat) : Act σ (Except Refusal Unit) :=
  if expiry < 0 then
    return .error (.invalidArgument (.negativeExpiry expiry))
  else
    writing bucket do
      let w ← get
      match w.store.record? bucket client with
      | some old =>
        if old.object.isTombstone then
          return .error .noSession
        else
          let session := { old.object with expiry }
          modify fun w => w.recount true session.isLive
          let fresh : Record := Entry.weighed { object := session, stamp := env.now w.outside }
          modify fun w => w.lowerMemory old.weight
          keep client bucket fresh
          return .ok ()
      | none => return .error .noSession

/-- Gives up the will of a client that is away, and answers with its record. A
connected client keeps its will. -/
def cancelWill (client : ClientId) (bucket : Nat) : Act σ (Except Refusal (Option Record)) :=
  writing bucket do
    match (← get).store.record? bucket client with
    | some old =>
      if old.object.connected then
        return .ok none
      else
        modify fun w => w.lowerMemory old.weight
        release env serve old.object
        let fresh : Record := Entry.weighed { object := old.object.withoutWill, stamp := old.stamp }
        keep client bucket fresh
        return .ok (some { object := fresh.object.withoutPayload, stamp := fresh.stamp })
    | none => return .ok none

/-! ## A look at one session -/

/-- A copy of a session, without the bytes of its will unless they are wanted. -/
def find (client : ClientId) (bucket : Nat) (hideExpired withWill : Bool) :
    Act σ (Except Refusal (Option Session)) := do
  let w ← get
  if bucket < w.store.bucketCount then
    match w.store.record? bucket client with
    | some r =>
      if hideExpired && r.isExpiredAt (env.now w.outside) then
        return .ok none
      else if withWill then
        return .ok (some (← attachPayload env serve r.object.withoutPayload))
      else
        return .ok (some r.object.withoutPayload)
    | none => return .ok none
  else
    return .error (w.store.noSuchBucket bucket)

/-! ## Requests -/

/-- Carries a request out. `serve` answers what the collaborators ask meanwhile. -/
def carryOut : Server σ
  | .put client session stamp bucket => put env serve client session stamp bucket
  | .disconnect client stamp sendWill bucket expiry =>
    disconnect env serve client stamp sendWill bucket expiry
  | .remove client bucket => remove env serve client bucket
  | .purge bucket => purge env serve bucket
  | .setExpiry client expiry bucket => setExpiry env client expiry bucket
  | .cancelWill client bucket => cancelWill env serve client bucket
  | .find client bucket hideExpired withWill => find env serve client bucket hideExpired withWill

end Operation

/-- Why a request was refused, if it was. -/
def refusalOf {α : Type} : Except Refusal α → Option Refusal
  | .ok _ => none
  | .error why => some why

/-- Answers a request, and notes when it came in and when it was answered. `serve`
answers what the collaborators ask meanwhile. -/
def attend {σ : Type} (env : Collaborators σ) (serve : Server σ) : Server σ := fun q => do
  modify fun w => w.note (.called q)
  let reply ← Operation.carryOut env serve q
  modify fun w => w.note (.answered q (refusalOf reply))
  return reply

/-- Answers a request, with at most `depth` requests unfinished at any time, this
one among them. Requests of collaborators are answered the same way, one level
deeper. -/
def perform {σ : Type} (env : Collaborators σ) : Nat → Server σ
  | 0, _ => failure
  | depth + 1, q => attend env (perform env depth) q

/-- A whole conversation with the store. -/
def converse {σ α : Type} (env : Collaborators σ) (depth : Nat) (d : Dialogue σ α) : Act σ α :=
  d.run (perform env depth)

end BrokerSessions
