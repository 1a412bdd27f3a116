-- How a will meets its payload. A caller that wants to publish a will needs the
-- bytes. A store that files a disconnect only needs to know that they are still
-- there. Both ask the same question, and both drop a will whose payload is gone.
import BrokerSessions.PayloadLedger
import BrokerSessions.Session

namespace BrokerSessions

/-- What to do with a payload that is found: put its bytes into the will, or be
content that it is there. -/
inductive Resolution where
  | attach
  | check
deriving DecidableEq

/-- The session after its payload was found. -/
def Resolution.found (r : Resolution) (s : Session) (bytes : Bytes) : Session :=
  match r with
  | .attach => { s with will := s.will.map fun w => w.withPayload bytes }
  | .check => s

namespace Session

/-- Looks up the payload of the will with `fetch`, unless there is no will or it
carries its bytes already. A will whose payload is gone is dropped; then, and
only then, the answer is `false`. -/
def resolveM {m : Type → Type} [Monad m] (fetch : PayloadId → m (Option Bytes)) (r : Resolution)
    (s : Session) : m (Session × Bool) :=
  match s.awaited? with
  | none => pure (s, true)
  | some id => do
    match ← fetch id with
    | some bytes => pure (r.found s bytes, true)
    | none => pure (s.withoutWill, false)

/-- Resolves a will against a ledger. -/
def resolve (l : PayloadLedger) (r : Resolution) (s : Session) : Session × Bool :=
  s.resolveM (m := Id) l.bytes? r

/-- Gives the reference of the will back to a ledger. -/
def releaseTo (s : Session) (l : PayloadLedger) : PayloadLedger :=
  match s.payloadId? with
  | some id => l.release id
  | none => l

end Session

end BrokerSessions
