-- One session and one payload ledger, side by side: references are given back,
-- wills meet their payloads, and payloads come and go.
import BrokerSessions.Custody

namespace BrokerSessions.Rehearsal

/-- Something done with the session or with the ledger. -/
inductive CustodyStep where
  | release
  | resolve (r : Resolution)
  | strip
  | retain (id : PayloadId)
  | discard (id : PayloadId)
  | references (id : PayloadId)
deriving DecidableEq

/-- What a step reports. -/
inductive CustodyNote where
  | nothing
  | verdict (holds : Bool)
  | count (n : Int)
deriving DecidableEq

/-- A ledger, and the session whose will it keeps. -/
structure Custody where
  ledger : PayloadLedger
  session : Session

/-- One step: what it leaves, and what it reports. -/
def CustodyStep.play (c : Custody) : CustodyStep → Custody × CustodyNote
  | release => ({ c with ledger := c.session.releaseTo c.ledger }, .nothing)
  | resolve r =>
    let (session, whole) := c.session.resolve c.ledger r
    ({ c with session }, .verdict whole)
  | strip => ({ c with session := c.session.withoutPayload }, .nothing)
  | retain id => ({ c with ledger := c.ledger.retain id }, .nothing)
  | discard id => ({ c with ledger := c.ledger.discard id }, .nothing)
  | references id => (c, .count (c.ledger.references id))

/-- All steps: after each, what it left and what it reported. -/
def playCustody : Custody → List CustodyStep → List (Custody × CustodyNote)
  | _, [] => []
  | c, step :: rest =>
    let (after, note) := step.play c
    (after, note) :: playCustody after rest

end BrokerSessions.Rehearsal
