-- Changes to one session, one after the other, with what each of them reports.
import BrokerSessions.Session

namespace BrokerSessions.Rehearsal

/-- A change to a session, or a question about it. -/
inductive SessionStep where
  | setConnected (connected : Bool)
  | setExpiry (expiry : Int64)
  | takeWill
  | setPayload (bytes : Bytes)
  | clearPayload
  | dropWill
  | dropPayload
  | compare
deriving DecidableEq

/-- What a step reports. -/
inductive SessionNote where
  | nothing
  | will (w : Option Will)
  | payload (bytes : Option Bytes)
  | verdict (holds : Option Bool)
deriving DecidableEq

/-- One step: the session after it, and what it reports. Bytes can only be put into
a will, and taken out of one, when there is a will. -/
def SessionStep.play (first s : Session) : SessionStep → Session × SessionNote
  | setConnected connected => ({ s with connected }, .nothing)
  | setExpiry expiry => ({ s with expiry }, .nothing)
  | takeWill => (s.withoutWill, .will s.will)
  | setPayload bytes =>
    let after := { s with will := s.will.map fun w => w.withPayload bytes }
    (after, .payload (after.will.bind Will.payload))
  | clearPayload =>
    let after := s.withoutPayload
    (after, .verdict (after.will.map fun w => w.payload.isNone))
  | dropWill => (s.withoutWill, .nothing)
  | dropPayload => (s.withoutPayload, .nothing)
  | compare => (s, .verdict (some (s == first)))

/-- All steps: after each, the session and what was reported. -/
def playSession (first : Session) : Session → List SessionStep → List (Session × SessionNote)
  | _, [] => []
  | s, step :: rest =>
    let (after, note) := step.play first s
    (after, note) :: playSession first after rest

end BrokerSessions.Rehearsal
