-- Collaborators that only do their own work: a payload ledger, a clock that
-- stands still until somebody moves it, and an event log that remembers what it
-- was told. They never talk back to the store.
import BrokerSessions.World
import BrokerSessions.PayloadLedger

namespace BrokerSessions

/-- A ledger, a clock, and the sessions that ended, the latest first. -/
structure Backdrop where
  ledger : PayloadLedger := {}
  clock : Timestamp
  events : List (Timestamp × ClientId) := []

namespace Backdrop

def release (b : Backdrop) (id : PayloadId) : Backdrop := { b with ledger := b.ledger.release id }

def announce (b : Backdrop) (instant : Timestamp) (client : ClientId) : Backdrop :=
  { b with events := (instant, client) :: b.events }

end Backdrop

/-- The collaborators that never talk back. -/
def Collaborators.quiet : Collaborators Backdrop where
  release id := Dialogue.change fun b => b.release id
  fetch id := do return (← Dialogue.own).ledger.bytes? id
  announce instant client := Dialogue.change fun b => b.announce instant client
  now b := b.clock

end BrokerSessions
