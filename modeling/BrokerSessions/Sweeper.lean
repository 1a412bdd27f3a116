-- The background cleaner of a store, without its thread: how long it waits
-- between two sweeps, whether it was told to stop, and what one round of it does.
import BrokerSessions.Dialogue

namespace BrokerSessions

structure Sweeper where
  interval : Timespan
  stopped : Bool := false
deriving DecidableEq

namespace Sweeper

/-- The cleaner that the settings of a store ask for. -/
def ofConfig (c : Config) : Sweeper := { interval := c.cleanupInterval }

/-- A cleaner that was told to stop stays stopped. -/
def stop (s : Sweeper) : Sweeper := { s with stopped := true }

/-- One round: a sweep over all buckets, unless the cleaner was told to stop. -/
def round {σ : Type} (s : Sweeper) : Dialogue σ Nat := if s.stopped then pure 0 else Dialogue.sweep

end Sweeper

end BrokerSessions
