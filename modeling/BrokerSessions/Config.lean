-- The settings of a store, and what makes them usable.
import BrokerSessions.Session
import BrokerSessions.Timespan

namespace BrokerSessions

/-- The settings of a store. A client that nobody knew gets `defaultExpiry` when
it disconnects. A cleaner sweeps every `cleanupInterval`. -/
structure Config where
  bucketCount : UInt64 := 64
  defaultExpiry : Int64 := Session.longestExpiry
  cleanupInterval : Timespan := .ofSeconds 4
deriving DecidableEq

/-- What is wrong with settings. -/
inductive ConfigFault where
  | noBuckets
  | negativeExpiry (interval : Int64)
  | noCleanupInterval
deriving DecidableEq

def ConfigFault.message : ConfigFault → String
  | .noBuckets => "Bucket count must be greater than 0"
  | .negativeExpiry n => s!"Default session expiry interval must not be negative, got {n}"
  | .noCleanupInterval => "Cleanup interval must be greater than 0"

namespace Config

/-- The settings of a broker that asks for nothing special. -/
def standard : Config := {}

/-- A few buckets and a short interval, for trying things out. -/
def trial : Config := { bucketCount := 4, cleanupInterval := .ofMillis 50 }

/-- Settings are usable, or the first fault is named: buckets, then the expiry,
then the cleanup interval. -/
def check (c : Config) : Except ConfigFault Unit :=
  if c.bucketCount = 0 then .error .noBuckets
  else if c.defaultExpiry < 0 then .error (.negativeExpiry c.defaultExpiry)
  else if c.cleanupInterval.isZero then .error .noCleanupInterval
  else .ok ()

end Config

end BrokerSessions
