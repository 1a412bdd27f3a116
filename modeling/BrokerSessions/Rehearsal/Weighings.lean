-- An entry on a scale. The object in it has a given size and counts how often it
-- is asked for it, so one can see that an entry asks once at most.
import BrokerSessions.Entry

namespace BrokerSessions.Rehearsal

/-- The answers of an entry that is asked for its weight `asks` times, and how often
its object was asked for its size. -/
def countedWeighings (size asks : Nat) : List UInt64 × Nat :=
  let measure : Nat → StateM Nat Nat := fun n => do
    modify fun calls => calls + 1
    return n
  let entry : Entry Nat := { object := size, stamp := .epoch }
  (entry.weighingsM measure asks).run 0

end BrokerSessions.Rehearsal
