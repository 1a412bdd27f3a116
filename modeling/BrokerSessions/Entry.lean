-- Objects as they are kept. An entry pairs an object with the time of the change
-- that produced it. Its weight, the memory that the pair occupies, is worked out
-- when somebody first asks and is remembered from then on. An entry never
-- changes: a new object makes a new entry, so a remembered weight stays right.
-- Weights are 64-bit numbers and wrap around, as the counter that adds them does.
import BrokerSessions.Session
import BrokerSessions.Timestamp

namespace BrokerSessions

/-- An object as it is kept, with its weight once somebody has asked for it. -/
structure Entry (α : Type) where
  object : α
  stamp : Timestamp
  known : Option UInt64 := none
deriving DecidableEq

/-- What a bucket holds for one client. -/
abbrev Record := Entry Session

namespace Entry

variable {α : Type}

/-- What an entry takes beyond its object: a shell, the time and a reference. -/
def overhead : Nat := Footprint.shell + Footprint.word + Footprint.reference

/-- The weight of an entry whose object takes `size`. -/
def weightFor (size : Nat) : UInt64 := UInt64.ofNat (overhead + size)

/-- The weight of an entry, and the entry that remembers it. `measure` is asked
for the size of the object only when the weight is not known yet. -/
def weighM {m : Type → Type} [Monad m] (measure : α → m Nat) (e : Entry α) :
    m (UInt64 × Entry α) :=
  match e.known with
  | some n => pure (n, e)
  | none => do
    let n := weightFor (← measure e.object)
    pure (n, { e with known := some n })

/-- The answers when an entry is asked for its weight again and again. -/
def weighingsM {m : Type → Type} [Monad m] (e : Entry α) (measure : α → m Nat) :
    Nat → m (List UInt64)
  | 0 => pure []
  | times + 1 => do
    let (n, next) ← e.weighM measure
    let rest ← next.weighingsM measure times
    pure (n :: rest)

/-- The weight of an entry: the remembered one, or else a fresh estimate. -/
def weight [Footprint α] (e : Entry α) : UInt64 := e.known.getD (weightFor (footprint e.object))

/-- The entry that remembers its weight. -/
def weighed [Footprint α] (e : Entry α) : Entry α := { e with known := some e.weight }

/-- Two entries are alike when object and time agree. A remembered weight is no
part of what an entry says. -/
def alike [DecidableEq α] (a b : Entry α) : Bool := a.stamp = b.stamp && a.object = b.object

@[simp] theorem weight_weighed [Footprint α] (e : Entry α) : e.weighed.weight = e.weight := rfl

theorem weighM_footprint [Footprint α] (e : Entry α) :
    e.weighM (m := Id) (fun a => pure (footprint a)) = pure (e.weight, e.weighed) := by
  obtain ⟨object, stamp, known⟩ := e
  cases known <;> rfl

end Entry

end BrokerSessions
