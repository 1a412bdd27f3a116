-- Points in time, as signed milliseconds since the epoch. A time before the
-- epoch is a value like any other: the store meets such times and refuses them,
-- so they must be writable. Arithmetic on times saturates.
import BrokerSessions.Saturating

namespace BrokerSessions

/-- A point in time, in milliseconds since the epoch. -/
structure Timestamp where
  millis : Int64
deriving DecidableEq

namespace Timestamp

def epoch : Timestamp := ⟨0⟩

/-- The last point in time there is. -/
def latest : Timestamp := ⟨Int64.maxValue⟩

instance : Inhabited Timestamp := ⟨epoch⟩

instance : LE Timestamp := ⟨fun a b => a.millis ≤ b.millis⟩

instance : LT Timestamp := ⟨fun a b => a.millis < b.millis⟩

instance (a b : Timestamp) : Decidable (a ≤ b) := inferInstanceAs (Decidable (a.millis ≤ b.millis))

instance (a b : Timestamp) : Decidable (a < b) := inferInstanceAs (Decidable (a.millis < b.millis))

instance : Ord Timestamp := ⟨fun a b => compareOfLessAndEq a b⟩

/-- The time that lies `seconds` after the epoch. -/
def ofSeconds (seconds : Int64) : Timestamp := ⟨Saturating.mul seconds 1000⟩

/-- Whether the time lies strictly after the epoch. -/
def isPositive (t : Timestamp) : Bool := 0 < t.millis

/-- The milliseconds from `earlier` to `t`. They are negative when `earlier` is
the later one, as happens when two clocks disagree. -/
def millisSince (t earlier : Timestamp) : Int64 := Saturating.sub t.millis earlier.millis

/-- The time that lies `seconds` after `t`. -/
def addSeconds (t : Timestamp) (seconds : Int64) : Timestamp :=
  ⟨Saturating.add t.millis (Saturating.mul seconds 1000)⟩

/-- The time as text: its milliseconds, and the unit. -/
def text (t : Timestamp) : String := s!"{t.millis}ms"

theorem isPositive_iff (t : Timestamp) : t.isPositive = true ↔ 0 < t.millis.toInt := by
  simp [isPositive, Int64.lt_iff_toInt_lt]

theorem le_iff (a b : Timestamp) : a ≤ b ↔ a.millis.toInt ≤ b.millis.toInt :=
  Int64.le_iff_toInt_le

theorem lt_iff (a b : Timestamp) : a < b ↔ a.millis.toInt < b.millis.toInt :=
  Int64.lt_iff_toInt_lt

end Timestamp

end BrokerSessions
