-- Lengths of time that are never negative, to the nanosecond. A cleaner waits
-- such a time between two sweeps.

namespace BrokerSessions

/-- Nanoseconds in a second. -/
def nanosPerSecond : Nat := 1000000000

/-- A length of time: whole seconds, and less than a second in nanoseconds. -/
structure Timespan where
  seconds : UInt64
  nanos : UInt32
  nanos_lt : nanos.toNat < nanosPerSecond := by decide
deriving DecidableEq

namespace Timespan

/-- A number of whole seconds. -/
def ofSeconds (seconds : UInt64) : Timespan := { seconds, nanos := 0 }

/-- A number of milliseconds. -/
def ofMillis (millis : UInt64) : Timespan where
  seconds := millis / 1000
  nanos := UInt32.ofNat (millis.toNat % 1000 * 1000000)
  nanos_lt := by
    have h : millis.toNat % 1000 < 1000 := Nat.mod_lt _ (by decide)
    rw [UInt32.toNat_ofNat_of_lt' (by show _ < 4294967296; omega)]
    show _ < 1000000000
    omega

/-- The span from a count of seconds and any count of nanoseconds: full seconds
among the nanoseconds carry over. There is none when the seconds overflow. -/
def carry? (seconds : UInt64) (nanos : UInt32) : Option Timespan :=
  if seconds.toNat + nanos.toNat / nanosPerSecond < UInt64.size then
    some {
      seconds := UInt64.ofNat (seconds.toNat + nanos.toNat / nanosPerSecond)
      nanos := UInt32.ofNat (nanos.toNat % nanosPerSecond)
      nanos_lt := by
        have h : nanos.toNat % 1000000000 < 1000000000 := Nat.mod_lt _ (by decide)
        rw [UInt32.toNat_ofNat_of_lt' (by show _ % 1000000000 < 4294967296; omega)]
        exact h }
  else none

/-- The full milliseconds of the span. -/
def millis (s : Timespan) : Nat := s.seconds.toNat * 1000 + s.nanos.toNat / 1000000

/-- Whether the span has no length. -/
def isZero (s : Timespan) : Bool := s.seconds == 0 && s.nanos == 0

/-- Milliseconds go into a span and come out again. -/
theorem millis_ofMillis (n : UInt64) : (ofMillis n).millis = n.toNat := by
  have h : n.toNat % 1000 < 1000 := Nat.mod_lt _ (by decide)
  have hn : (UInt32.ofNat (n.toNat % 1000 * 1000000)).toNat = n.toNat % 1000 * 1000000 :=
    UInt32.toNat_ofNat_of_lt' (by show _ < 4294967296; omega)
  simp only [millis, ofMillis, hn, UInt64.toNat_div, UInt64.reduceToNat]
  omega

/-- Nanoseconds below a second carry nothing over. -/
theorem carry?_of_span (s : Timespan) : carry? s.seconds s.nanos = some s := by
  obtain ⟨seconds, nanos, h⟩ := s
  have h0 : nanos.toNat / nanosPerSecond = 0 := Nat.div_eq_of_lt h
  have h1 : nanos.toNat % nanosPerSecond = nanos.toNat := Nat.mod_eq_of_lt h
  have hs : seconds.toNat < UInt64.size := seconds.toNat_lt
  simp [carry?, h0, h1, hs]

end Timespan

end BrokerSessions
