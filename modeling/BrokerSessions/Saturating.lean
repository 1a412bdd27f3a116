-- Sixty-four bit arithmetic that stops at the ends of its range. Times and
-- intervals are `Int64`. A sum, a difference or a product that leaves the range
-- becomes the nearest end of it, so a far future stays a far future. Each
-- operation is the exact one on `Int`, followed by `clamp`; the lemmas say so.

namespace BrokerSessions.Saturating

/-- The least `Int64`, as an integer. -/
def lowest : Int := -9223372036854775808

/-- The largest `Int64`, as an integer. -/
def highest : Int := 9223372036854775807

/-- The integer of the range of `Int64` that is nearest to `n`. -/
def clamp (n : Int) : Int := max lowest (min n highest)

def add (a b : Int64) : Int64 := Int64.ofInt (clamp (a.toInt + b.toInt))

def sub (a b : Int64) : Int64 := Int64.ofInt (clamp (a.toInt - b.toInt))

def mul (a b : Int64) : Int64 := Int64.ofInt (clamp (a.toInt * b.toInt))

theorem lowest_le_clamp (n : Int) : lowest ≤ clamp n := by
  simp only [clamp, lowest, highest]; omega

theorem clamp_le_highest (n : Int) : clamp n ≤ highest := by
  simp only [clamp, lowest, highest]; omega

/-- A number of the range stays as it is. -/
theorem clamp_of_mem {n : Int} (hl : lowest ≤ n) (hh : n ≤ highest) : clamp n = n := by
  simp only [clamp]; omega

theorem toInt_ofInt_clamp (n : Int) : (Int64.ofInt (clamp n)).toInt = clamp n := by
  have hl := lowest_le_clamp n
  have hh := clamp_le_highest n
  simp only [lowest, highest] at hl hh
  exact Int64.toInt_ofInt_of_le (by omega) (by omega)

@[simp] theorem toInt_add (a b : Int64) : (add a b).toInt = clamp (a.toInt + b.toInt) :=
  toInt_ofInt_clamp _

@[simp] theorem toInt_sub (a b : Int64) : (sub a b).toInt = clamp (a.toInt - b.toInt) :=
  toInt_ofInt_clamp _

@[simp] theorem toInt_mul (a b : Int64) : (mul a b).toInt = clamp (a.toInt * b.toInt) :=
  toInt_ofInt_clamp _

end BrokerSessions.Saturating
