-- When a session is over, in exact numbers. The time that has gone by and the interval both stop
-- at the ends of sixty-four bits, each on its own. They are then compared, and the comparison is
-- still the exact one, but for intervals beyond the range after times that leave the range. No
-- time is that long after a stamp that lies after the epoch.
import BrokerSessions.Expiry

namespace BrokerSessions

/-! ## Both sides of the comparison -/

theorem Timestamp.toInt_millisSince (t earlier : Timestamp) :
    (t.millisSince earlier).toInt = Saturating.clamp (t.millis.toInt - earlier.millis.toInt) :=
  Saturating.toInt_sub _ _

/-- The later the clock shows, the more time has gone by. -/
theorem Timestamp.millisSince_mono {now later : Timestamp} (hle : now ≤ later)
    (earlier : Timestamp) :
    (now.millisSince earlier).toInt ≤ (later.millisSince earlier).toInt := by
  rw [Timestamp.le_iff] at hle
  rw [toInt_millisSince, toInt_millisSince]
  unfold Saturating.clamp
  omega

/-- Two numbers that are brought into the range compare as they did before, unless the range ends
between them or before both. -/
theorem Saturating.clamp_le_clamp_iff {n d : Int} (hn : 0 < n) :
    clamp n ≤ clamp d ↔ n ≤ d ∨ highest < n ∧ highest ≤ d ∧ d < n := by
  unfold clamp lowest highest
  omega

namespace Session

variable {s : Session}

theorem toInt_expiryMillis (s : Session) :
    s.expiryMillis.toInt = Saturating.clamp (1000 * s.expiry.toInt) := by
  have hthousand : (1000 : Int64).toInt = 1000 := rfl
  rw [expiryMillis, Saturating.toInt_mul, hthousand, Int.mul_comm]

/-- A session is over if its client is away and the interval is over, or if there is none. -/
theorem isExpired_iff {elapsed : Int64} :
    s.isExpired elapsed = true ↔ s.connected = false ∧
      (s.expiry.toInt ≤ 0 ∨ Saturating.clamp (1000 * s.expiry.toInt) ≤ elapsed.toInt) := by
  have hzero : (0 : Int64).toInt = 0 := rfl
  simp only [isExpired, Bool.and_eq_true, Bool.not_eq_true', Bool.or_eq_true, decide_eq_true_iff,
    Int64.le_iff_toInt_le, toInt_expiryMillis, hzero]

/-- What is over stays over. -/
theorem isExpired_mono {elapsed longer : Int64} (hle : elapsed.toInt ≤ longer.toInt)
    (h : s.isExpired elapsed = true) : s.isExpired longer = true := by
  rw [isExpired_iff] at h ⊢
  exact ⟨h.1, h.2.imp_right fun hover => Int.le_trans hover hle⟩

/-! ## Exact numbers -/

/-- The session is over when the clock shows `now`, by numbers that know no bounds. -/
def IsOver (s : Session) (stamp now : Timestamp) : Prop :=
  s.connected = false ∧
    (s.expiry.toInt ≤ 0 ∨ 1000 * s.expiry.toInt ≤ now.millis.toInt - stamp.millis.toInt)

/-- The client is away, and the range ends before its interval does. The time that has gone by is
at the end of the range or beyond it, but it is not as long as the interval. -/
def OutlastsRange (s : Session) (stamp now : Timestamp) : Prop :=
  s.connected = false ∧ Saturating.highest < 1000 * s.expiry.toInt ∧
    Saturating.highest ≤ now.millis.toInt - stamp.millis.toInt ∧
    now.millis.toInt - stamp.millis.toInt < 1000 * s.expiry.toInt

variable {stamp now : Timestamp}

instance : Decidable (s.IsOver stamp now) := inferInstanceAs (Decidable (_ ∧ _))

instance : Decidable (s.OutlastsRange stamp now) := inferInstanceAs (Decidable (_ ∧ _))

/-- Saturation shows only where the range is too short for the interval. -/
theorem isExpired_millisSince_iff :
    s.isExpired (now.millisSince stamp) = true ↔
      s.IsOver stamp now ∨ s.OutlastsRange stamp now := by
  rw [isExpired_iff, Timestamp.toInt_millisSince]
  unfold IsOver OutlastsRange
  by_cases hnone : s.expiry.toInt ≤ 0
  · simp only [hnone, true_or, and_true]
    exact ⟨.inl, fun h => h.elim id And.left⟩
  · rw [Saturating.clamp_le_clamp_iff (by omega)]
    simp only [hnone, false_or]
    exact and_or_left

theorem OutlastsRange.not_isOver (h : s.OutlastsRange stamp now) : ¬ s.IsOver stamp now := by
  unfold OutlastsRange IsOver Saturating.highest at *
  omega

/-- No time that a clock shows is as far after a stamp that lies after the epoch. -/
theorem not_outlastsRange (hstamp : 0 < stamp.millis.toInt) : ¬ s.OutlastsRange stamp now := by
  have hnow := now.millis.toInt_lt
  unfold OutlastsRange Saturating.highest
  omega

/-! ## Saturation does not change who is over -/

/-- Whether a session is over is decided as exact numbers decide it, whatever the times are, but
for a client that is away with an interval that outlasts the range: it counts as over when the
range ends. A stamp after the epoch leaves no room for this. And what is over stays over. -/
theorem saturation_keeps_deadlines (s : Session) (stamp now : Timestamp) :
    (s.isExpired (now.millisSince stamp) = true ↔
      s.IsOver stamp now ∨ s.OutlastsRange stamp now) ∧
    (s.OutlastsRange stamp now → ¬ s.IsOver stamp now) ∧
    (0 < stamp.millis.toInt → ¬ s.OutlastsRange stamp now ∧
      (s.isExpired (now.millisSince stamp) = true ↔ s.IsOver stamp now)) ∧
    ∀ later, now ≤ later → s.isExpired (now.millisSince stamp) = true →
      s.isExpired (later.millisSince stamp) = true := by
  refine ⟨isExpired_millisSince_iff, OutlastsRange.not_isOver, fun hstamp => ?_,
    fun later hle => isExpired_mono (Timestamp.millisSince_mono hle stamp)⟩
  have hroom : ¬ s.OutlastsRange stamp now := not_outlastsRange hstamp
  exact ⟨hroom, isExpired_millisSince_iff.trans (or_iff_left hroom)⟩

/-- A client went away with the longest interval there is. Long before the epoch it counts as over
too soon, and from then on. After the epoch it is never over. -/
theorem saturation_keeps_deadlines_longest :
    let s : Session := { connected := false, expiry := Int64.maxValue }
    let first : Timestamp := ⟨Int64.minValue⟩
    (s.isExpired ((⟨-1⟩ : Timestamp).millisSince first) = true ∧ ¬ s.IsOver first ⟨-1⟩) ∧
      s.isExpired (Timestamp.latest.millisSince first) = true ∧
      s.isExpired (Timestamp.latest.millisSince ⟨1⟩) = false := by
  intro s first
  obtain ⟨hover, hsoon, -, hlasts⟩ := saturation_keeps_deadlines s first ⟨-1⟩
  obtain ⟨-, -, hstamped, -⟩ := saturation_keeps_deadlines s ⟨1⟩ .latest
  have hout : s.OutlastsRange first ⟨-1⟩ := by decide
  have hexpired := hover.2 (.inr hout)
  have hexact : ¬ s.IsOver ⟨1⟩ .latest := by decide
  refine ⟨⟨hexpired, hsoon hout⟩, hlasts .latest (by decide) hexpired, ?_⟩
  exact Bool.eq_false_iff.2 fun h => hexact ((hstamped (by decide)).2.1 h)

end Session

end BrokerSessions
