-- How clients spread over buckets. A fingerprint is scaled down to the number of buckets, and it
-- always comes to one of them. As many fingerprints come to one bucket as to another, but for one
-- more or less, and with several times as many buckets each bucket is only cut into parts.
-- Nothing depends on how fingerprints are taken: all this holds for every 64-bit number.
import BrokerSessions.Routing
import Mathlib

namespace BrokerSessions.Routing

/-! ## Between two multiples -/

/-- Rounded up or down makes a difference of one at most, and none where nothing is left over. -/
theorem ceilDiv_eq {b n : ℕ} (hn : 0 < n) :
    b ⌈/⌉ n = b / n + if b % n = 0 then 0 else 1 := by
  have hsmall : n - 1 < n := Nat.sub_lt hn Nat.one_pos
  have hrest : b % n < n := Nat.mod_lt b hn
  rw [Nat.ceilDiv_eq_add_pred_div, Nat.add_sub_assoc hn, Nat.add_div hn,
    Nat.div_eq_of_lt hsmall, Nat.mod_eq_of_lt hsmall]
  split_ifs <;> omega

/-- A step of width `b` crosses as many multiples of `n` as fit into it, rounded down or up. -/
theorem ceilDiv_add_sub_ceilDiv (a b : ℕ) {n : ℕ} (hn : 0 < n) :
    (a + b) ⌈/⌉ n - a ⌈/⌉ n = b / n ∨ (a + b) ⌈/⌉ n - a ⌈/⌉ n = b ⌈/⌉ n := by
  have hshift : a + b + n - 1 = (a + n - 1) + b := by omega
  have hstart : (a + n - 1) % n < n := Nat.mod_lt _ hn
  rw [ceilDiv_eq (b := b) hn, Nat.ceilDiv_eq_add_pred_div, Nat.ceilDiv_eq_add_pred_div, hshift,
    Nat.add_div hn, Nat.add_assoc, Nat.add_sub_cancel_left]
  split_ifs with hover hnone hnone
  · omega
  · exact .inr rfl
  · exact .inl rfl
  · exact .inl rfl

/-! ## The fingerprints of a bucket -/

variable {count bucket : ℕ}

theorem share_eq_iff (hash : UInt64) (hcount : 0 < count) :
    share hash count = bucket ↔
      bucket * 2 ^ 64 ⌈/⌉ count ≤ hash.toNat ∧
        hash.toNat < (bucket + 1) * 2 ^ 64 ⌈/⌉ count := by
  have hshare : share hash count = hash.toNat * count / 2 ^ 64 := rfl
  rw [← not_le, ceilDiv_le_iff_le_mul hcount, ceilDiv_le_iff_le_mul hcount, not_le,
    mul_comm count, hshare, Nat.div_eq_iff (by decide)]
  omega

/-- How many fingerprints come to a bucket, among `count` of them. -/
noncomputable def load (count bucket : ℕ) : ℕ := {hash : UInt64 | share hash count = bucket}.ncard

/-- The fingerprints of a bucket lie side by side. -/
theorem toNat_image_share (h : bucket < count) :
    UInt64.toNat '' {hash | share hash count = bucket} =
      Set.Ico (bucket * 2 ^ 64 ⌈/⌉ count) ((bucket + 1) * 2 ^ 64 ⌈/⌉ count) := by
  have hcount : 0 < count := Nat.zero_lt_of_lt h
  have hend : (bucket + 1) * 2 ^ 64 ⌈/⌉ count ≤ 2 ^ 64 :=
    (ceilDiv_le_iff_le_mul hcount).2 (Nat.mul_le_mul_right _ h)
  ext number
  constructor
  · rintro ⟨hash, hshare, rfl⟩
    exact (share_eq_iff hash hcount).1 hshare
  · intro hnumber
    have hword : (UInt64.ofNat number).toNat = number :=
      UInt64.toNat_ofNat_of_lt' (lt_of_lt_of_le hnumber.2 hend)
    refine ⟨UInt64.ofNat number, (share_eq_iff _ hcount).2 ?_, hword⟩
    rwa [hword]

theorem load_eq (h : bucket < count) :
    load count bucket = (bucket + 1) * 2 ^ 64 ⌈/⌉ count - bucket * 2 ^ 64 ⌈/⌉ count := by
  have hinj : Function.Injective UInt64.toNat := fun _ _ => UInt64.toNat_inj.1
  unfold load
  rw [← Set.ncard_image_of_injective _ hinj, toNat_image_share h, ← Finset.coe_Ico,
    Set.ncard_coe_finset, Nat.card_Ico]

/-- Each bucket gets its part of all fingerprints, rounded down or up. -/
theorem load_cases (h : bucket < count) :
    load count bucket = 2 ^ 64 / count ∨ load count bucket = 2 ^ 64 ⌈/⌉ count := by
  rw [load_eq h, Nat.succ_mul]
  exact ceilDiv_add_sub_ceilDiv _ _ (Nat.zero_lt_of_lt h)

/-- Where there are no more buckets than fingerprints, each bucket gets one. -/
theorem exists_share (h : bucket < count) (hcount : count ≤ 2 ^ 64) :
    ∃ hash, share hash count = bucket := by
  have hpart : 0 < 2 ^ 64 / count := Nat.div_pos hcount (Nat.zero_lt_of_lt h)
  have hload : load count bucket ≠ 0 := by
    have hround := floorDiv_le_ceilDiv (a := count) (b := 2 ^ 64)
    have hfloor : 2 ^ 64 ⌊/⌋ count = 2 ^ 64 / count := rfl
    rcases load_cases h with hdown | hup <;> omega
  exact Set.nonempty_of_ncard_ne_zero hload

/-- With several times as many buckets, each bucket is cut into parts. -/
theorem share_mul_div (hash : UInt64) {times : ℕ} (htimes : 0 < times) :
    share hash (times * count) / times = share hash count := by
  unfold share
  rw [Nat.div_div_eq_div_mul, mul_left_comm, mul_comm _ times, Nat.mul_div_mul_left _ _ htimes]

/-! ## Routing is balanced -/

/-- Among any number of buckets that a store can have, each client is routed to one of them, and
on the way there no product outgrows 128 bits. Each bucket gets its part of all fingerprints,
rounded down or up, so that none is out of reach and no two differ by more than one fingerprint.
With several times as many buckets, a client stays in a part of its bucket. -/
theorem routing_balanced {count : ℕ} (hpos : 1 ≤ count) (hlt : count < 2 ^ 64) :
    (∀ hash : UInt64, hash.toNat * count < 2 ^ 128 ∧ share hash count < count) ∧
    (∀ client, bucketOf client count < count) ∧
    (∀ bucket < count, load count bucket = 2 ^ 64 / count ∨
      load count bucket = 2 ^ 64 ⌈/⌉ count) ∧
    (∀ bucket < count, ∃ hash, share hash count = bucket) ∧
    (∀ bucket < count, ∀ other < count, load count bucket ≤ load count other + 1) ∧
    ∀ times, 1 ≤ times → times * count < 2 ^ 64 →
      (∀ hash, share hash (times * count) / times = share hash count) ∧
      ∀ client, bucketOf client (times * count) / times = bucketOf client count := by
  refine ⟨fun hash => ⟨?_, share_lt hash hpos⟩, fun client => bucketOf_lt client hpos,
    fun _ => load_cases, fun _ h => exists_share h hlt.le, ?_,
    fun times htimes _ => ⟨fun hash => share_mul_div hash htimes,
      fun client => share_mul_div (fingerprint client) htimes⟩⟩
  · have hhash : hash.toNat < 2 ^ 64 := hash.toNat_lt
    calc hash.toNat * count < 2 ^ 64 * 2 ^ 64 := Nat.mul_lt_mul'' hhash hlt
      _ = 2 ^ 128 := by norm_num
  · intro bucket hbucket other hother
    have hround := ceilDiv_eq (b := 2 ^ 64) hpos
    have hone : (if 2 ^ 64 % count = 0 then 0 else 1) ≤ 1 := by split <;> omega
    rcases load_cases hbucket with h | h <;> rcases load_cases hother with h' | h' <;> omega

/-- A third of the largest number of buckets. Each bucket gets three fingerprints or four. -/
theorem routing_balanced_third :
    let count := 6148914691236517205
    (1 ≤ count ∧ count < 2 ^ 64 ∧ 3 * count < 2 ^ 64) ∧
      (load count (count - 1) = 3 ∨ load count (count - 1) = 4) ∧
      load count 0 ≤ load count (count - 1) + 1 ∧
      bucketOf "client-1" (3 * count) / 3 = bucketOf "client-1" count := by
  intro count
  have hdown : 2 ^ 64 / count = 3 := by norm_num [count]
  have hup : 2 ^ 64 ⌈/⌉ count = 4 := by norm_num [count, Nat.ceilDiv_eq_add_pred_div]
  obtain ⟨-, -, hload, -, hclose, hparts⟩ :=
    @routing_balanced count (by decide) (by decide)
  rw [hdown, hup] at hload
  exact ⟨by decide, hload _ (by decide), hclose _ (by decide) _ (by decide),
    (hparts 3 (by decide) (by decide)).2 "client-1"⟩

end BrokerSessions.Routing
