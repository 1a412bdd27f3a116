-- All records of a store as one list, and sums over it. The list holds each record
-- once, so a sum changes by one record when one record is filed or erased.
import BrokerSessions.Store
import Mathlib

namespace BrokerSessions.Store

/-! ## The list of records -/

theorem mem_records {s : Store} {i : Nat} {c : ClientId} {r : Record} :
    (i, c, r) ∈ s.records ↔ s.record? i c = some r := by
  unfold records record?
  simp only [List.mem_flatMap, List.mem_map, Prod.mk.injEq]
  constructor
  · rintro ⟨⟨b, j⟩, hb, ⟨c', r'⟩, hr, rfl, rfl, rfl⟩
    have hget := List.mk_mem_zipIdx_iff_getElem?.1 hb
    rw [Array.getElem?_toList] at hget
    rw [hget]
    exact Std.ExtTreeMap.mem_toList_iff_getElem?_eq_some.1 hr
  · intro h
    obtain ⟨b, hb, hr⟩ := Option.bind_eq_some_iff.1 h
    refine ⟨(b, i), ?_, (c, r), Std.ExtTreeMap.mem_toList_iff_getElem?_eq_some.2 hr, rfl, rfl, rfl⟩
    rw [List.mk_mem_zipIdx_iff_getElem?, Array.getElem?_toList]
    exact hb

theorem nodup_toList (b : Bucket) : b.toList.Nodup := by
  apply b.distinct_keys_toList.imp
  rintro x _ hne rfl
  exact hne Std.ReflCmp.compare_self

theorem nodup_records (s : Store) : s.records.Nodup := by
  unfold records
  rw [List.nodup_flatMap]
  constructor
  · rintro ⟨b, i⟩ _
    apply (nodup_toList b).map
    rintro ⟨c, r⟩ ⟨c', r'⟩ h
    simpa using h
  · have hpos := List.nodup_zipIdx_map_snd s.buckets.toList
    apply (List.pairwise_map.1 hpos).imp
    rintro ⟨b, i⟩ ⟨b', i'⟩ hne
    apply List.disjoint_left.2
    rintro ⟨j, c, r⟩ h h'
    simp only [List.mem_map, Prod.mk.injEq] at h h'
    obtain ⟨_, _, rfl, _⟩ := h
    obtain ⟨_, _, rfl, _⟩ := h'
    exact hne rfl

/-- All records but the one of a client in a bucket. -/
def recordsBut (s : Store) (i : Nat) (c : ClientId) : List (Nat × ClientId × Record) :=
  s.records.filter fun x => !(x.1 == i && x.2.1 == c)

theorem mem_recordsBut {s : Store} {i j : Nat} {c d : ClientId} {r : Record} :
    (j, d, r) ∈ s.recordsBut i c ↔ s.record? j d = some r ∧ ¬ (j = i ∧ d = c) := by
  simp only [recordsBut, List.mem_filter, mem_records, Bool.not_eq_true', Bool.and_eq_false_iff,
    beq_eq_false_iff_ne]
  tauto

theorem nodup_recordsBut (s : Store) (i : Nat) (c : ClientId) : (s.recordsBut i c).Nodup :=
  s.nodup_records.filter _

theorem records_of_some {s : Store} {i : Nat} {c : ClientId} {r : Record}
    (h : s.record? i c = some r) : s.records.Perm ((i, c, r) :: s.recordsBut i c) := by
  have hnot : (i, c, r) ∉ s.recordsBut i c := fun hm => (mem_recordsBut.1 hm).2 ⟨rfl, rfl⟩
  rw [List.perm_ext_iff_of_nodup s.nodup_records ((s.nodup_recordsBut i c).cons hnot)]
  rintro ⟨j, d, r'⟩
  rw [mem_records, List.mem_cons, mem_recordsBut]
  by_cases hk : j = i ∧ d = c
  · obtain ⟨rfl, rfl⟩ := hk
    simp [h, eq_comm]
  · simp only [Prod.mk.injEq]
    tauto

theorem records_of_none {s : Store} {i : Nat} {c : ClientId} (h : s.record? i c = none) :
    s.recordsBut i c = s.records := by
  apply List.filter_eq_self.2
  rintro ⟨j, d, r⟩ hm
  by_contra hk
  have hkey : j = i ∧ d = c := by simpa using hk
  obtain ⟨rfl, rfl⟩ := hkey
  rw [mem_records, h] at hm
  cases hm

theorem records_file {s : Store} {i : Nat} (hi : i < s.bucketCount) (c : ClientId) (r : Record) :
    (s.file i c r).records.Perm ((i, c, r) :: s.recordsBut i c) := by
  have hnot : (i, c, r) ∉ s.recordsBut i c := fun hm => (mem_recordsBut.1 hm).2 ⟨rfl, rfl⟩
  rw [List.perm_ext_iff_of_nodup (nodup_records _) ((s.nodup_recordsBut i c).cons hnot)]
  rintro ⟨j, d, r'⟩
  rw [mem_records, record?_file, List.mem_cons, mem_recordsBut]
  by_cases hk : j = i ∧ d = c
  · obtain ⟨rfl, rfl⟩ := hk
    simp [hi, eq_comm]
  · simp only [Prod.mk.injEq, hi, true_and, if_neg hk]
    tauto

theorem records_erase (s : Store) (i : Nat) (c : ClientId) :
    (s.erase i c).records.Perm (s.recordsBut i c) := by
  rw [List.perm_ext_iff_of_nodup (nodup_records _) (s.nodup_recordsBut i c)]
  rintro ⟨j, d, r'⟩
  rw [mem_records, record?_erase, mem_recordsBut]
  by_cases hk : j = i ∧ d = c
  · simp [hk]
  · simp [hk]

/-! ## The records of a bucket that are over -/

theorem mem_expired {s : Store} {i : Nat} {now : Timestamp} {x : ClientId × Record} :
    x ∈ s.expired i now ↔ s.record? i x.1 = some x.2 ∧ x.2.isExpiredAt now = true := by
  unfold expired record?
  cases s.buckets[i]? with
  | none => simp
  | some b =>
    simp only [Option.map_some, Option.getD_some, List.mem_filter, Option.bind_some]
    rw [(s.walk.perm i b.toList).mem_iff, ← Std.ExtTreeMap.mem_toList_iff_getElem?_eq_some]

/-- The clients of a bucket whose sessions are over. -/
theorem mem_expired_clients {s : Store} {i : Nat} {now : Timestamp} {c : ClientId} :
    c ∈ (s.expired i now).map Prod.fst ↔
      ∃ r, s.record? i c = some r ∧ r.isExpiredAt now = true := by
  rw [List.mem_map]
  constructor
  · rintro ⟨x, hx, rfl⟩
    exact ⟨x.2, mem_expired.1 hx⟩
  · rintro ⟨r, hr⟩
    exact ⟨(c, r), mem_expired.2 hr, rfl⟩

/-- A bucket is what its records are. -/
theorem getElem?_buckets_congr {s s' : Store} {i : Nat} (hcount : s'.bucketCount = s.bucketCount)
    (h : ∀ c, s'.record? i c = s.record? i c) : s'.buckets[i]? = s.buckets[i]? := by
  unfold bucketCount at hcount
  unfold record? at h
  by_cases hi : i < s.buckets.size
  · have hi' : i < s'.buckets.size := hcount ▸ hi
    rw [Array.getElem?_eq_getElem hi, Array.getElem?_eq_getElem hi'] at h ⊢
    congr 1
    exact Std.ExtTreeMap.ext_getElem? h
  · have hi' : ¬ i < s'.buckets.size := hcount ▸ hi
    rw [Array.getElem?_eq_none (Nat.not_lt.1 hi), Array.getElem?_eq_none (Nat.not_lt.1 hi')]

/-- The buckets of a store are what its records are. -/
theorem buckets_ext {s s' : Store} (hcount : s'.bucketCount = s.bucketCount)
    (h : ∀ i c, s'.record? i c = s.record? i c) : s'.buckets = s.buckets :=
  Array.ext_getElem? fun i => getElem?_buckets_congr hcount (h i)

/-- What is over in a bucket depends on the records of that bucket only, and its order on the
walk. -/
theorem expired_congr {s s' : Store} {i : Nat} (hwalk : s'.walk = s.walk)
    (hcount : s'.bucketCount = s.bucketCount) (h : ∀ c, s'.record? i c = s.record? i c)
    (now : Timestamp) : s'.expired i now = s.expired i now := by
  unfold expired
  rw [getElem?_buckets_congr hcount h, hwalk]

theorem nodup_expired (s : Store) (i : Nat) (now : Timestamp) :
    ((s.expired i now).map Prod.fst).Nodup := by
  unfold expired
  cases s.buckets[i]? with
  | none => simp
  | some b =>
    have hkeys : (b.toList.map Prod.fst).Nodup := by
      rw [Std.ExtTreeMap.map_fst_toList_eq_keys]
      exact b.nodup_keys
    have hwalk := ((s.walk.perm i b.toList).map Prod.fst).nodup_iff.2 hkeys
    exact hwalk.sublist (List.filter_sublist.map _)

/-! ## Sums over all records -/

/-- The sum of a value over all records. The value may depend on the bucket. -/
def total (s : Store) (f : Nat → Record → ℤ) : ℤ := (s.records.map fun x => f x.1 x.2.2).sum

variable {f g : Nat → Record → ℤ}

/-- A sum depends on the buckets only. -/
theorem total_of_buckets {s s' : Store} (h : s'.buckets = s.buckets) (f : Nat → Record → ℤ) :
    s'.total f = s.total f := by
  unfold total records
  rw [h]

/-- What a client's record in a bucket adds to a sum. -/
def share (s : Store) (f : Nat → Record → ℤ) (i : Nat) (c : ClientId) : ℤ :=
  ((s.record? i c).map (f i)).getD 0

theorem share_of_some {s : Store} {i : Nat} {c : ClientId} {r : Record}
    (h : s.record? i c = some r) : s.share f i c = f i r := by
  simp [share, h]

theorem share_of_none {s : Store} {i : Nat} {c : ClientId} (h : s.record? i c = none) :
    s.share f i c = 0 := by
  simp [share, h]

theorem total_eq_add_share (s : Store) (f : Nat → Record → ℤ) (i : Nat) (c : ClientId) :
    s.total f = ((s.recordsBut i c).map fun x => f x.1 x.2.2).sum + s.share f i c := by
  unfold total share
  cases h : s.record? i c with
  | some r =>
    rw [((records_of_some h).map _).sum_eq, List.map_cons, List.sum_cons]
    simp [add_comm]
  | none => simp [records_of_none h]

/-- A record that is filed adds its value, and the one that it displaces takes its own away. -/
theorem total_file (s : Store) {i : Nat} (hi : i < s.bucketCount) (c : ClientId) (r : Record) :
    (s.file i c r).total f = s.total f - s.share f i c + f i r := by
  rw [total_eq_add_share s f i c, total, ((records_file hi c r).map _).sum_eq, List.map_cons,
    List.sum_cons]
  dsimp only
  omega

theorem total_erase (s : Store) (i : Nat) (c : ClientId) :
    (s.erase i c).total f = s.total f - s.share f i c := by
  rw [total_eq_add_share s f i c, total, ((records_erase s i c).map _).sum_eq]
  omega

theorem total_nonneg {s : Store} (hf : ∀ i c r, s.record? i c = some r → 0 ≤ f i r) :
    0 ≤ s.total f := by
  apply List.sum_nonneg
  intro x hx
  obtain ⟨⟨i, c, r⟩, hm, rfl⟩ := List.mem_map.1 hx
  exact hf i c r (mem_records.1 hm)

/-- No record counts for more than all of them together. -/
theorem share_le_total {s : Store} (hf : ∀ i c r, s.record? i c = some r → 0 ≤ f i r) (i : Nat)
    (c : ClientId) : s.share f i c ≤ s.total f := by
  rw [total_eq_add_share s f i c]
  have hrest : 0 ≤ ((s.recordsBut i c).map fun x => f x.1 x.2.2).sum := by
    apply List.sum_nonneg
    intro x hx
    obtain ⟨⟨j, d, r⟩, hm, rfl⟩ := List.mem_map.1 hx
    exact hf j d r (mem_recordsBut.1 hm).1
  omega

theorem total_add (s : Store) (f g : Nat → Record → ℤ) :
    s.total (fun i r => f i r + g i r) = s.total f + s.total g := by
  unfold total
  exact List.sum_map_add

theorem total_le {s : Store} (h : ∀ i c r, s.record? i c = some r → f i r ≤ g i r) :
    s.total f ≤ s.total g := by
  apply List.sum_le_sum
  rintro ⟨i, c, r⟩ hm
  exact h i c r (mem_records.1 hm)

theorem total_congr (s : Store) (h : ∀ i c r, s.record? i c = some r → f i r = g i r) :
    s.total f = s.total g := by
  unfold total
  congr 1
  apply List.map_congr_left
  rintro ⟨i, c, r⟩ hm
  exact h i c r (mem_records.1 hm)

theorem total_natCast (s : Store) (f : Record → ℕ) :
    s.total (fun _ r => (f r : ℤ)) = ((s.records.map fun (_, _, r) => f r).sum : ℕ) := by
  unfold total
  induction s.records with
  | nil => rfl
  | cons x rest ih =>
    rw [List.map_cons, List.map_cons, List.sum_cons, List.sum_cons, ih, Int.natCast_add]

/-- The number of records of a kind, as a sum. -/
theorem total_indicator (s : Store) (f : Record → Bool) :
    s.total (fun _ r => if f r then 1 else 0) = (s.records.countP fun (_, _, r) => f r : ℕ) := by
  unfold total
  induction s.records with
  | nil => rfl
  | cons x rest ih =>
    rw [List.map_cons, List.sum_cons, ih, List.countP_cons]
    cases hf : f x.2.2 <;> simp [hf, Int.add_comm]

/-- A sum over some buckets depends on the records of these buckets only. -/
theorem total_eq_of_agree {s s' : Store} (P : Nat → Prop) [DecidablePred P] (f : Record → ℤ)
    (h : ∀ i, P i → ∀ c, s'.record? i c = s.record? i c) :
    s'.total (fun i r => if P i then f r else 0) = s.total (fun i r => if P i then f r else 0) := by
  have hsum : ∀ t : Store, t.total (fun i r => if P i then f r else 0) =
      ((t.records.filter fun x => P x.1).map fun x => f x.2.2).sum := by
    intro t
    unfold total
    induction t.records with
    | nil => rfl
    | cons x rest ih =>
      by_cases hp : P x.1
      · simp [hp, ih]
      · simp [hp, ih]
  rw [hsum, hsum]
  refine ((List.perm_ext_iff_of_nodup (nodup_records s' |>.filter _)
    (nodup_records s |>.filter _)).2 ?_ |>.map _).sum_eq
  rintro ⟨i, c, r⟩
  simp only [List.mem_filter, mem_records, decide_eq_true_eq]
  constructor
  · rintro ⟨hr, hp⟩
    exact ⟨(h i hp c).symm.trans hr, hp⟩
  · rintro ⟨hr, hp⟩
    exact ⟨(h i hp c).trans hr, hp⟩

end BrokerSessions.Store
