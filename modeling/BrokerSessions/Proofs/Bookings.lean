-- The payload ledger keeps exact books. Whatever is done with it, in any order and with any ids,
-- what it shows can be told from the bookings alone: the ids count the payloads that were taken
-- in, a payload is there from its own booking until it is discarded, and its references are the
-- one that it came with and those taken and given back since. Ids that name nothing change nothing.
import BrokerSessions.Proofs.References

namespace BrokerSessions

/-! ## Bookings -/

/-- What can be done with a ledger. -/
inductive Booking where
  | add (bytes : Bytes)
  | retain (id : PayloadId)
  | release (id : PayloadId)
  | discard (id : PayloadId)
deriving DecidableEq

namespace Booking

def isAdd : Booking → Bool
  | add _ => true
  | _ => false

def isRelease : Booking → Bool
  | release _ => true
  | _ => false

/-- The ledger after it. -/
def leaves (l : PayloadLedger) : Booking → PayloadLedger
  | add bytes => (l.add bytes).2
  | retain id => l.retain id
  | release id => l.release id
  | discard id => l.discard id

/-- The id that is given out for it. -/
def given? (l : PayloadLedger) : Booking → Option PayloadId
  | add bytes => some (l.add bytes).1
  | _ => none

/-- The payload that it is about. -/
def subject (l : PayloadLedger) : Booking → PayloadId
  | add bytes => (l.add bytes).1
  | retain id => id
  | release id => id
  | discard id => id

/-- How many payloads are taken in by some bookings. -/
def adds (row : List Booking) : Nat := row.countP isAdd

/-- A payload was taken in under an id, and what was booked since did not discard it. The ids
count the payloads that are taken in. -/
def Lodged (row : List Booking) (id : PayloadId) (bytes : Bytes) (since : List Booking) : Prop :=
  ∃ before, row = before ++ add bytes :: since ∧ id.toNat = adds before + 1 ∧ discard id ∉ since

end Booking

open Booking

namespace PayloadLedger

/-- The ledger after some bookings. -/
def after (l : PayloadLedger) (row : List Booking) : PayloadLedger := row.foldl Booking.leaves l

/-- The ids that are given out for some bookings, the earliest first. -/
def given (l : PayloadLedger) : List Booking → List PayloadId
  | [] => []
  | b :: rest => (b.given? l).toList ++ (b.leaves l).given rest

/-- Those of the ids whose payload is there. -/
def present (l : PayloadLedger) (ids : List PayloadId) : List PayloadId :=
  ids.filter fun id => (l.bytes? id).isSome

@[simp] theorem after_cons (l : PayloadLedger) (b : Booking) (rest : List Booking) :
    l.after (b :: rest) = (b.leaves l).after rest := rfl

theorem after_append (l : PayloadLedger) (first second : List Booking) :
    l.after (first ++ second) = (l.after first).after second := List.foldl_append

theorem given_append (first second : List Booking) (l : PayloadLedger) :
    l.given (first ++ second) = l.given first ++ (l.after first).given second := by
  induction first generalizing l with
  | nil => rfl
  | cons b rest ih => simp [given, ih]

/-! ## Ids -/

theorem issued_leaves (l : PayloadLedger) (b : Booking) :
    (b.leaves l).issued = if b.isAdd then l.issued + 1 else l.issued := by
  cases b <;> rfl

theorem toNat_issued_leaves {l : PayloadLedger} {b : Booking} {rest : List Booking}
    (fits : l.issued.toNat + adds (b :: rest) < 2 ^ 64) :
    (b.leaves l).issued.toNat + adds rest = l.issued.toNat + adds (b :: rest) := by
  rw [issued_leaves]
  unfold adds at fits ⊢
  rw [List.countP_cons] at fits ⊢
  by_cases hadd : b.isAdd = true
  · simp only [hadd, if_true] at fits ⊢
    rw [UInt64.toNat_add]
    simp only [UInt64.toNat_one]
    omega
  · simp [hadd]

/-- As many ids were given out as payloads were taken in. -/
theorem toNat_issued_after (row : List Booking) {l : PayloadLedger}
    (fits : l.issued.toNat + adds row < 2 ^ 64) :
    (l.after row).issued.toNat = l.issued.toNat + adds row := by
  induction row generalizing l with
  | nil => rfl
  | cons b rest ih =>
    have hstep := toNat_issued_leaves fits
    rw [after_cons, ih (by omega), hstep]

/-- The ids go on from the last one, one by one. -/
theorem toNat_given (row : List Booking) {l : PayloadLedger}
    (fits : l.issued.toNat + adds row < 2 ^ 64) :
    (l.given row).map UInt64.toNat = List.range' (l.issued.toNat + 1) (adds row) := by
  induction row generalizing l with
  | nil => rfl
  | cons b rest ih =>
    have hstep := toNat_issued_leaves fits
    have hrest := ih (l := b.leaves l) (by omega)
    unfold given
    rw [List.map_append, hrest]
    cases b with
    | add bytes =>
      have hadds : adds (.add bytes :: rest) = adds rest + 1 := List.countP_cons_of_pos rfl
      have hnew : (l.issued + 1).toNat = l.issued.toNat + 1 := by
        rw [UInt64.toNat_add, UInt64.toNat_one]
        omega
      rw [hadds, List.range'_succ]
      simp [Booking.given?, Booking.leaves, PayloadLedger.add, hnew]
    | _ => rfl

/-- No id that was given out before is given out again. -/
theorem not_mem_given {row : List Booking} {l : PayloadLedger} {id : PayloadId}
    (fits : l.issued.toNat + adds row < 2 ^ 64) (hid : id.toNat ≤ l.issued.toNat) :
    id ∉ l.given row := by
  intro hmem
  have hrange := List.mem_map_of_mem (f := UInt64.toNat) hmem
  rw [toNat_given row fits, List.mem_range'_1] at hrange
  omega

/-! ## What becomes of one payload -/

/-- A booking that neither discards a payload nor gives its id out anew leaves its bytes alone, and
counts the references to it. -/
theorem leaves_kept {l : PayloadLedger} {b : Booking} {id : PayloadId} {bytes : Bytes}
    (hthere : l.bytes? id = some bytes) (hold : b.given? l ≠ some id) (hkept : b ≠ .discard id) :
    (b.leaves l).bytes? id = some bytes ∧
      (b.leaves l).references id + [b].count (.release id) =
        l.references id + [b].count (.retain id) := by
  cases b with
  | add other =>
    have hne : ¬ id = (l.add other).1 := fun h => hold (congrArg some h.symm)
    simp [Booking.leaves, bytes?_add, references_add, hne, hthere]
  | retain k =>
    by_cases hk : id = k
    · subst hk
      simp [Booking.leaves, references_retain, hthere]
    · have hk' : ¬ k = id := fun h => hk h.symm
      simp [Booking.leaves, references_retain, hthere, hk, hk']
  | release k =>
    by_cases hk : id = k
    · subst hk
      simp [Booking.leaves, references_release, hthere]
    · have hk' : ¬ k = id := fun h => hk h.symm
      simp [Booking.leaves, references_release, hthere, hk, hk']
  | discard k =>
    have hk : ¬ id = k := fun h => hkept (h ▸ rfl)
    simp [Booking.leaves, bytes?_discard, references_discard, hthere, hk]

/-- A payload that nobody discards keeps its bytes, and its references are counted exactly. -/
theorem after_kept (row : List Booking) {l : PayloadLedger} {id : PayloadId} {bytes : Bytes}
    (hthere : l.bytes? id = some bytes) (hold : id ∉ l.given row) (hkept : .discard id ∉ row) :
    (l.after row).bytes? id = some bytes ∧
      (l.after row).references id + row.count (.release id) =
        l.references id + row.count (.retain id) := by
  induction row generalizing l with
  | nil => exact ⟨hthere, rfl⟩
  | cons b rest ih =>
    -- The first booking is a row of one, so that its counts and those of the rest add up.
    unfold given at hold
    rw [List.mem_append, not_or] at hold
    rw [List.mem_cons, not_or] at hkept
    have hnow := leaves_kept hthere (fun h => hold.1 (Option.mem_toList.2 h))
      fun h => hkept.1 h.symm
    have hlater := ih hnow.1 hold.2 hkept.2
    refine ⟨hlater.1, ?_⟩
    have hcount : ∀ c, (b :: rest).count c = [b].count c + rest.count c := by
      intro c
      rw [← List.count_append, List.singleton_append]
    rw [after_cons, hcount, hcount]
    omega

/-- A payload that is there after a booking was there before it and is not discarded, or it has
just been taken in. -/
theorem leaves_there {l : PayloadLedger} {b : Booking} {id : PayloadId}
    (h : ((b.leaves l).bytes? id).isSome = true) :
    ((l.bytes? id).isSome = true ∧ b ≠ .discard id) ∨
      ∃ bytes, b = .add bytes ∧ (l.add bytes).1 = id := by
  cases b with
  | add bytes =>
    simp only [Booking.leaves, bytes?_add] at h
    by_cases hnew : id = (l.add bytes).1
    · exact .inr ⟨bytes, rfl, hnew.symm⟩
    · rw [if_neg hnew] at h
      exact .inl ⟨h, nofun⟩
  | retain k =>
    simp only [Booking.leaves, bytes?_retain] at h
    exact .inl ⟨h, nofun⟩
  | release k =>
    simp only [Booking.leaves, bytes?_release] at h
    exact .inl ⟨h, nofun⟩
  | discard k =>
    simp only [Booking.leaves, bytes?_discard] at h
    by_cases hk : id = k
    · simp [hk] at h
    · rw [if_neg hk] at h
      refine .inl ⟨h, fun hd => hk ?_⟩
      exact (Booking.discard.inj hd).symm

/-- A payload that is there at the end was there at the start, or was taken in on the way, and
nothing discarded it after that. -/
theorem after_there (row : List Booking) {l : PayloadLedger} {id : PayloadId}
    (h : ((l.after row).bytes? id).isSome = true) :
    ((l.bytes? id).isSome = true ∧ .discard id ∉ row) ∨
      ∃ before bytes since, row = before ++ .add bytes :: since ∧
        ((l.after before).add bytes).1 = id ∧ .discard id ∉ since := by
  induction row generalizing l with
  | nil => exact .inl ⟨h, List.not_mem_nil⟩
  | cons b rest ih =>
    rcases ih h with ⟨hthere, hrest⟩ | ⟨before, bytes, since, rfl, hid, hsince⟩
    · rcases leaves_there hthere with ⟨hbefore, hb⟩ | ⟨bytes, rfl, hid⟩
      · refine .inl ⟨hbefore, ?_⟩
        simp [hrest, Ne.symm hb]
      · exact .inr ⟨[], bytes, rest, rfl, hid, hrest⟩
    · exact .inr ⟨b :: before, bytes, since, rfl, hid, hsince⟩

/-- A payload that is there at the end was there at the start, or its id was given out. -/
theorem mem_given_of_there {row : List Booking} {l : PayloadLedger} {id : PayloadId}
    (h : ((l.after row).bytes? id).isSome = true) :
    (l.bytes? id).isSome = true ∨ id ∈ l.given row := by
  rcases after_there row h with ⟨hthere, -⟩ | ⟨before, bytes, since, rfl, rfl, -⟩
  · exact .inl hthere
  · rw [given_append]
    exact .inr (List.mem_append_right _ List.mem_cons_self)

/-! ## All payloads together -/

theorem mem_keys {l : PayloadLedger} {id : PayloadId} :
    id ∈ l.payloads.keys ↔ (l.bytes? id).isSome = true := by
  rw [Std.ExtTreeMap.mem_keys, ← Std.ExtTreeMap.isSome_getElem?_iff_mem]
  simp [bytes?]

/-- The references of all payloads are those of the payloads that are there. -/
theorem outstanding_eq {l : PayloadLedger} {ids : List PayloadId} (hnodup : ids.Nodup)
    (hids : ∀ id, (l.bytes? id).isSome = true → id ∈ ids) :
    l.outstanding = ((l.present ids).map l.references).sum := by
  have hkeys : (l.payloads.toList.map fun x => x.2.references) =
      l.payloads.keys.map l.references := by
    rw [← Std.ExtTreeMap.map_fst_toList_eq_keys, List.map_map]
    apply List.map_congr_left
    rintro ⟨id, p⟩ hp
    have hget : l.payloads[id]? = some p := Std.ExtTreeMap.mem_toList_iff_getElem?_eq_some.1 hp
    simp [references, hget]
  have hperm : l.payloads.keys.Perm (l.present ids) := by
    unfold present
    rw [List.perm_ext_iff_of_nodup l.payloads.nodup_keys (hnodup.filter _)]
    intro id
    rw [mem_keys, List.mem_filter]
    exact ⟨fun h => ⟨hids id h, h⟩, fun h => h.2⟩
  rw [outstanding_eq_sum, hkeys, (hperm.map l.references).sum_eq]

theorem references_leaves_of_ne {l : PayloadLedger} {b : Booking} {id : PayloadId}
    (h : id ≠ b.subject l) : (b.leaves l).references id = l.references id := by
  cases b with
  | add bytes => exact (references_add l bytes id).trans (if_neg h)
  | retain k => exact (references_retain l k id).trans (if_neg fun hk => h hk.1)
  | release k => exact (references_release l k id).trans (if_neg fun hk => h hk.1)
  | discard k => exact (references_discard l k id).trans (if_neg h)

/-- A booking forgets a count or moves it by one at most, and it leaves those of the other payloads
alone. -/
theorem abs_references_leaves (l : PayloadLedger) (b : Booking) (id : PayloadId) :
    |(b.leaves l).references id| ≤ |l.references id| + if id = b.subject l then 1 else 0 := by
  by_cases h : id = b.subject l
  · rw [if_pos h, Int.abs_eq_natAbs, Int.abs_eq_natAbs]
    cases b <;>
      simp only [Booking.leaves, references_add, references_retain, references_release,
        references_discard] <;>
      split_ifs <;> omega
  · rw [if_neg h, references_leaves_of_ne h, add_zero]

/-- All counts together are no more than the bookings. -/
theorem sum_abs_references_after (row : List Booking) (l : PayloadLedger) (ids : Finset PayloadId) :
    ∑ id ∈ ids, |(l.after row).references id| ≤ ∑ id ∈ ids, |l.references id| + row.length := by
  induction row generalizing l with
  | nil => simp [after]
  | cons b rest ih =>
    -- A booking is about one payload, and that one is among the ids once at most.
    have hone : ∑ id ∈ ids, (if id = b.subject l then (1 : ℤ) else 0) ≤ 1 := by
      rw [Finset.sum_ite_eq']
      split <;> simp
    have hstep : ∑ id ∈ ids, |(b.leaves l).references id| ≤ ∑ id ∈ ids, |l.references id| + 1 := by
      calc
        _ ≤ ∑ id ∈ ids, (|l.references id| + if id = b.subject l then 1 else 0) :=
          Finset.sum_le_sum fun id _ => abs_references_leaves l b id
        _ = ∑ id ∈ ids, |l.references id| + ∑ id ∈ ids, (if id = b.subject l then 1 else 0) :=
          Finset.sum_add_distrib
        _ ≤ _ := by omega
    have hrest := ih (b.leaves l)
    rw [after_cons, List.length_cons]
    omega

/-- Every reference that is given back counts, whatever its id. -/
theorem releases_after (row : List Booking) (l : PayloadLedger) :
    (l.after row).releases = l.releases + row.countP isRelease := by
  induction row generalizing l with
  | nil => rfl
  | cons b rest ih =>
    rw [after_cons, ih, List.countP_cons]
    cases b with
    | release id =>
      change l.releases + 1 + _ = l.releases + (_ + 1)
      omega
    | _ => rfl

/-! ## A ledger from its beginning -/

variable {row : List Booking} {id : PayloadId}

theorem adds_append (first second : List Booking) :
    adds (first ++ second) = adds first + adds second := List.countP_append

theorem adds_le_length (row : List Booking) : adds row ≤ row.length := List.countP_le_length

/-- The id of a payload is its number. -/
theorem toNat_add_after (short : row.length < 2 ^ 63) {before since : List Booking} {bytes : Bytes}
    (hrow : row = before ++ .add bytes :: since) :
    (((after {} before).add bytes).1).toNat = adds before + 1 := by
  have hbefore : before.length < row.length := by simp [hrow]
  have hadds := adds_le_length before
  have hissued := toNat_issued_after before (l := {}) (by simp; omega)
  change ((after {} before).issued + 1).toNat = _
  rw [UInt64.toNat_add, hissued]
  simp
  omega

/-- A payload that was taken in and not discarded is there, with its bytes and with the references
that were taken and not given back. -/
theorem of_lodged (short : row.length < 2 ^ 63) {bytes : Bytes} {since : List Booking}
    (h : Lodged row id bytes since) :
    (after {} row).references id = 1 + since.count (.retain id) - since.count (.release id) ∧
      (after {} row).bytes? id = some bytes := by
  obtain ⟨before, hrow, hnumber, hkept⟩ := h
  have hid : id = ((after {} before).add bytes).1 := by
    rw [← UInt64.toNat_inj, hnumber, toNat_add_after short hrow]
  have hissued : ((after {} before).add bytes).2.issued = id := hid.symm
  have hthere : ((after {} before).add bytes).2.bytes? id = some bytes := by
    rw [bytes?_add, if_pos hid]
  have hone : ((after {} before).add bytes).2.references id = 1 := by
    rw [references_add, if_pos hid]
  have hlength : adds row ≤ row.length := adds_le_length row
  have hadds : adds row = adds before + (adds since + 1) := by
    rw [hrow, adds_append]
    exact congrArg (adds before + ·) (List.countP_cons_of_pos rfl)
  have hold : id ∉ ((after {} before).add bytes).2.given since := by
    apply not_mem_given
    · rw [hissued]
      omega
    · rw [hissued]
  have hsplit : after {} row = (((after {} before).add bytes).2).after since := by
    rw [hrow, after_append]
    rfl
  obtain ⟨hbytes, hcount⟩ := after_kept since hthere hold hkept
  rw [hone] at hcount
  rw [hsplit]
  exact ⟨by omega, hbytes⟩

/-- Any other payload is not there. -/
theorem of_not_lodged (short : row.length < 2 ^ 63)
    (h : ∀ bytes since, ¬ Lodged row id bytes since) : (after {} row).bytes? id = none := by
  by_contra hthere
  rcases after_there row (Option.isSome_iff_ne_none.2 hthere) with ⟨hstart, -⟩ |
    ⟨before, bytes, since, hrow, hid, hsince⟩
  · simp [bytes?] at hstart
  · refine h bytes since ⟨before, hrow, ?_, hsince⟩
    rw [← hid, toNat_add_after short hrow]

theorem given_nodup (short : row.length < 2 ^ 63) : (given {} row).Nodup := by
  have hadds := adds_le_length row
  apply List.Nodup.of_map UInt64.toNat
  rw [toNat_given row (by simp; omega)]
  exact List.nodup_range'

/-- Nobody has a reference to begin with. -/
theorem references_start (id : PayloadId) : ({} : PayloadLedger).references id = 0 := by
  simp [references]

theorem abs_references_after (row : List Booking) (id : PayloadId) :
    |(after {} row).references id| ≤ row.length := by
  have hsum := sum_abs_references_after row {} {id}
  simpa [references_start] using hsum

/-- The total is that of the ids that were given out and whose payload is there. -/
theorem outstanding_after (short : row.length < 2 ^ 63) :
    (after {} row).outstanding =
      (((after {} row).present (given {} row)).map (after {} row).references).sum := by
  apply outstanding_eq (given_nodup short)
  intro id hthere
  rcases mem_given_of_there hthere with hstart | hgiven
  · simp [bytes?] at hstart
  · exact hgiven

theorem abs_outstanding_after (short : row.length < 2 ^ 63) :
    |(after {} row).outstanding| ≤ row.length := by
  have hnodup : ((after {} row).present (given {} row)).Nodup := (given_nodup short).filter _
  have hsum := sum_abs_references_after row {} ((after {} row).present (given {} row)).toFinset
  simp only [references_start, abs_zero, Finset.sum_const_zero, zero_add] at hsum
  rw [outstanding_after short, ← List.sum_toFinset _ hnodup]
  exact (Finset.abs_sum_le_sum_abs _ _).trans hsum

end PayloadLedger

/-! ## Exact books -/

open PayloadLedger in
/-- What a ledger shows can be told from its bookings. The ids are 1, 2, 3 and so on, and none is
given out twice. A payload that was taken in and not discarded since has its bytes, and one
reference and those taken and not given back since, be that less than nothing. There is nothing
under any other id, and nothing to count there either. The total is that of the payloads that are
there, and whatever is given back counts as given back. No number is larger than the bookings are
many. -/
theorem ledger_is_exact (row : List Booking) (short : row.length < 2 ^ 63) :
    let l := after {} row
    let ids := given {} row
    (ids.map UInt64.toNat = List.range' 1 (adds row) ∧ ids.Nodup) ∧
    (∀ id bytes since, Lodged row id bytes since →
      l.references id = 1 + since.count (.retain id) - since.count (.release id) ∧
        l.bytes? id = some bytes) ∧
    (∀ id, (∀ bytes since, ¬ Lodged row id bytes since) →
      l.references id = 0 ∧ l.bytes? id = none ∧
        ∀ k, (l.retain id).references k = l.references k ∧
          (l.release id).references k = l.references k) ∧
    l.outstanding = ((l.present ids).map l.references).sum ∧
    l.releases = row.countP isRelease ∧
    (∀ id, |l.references id| ≤ row.length) ∧ |l.outstanding| ≤ row.length := by
  intro l ids
  have hadds : adds row ≤ row.length := adds_le_length row
  refine ⟨⟨toNat_given row (by simp; omega), given_nodup short⟩,
    fun id bytes since => of_lodged short, ?_, outstanding_after short, ?_,
    abs_references_after row, abs_outstanding_after short⟩
  · intro id hother
    have hgone : l.bytes? id = none := of_not_lodged short hother
    refine ⟨references_of_none hgone, hgone, fun k => ?_⟩
    rw [references_retain, references_release, hgone]
    simp
  · rw [releases_after]
    exact zero_add _

open PayloadLedger in
/-- The first payload is given back more often than it was taken, the second one is discarded, and
there never was a ninth. -/
theorem ledger_is_exact_overdrawn :
    let row : List Booking := [.add [7], .release 1, .release 1, .add [8], .retain 2, .discard 2,
      .retain 2, .release 9, .add [9]]
    let l := after {} row
    row.length < 2 ^ 63 ∧ (given {} row).map UInt64.toNat = [1, 2, 3] ∧
      (l.references 1 = -1 ∧ l.bytes? 1 = some [7]) ∧
      (l.references 2 = 0 ∧ l.bytes? 2 = none) ∧ l.references 9 = 0 ∧ l.releases = 3 := by
  intro row l
  obtain ⟨⟨hids, -⟩, hlodged, hother, -, hreleases, -, -⟩ := ledger_is_exact row (by decide)
  have hfirst := hlodged 1 [7] (row.drop 1) ⟨[], rfl, rfl, by decide⟩
  have hsecond : ∀ bytes since, ¬ Lodged row 2 bytes since := by
    rintro bytes since ⟨before, hrow, hnumber, hkept⟩
    have hall : ∀ n < row.length, row[n]?.any isAdd = true → 2 = adds (row.take n) + 1 →
        .discard 2 ∈ row.drop (n + 1) := by decide
    have hlength : before.length < row.length := by simp [hrow]
    have hadd : row[before.length]?.any isAdd = true := by simp [hrow, isAdd]
    have htake : row.take before.length = before := by simp [hrow]
    have hdrop : row.drop (before.length + 1) = since := by simp [hrow]
    have hgone := hall before.length hlength hadd (by rw [htake]; exact hnumber)
    rw [hdrop] at hgone
    exact hkept hgone
  have hninth : ∀ bytes since, ¬ Lodged row 9 bytes since := by
    rintro bytes since ⟨before, hrow, hnumber, -⟩
    have hadds : adds row = adds before + adds (.add bytes :: since) := by
      rw [hrow, adds_append]
    have hthree : adds row = 3 := rfl
    have hnine : 9 = adds before + 1 := hnumber
    omega
  exact ⟨by decide, hids, hfirst, ⟨(hother 2 hsecond).1, (hother 2 hsecond).2.1⟩,
    (hother 9 hninth).1, hreleases⟩

end BrokerSessions
