-- What wills, sessions and records take, in closed form. The estimate of a will is a fixed part,
-- its texts, and its user properties one by one; nothing else about it counts. A record adds a
-- fixed part of its own. An entry works its weight out once and keeps it, so it makes no
-- difference who asked before and which copy is asked. The memory counter of a store is the sum
-- of all this: a fixed part for each record, and the stored wills.
import BrokerSessions.Proofs.Reckoning
import BrokerSessions.Proofs.Sharding

namespace BrokerSessions

/-! ## Wills -/

/-- Items are added up one after the other, on top of the header of their list. -/
theorem Footprint.ofItems_eq {α : Type} [Footprint α] (items : List α) :
    ofItems items = header + (items.map footprint).sum := by
  unfold ofItems
  generalize header = n
  induction items generalizing n with
  | nil => rfl
  | cons x rest ih =>
    rw [List.foldl_cons, ih, List.map_cons, List.sum_cons]
    omega

/-- What a part of a will takes that may be absent, by its length. -/
def Footprint.partSize (length? : Option Nat) : Nat :=
  match length? with
  | some n => 24 + n
  | none => 8

/-- What a user property takes, by the lengths of its texts. -/
def UserProperty.size (p : UserProperty) : Nat := 56 + p.name.utf8ByteSize + p.value.utf8ByteSize

namespace Will

open Footprint

/-- What a will takes, part by part. -/
def size (w : Will) : Nat :=
  75 + (24 + w.publication.topic.utf8ByteSize) + (24 + w.publication.broker.utf8ByteSize)
    + partSize (w.publication.responseTopic.map String.utf8ByteSize)
    + partSize (w.publication.contentType.map String.utf8ByteSize)
    + partSize (w.publication.correlation.map List.length)
    + (w.publication.properties.map UserProperty.size).sum

theorem ofOption_ofText (text? : Option String) :
    ofOption ofText text? = partSize (text?.map String.utf8ByteSize) := by
  cases text? <;> rfl

theorem ofOption_ofBytes (bytes? : Option Bytes) :
    ofOption ofBytes bytes? = partSize (bytes?.map List.length) := by
  cases bytes? <;> rfl

theorem footprint_property (p : UserProperty) : footprint p = p.size := by
  change reference + (header + _) + (header + _) = _
  unfold UserProperty.size reference header
  omega

theorem footprint_eq (w : Will) : footprint w = w.size := by
  have hproperties : ofItems w.publication.properties =
      24 + (w.publication.properties.map UserProperty.size).sum := by
    rw [ofItems_eq, List.map_congr_left fun p _ => footprint_property p]
    rfl
  change shell + word + reference + w.publication.footprint = _
  unfold Publication.footprint size
  rw [hproperties, ofOption_ofText, ofOption_ofText, ofOption_ofBytes]
  unfold ofText shell word reference choice flag header
  omega

/-- The will with other user properties. -/
def withProperties (w : Will) (properties : List UserProperty) : Will :=
  { w with publication := { w.publication with properties } }

/-- The user properties of a will are paid for one by one. -/
theorem footprint_withProperties (w : Will) (properties : List UserProperty) :
    footprint (w.withProperties properties) =
      footprint (w.withProperties []) + (properties.map UserProperty.size).sum := by
  rw [footprint_eq, footprint_eq]
  rfl

theorem footprint_perm (w : Will) {properties : List UserProperty}
    (h : properties.Perm w.publication.properties) :
    footprint (w.withProperties properties) = footprint w := by
  have hsame : w.withProperties w.publication.properties = w := rfl
  have hsum := (h.map UserProperty.size).sum_eq
  rw [footprint_withProperties, hsum, ← footprint_withProperties, hsame]

theorem footprint_append (w : Will) (first second : List UserProperty) :
    footprint (w.withProperties (first ++ second)) + footprint (w.withProperties []) =
      footprint (w.withProperties first) + footprint (w.withProperties second) := by
  rw [w.footprint_withProperties (first ++ second), w.footprint_withProperties first,
    w.footprint_withProperties second, List.map_append, List.sum_append]
  omega

end Will

/-! ## Sessions and entries -/

/-- What the will of a session takes, and nothing if it has none. -/
def Session.willSize (s : Session) : Nat := (s.will.map footprint).getD 0

theorem Session.willSize_withoutPayload (s : Session) : s.withoutPayload.willSize = s.willSize := by
  cases hw : s.will with
  | none => simp [willSize, withoutPayload, hw]
  | some will =>
    have hsame : footprint will.withoutPayload = footprint will := rfl
    simp [willSize, withoutPayload, hw, hsame]

theorem Entry.size_eq (r : Record) : r.size = 65 + r.object.willSize := by
  change 32 + (33 + r.object.willSize) = _
  omega

/-- An entry that nobody has asked yet. -/
def Entry.fresh {α : Type} (object : α) (stamp : Timestamp) : Entry α := { object, stamp }

theorem Entry.toNat_weight_fresh (s : Session) (stamp : Timestamp)
    (fits : 65 + s.willSize < 2 ^ 64) : (fresh s stamp).weight.toNat = 65 + s.willSize := by
  have hweight : (fresh s stamp).weight = UInt64.ofNat (fresh s stamp).size := rfl
  rw [hweight, size_eq]
  exact UInt64.toNat_ofNat_of_lt' fits

theorem Entry.weight_withoutPayload (s : Session) (stamp : Timestamp) :
    (fresh s.withoutPayload stamp).weight = (fresh s stamp).weight := by
  have hsize : (fresh s.withoutPayload stamp).size = (fresh s stamp).size := by
    rw [size_eq, size_eq]
    exact congrArg (65 + ·) s.willSize_withoutPayload
  exact congrArg UInt64.ofNat hsize

/-! ## Asking again and again -/

namespace Entry

variable {α : Type} {m : Type → Type} [Monad m] [LawfulMonad m]

/-- An entry that knows its weight does not ask its object. -/
theorem weighingsM_of_known {e : Entry α} {n : UInt64} (h : e.known = some n) (measure : α → m Nat)
    (times : Nat) : e.weighingsM measure times = pure (List.replicate times n) := by
  induction times with
  | zero => rfl
  | succ times ih =>
    have hknown : e.weighM measure = pure (n, e) := by
      unfold weighM
      rw [h]
    unfold weighingsM
    simp [hknown, ih, List.replicate_succ]

/-- Any other entry asks its object once, and answers the same from then on. -/
theorem weighingsM_fresh (a : α) (stamp : Timestamp) (measure : α → m Nat) (times : Nat) :
    (fresh a stamp).weighingsM measure (times + 1) =
      (fun size => List.replicate (times + 1) (weightFor size)) <$> measure a := by
  have hknown : ∀ size, ({ fresh a stamp with known := some (weightFor size) } : Entry α).weighingsM
      measure times = pure (List.replicate times (weightFor size)) :=
    fun size => weighingsM_of_known rfl measure times
  have hfirst : (fresh a stamp).weighM measure = (fun size => (weightFor size,
      ({ fresh a stamp with known := some (weightFor size) } : Entry α))) <$> measure a := by
    rw [map_eq_pure_bind]
    rfl
  unfold weighingsM
  simp [hfirst, hknown, List.replicate_succ]

end Entry

/-! ## Copies -/

/-- What can be done with the copies of an entry: one of them is asked for its weight, or one more
copy is made of it. -/
inductive Handling where
  | ask (i : Nat)
  | copy (i : Nat)

section

variable {α : Type} [Footprint α]

/-- The copies after it. The copy that is asked remembers its weight, and no other does. -/
def Handling.leaves (copies : List (Entry α)) : Handling → List (Entry α)
  | ask i => match copies[i]? with
    | some e => copies.set i e.weighed
    | none => copies
  | copy i => copies ++ copies[i]?.toList

/-- All copies of an entry, the entry itself among them, after they were asked and copied. -/
def Entry.copies (e : Entry α) (run : List Handling) : List (Entry α) :=
  run.foldl Handling.leaves [e]

/-- One entry says the same as another one, and weighs the same. -/
structure Entry.Copies (e copy : Entry α) : Prop where
  object : copy.object = e.object
  stamp : copy.stamp = e.stamp
  weight : copy.weight = e.weight

theorem Handling.copies_leaves {copies : List (Entry α)} {e : Entry α}
    (hcopies : ∀ copy ∈ copies, e.Copies copy) (h : Handling) :
    ∀ copy ∈ h.leaves copies, e.Copies copy := by
  intro copy hmem
  cases h with
  | ask i =>
    cases hi : copies[i]? with
    | none =>
      simp only [leaves, hi] at hmem
      exact hcopies copy hmem
    | some asked =>
      simp only [leaves, hi] at hmem
      have hasked := hcopies asked (List.mem_of_getElem? hi)
      rcases List.mem_or_eq_of_mem_set hmem with hold | rfl
      · exact hcopies copy hold
      · exact ⟨hasked.object, hasked.stamp, asked.weight_weighed.trans hasked.weight⟩
  | copy i =>
    rcases List.mem_append.1 hmem with hold | hnew
    · exact hcopies copy hold
    · exact hcopies copy (List.mem_of_getElem? (Option.mem_toList.1 hnew))

theorem Entry.copies_of_mem (e : Entry α) (run : List Handling) :
    ∀ copy ∈ e.copies run, e.Copies copy := by
  have hstart : ∀ copy ∈ [e], e.Copies copy := by
    intro copy hmem
    rw [List.mem_singleton.1 hmem]
    exact ⟨rfl, rfl, rfl⟩
  unfold copies
  generalize [e] = start at hstart ⊢
  induction run generalizing start with
  | nil => exact hstart
  | cons h rest ih => exact ih (h.leaves start) (h.copies_leaves hstart)

end

/-! ## The memory counter -/

namespace Store

/-- The wills that are stored. -/
def wills (s : Store) : List Will := s.records.filterMap fun (_, _, r) => r.object.will

theorem sum_size (s : Store) :
    (s.records.map fun (_, _, r) => r.size).sum =
      65 * s.totalEntries + (s.wills.map footprint).sum := by
  rw [s.totalEntries_eq]
  unfold shelf wills
  induction s.records with
  | nil => rfl
  | cons x rest ih =>
    obtain ⟨i, c, r⟩ := x
    have hsize : r.size = 65 + r.object.willSize := r.size_eq
    rw [List.map_cons, List.sum_cons, ih, List.map_cons, List.length_cons]
    unfold Session.willSize at hsize
    cases hw : r.object.will <;> simp [hsize, hw] <;> omega

end Store

/-- Between two requests the memory counter shows what all records take, and wraps around where
that does not fit. -/
theorem Reached.memory_eq {σ : Type} {env : Collaborators σ} {w : World σ} (h : Reached env w) :
    w.store.memory.toNat = (w.store.records.map fun (_, _, r) => r.size).sum % 2 ^ 64 := by
  have hweights : (w.store.memory.toNat : ℤ) =
      ((w.store.records.map fun (_, _, r) => r.weight.toNat).sum : ℕ) % 2 ^ 64 := by
    rw [← Store.total_natCast w.store fun r => r.weight.toNat, ← ofStore_memory]
    exact h.read_emod .memory
  -- A weight wraps around on its own, and so does the counter. Both are told by the exact sum.
  have hmod : (w.store.records.map fun (_, _, r) => r.weight.toNat) =
      (w.store.records.map fun (_, _, r) => r.size).map fun n => n % 2 ^ 64 := by
    rw [List.map_map]
    apply List.map_congr_left
    rintro ⟨i, c, r⟩ hm
    have hhonest : r.weight = UInt64.ofNat r.size := h.sound.honest i c r (Store.mem_records.1 hm)
    simp [hhonest]
  rw [List.sum_nat_mod, ← hmod]
  omega

/-! ## Sizes in closed form -/

/-- The estimate of a will is the sum of its parts. The order of the user properties does not
matter, each adds its own part, and the payload, its id and everything of a fixed size do not
matter either. A record takes 65 more than its will, with or without the bytes of the payload, and
answers so whenever it is asked and whichever of its copies is asked. The memory counter between
two requests is 65 for each record and the sizes of the stored wills. -/
theorem sizes_add_up :
    (∀ will : Will, footprint will = will.size) ∧
    (∀ (will : Will) (properties : List UserProperty),
      properties.Perm will.publication.properties →
        footprint (will.withProperties properties) = footprint will) ∧
    (∀ (will : Will) (first second : List UserProperty),
      footprint (will.withProperties (first ++ second)) + footprint (will.withProperties []) =
        footprint (will.withProperties first) + footprint (will.withProperties second)) ∧
    (∀ (will : Will) payload payloadId qos retain format messageExpiry delay,
      footprint (Will.mk { will.publication with
        payload, qos, retain, format, messageExpiry, delay } payloadId) = footprint will) ∧
    (∀ (s : Session) (stamp : Timestamp), 65 + s.willSize < 2 ^ 64 →
      (Entry.fresh s stamp).weight.toNat = 65 + s.willSize) ∧
    (∀ (s : Session) (stamp : Timestamp),
      (Entry.fresh s.withoutPayload stamp).weight = (Entry.fresh s stamp).weight) ∧
    (∀ (m : Type → Type) [Monad m] [LawfulMonad m] (measure : Session → m Nat) (s : Session)
      (stamp : Timestamp) (times : Nat),
      (Entry.fresh s stamp).weighingsM measure (times + 1) =
        (fun size => List.replicate (times + 1) (Entry.weightFor size)) <$> measure s) ∧
    (∀ (r : Record) (run : List Handling), ∀ copy ∈ r.copies run, r.Copies copy) ∧
    ∀ (σ : Type) (env : Collaborators σ) (w : World σ), Reached env w →
      65 * w.store.totalEntries + (w.store.wills.map footprint).sum < 2 ^ 64 →
        w.store.memory.toNat =
          65 * w.store.totalEntries + (w.store.wills.map footprint).sum := by
  refine ⟨Will.footprint_eq, fun will _ => will.footprint_perm, Will.footprint_append,
    fun _ _ _ _ _ _ _ _ => rfl, Entry.toNat_weight_fresh, Entry.weight_withoutPayload,
    fun _ _ _ measure s stamp => Entry.weighingsM_fresh s stamp measure, Entry.copies_of_mem, ?_⟩
  intro σ env w h fits
  rw [h.memory_eq, Store.sum_size]
  exact Nat.mod_eq_of_lt fits

/-- A will with a letter of two bytes in its topic, and with its bytes at hand. -/
def farewell : Will where
  publication :=
    { topic := "é", payload := some [98, 121, 101], responseTopic := some "r",
      properties := [⟨"k", "vé"⟩, ⟨"z", ""⟩] }
  payloadId := 1

/-- A client is replaced by itself, with another will. The other client is forgotten while the
first will is given back, and comes again. -/
def comings : Dialogue Timestamp Unit := do
  let _ ← Dialogue.request (.put "b" { connected := true, expiry := 0 } ⟨1⟩ 1)
  let _ ← Dialogue.request (.put "a"
    { connected := true, expiry := 0, will := some { farewell with payloadId := 2 } } ⟨2⟩ 0)
  let _ ← Dialogue.request (.put "a"
    { connected := true, expiry := 0, will := some farewell } ⟨3⟩ 0)
  let _ ← Dialogue.request (.put "b" { connected := true, expiry := 0 } ⟨4⟩ 1)

/-- The size of that will, of an entry with it that is asked three times or copied first, and of
all records after that run. -/
theorem sizes_add_up_comings :
    let session := Session.mk true 0 (some farewell)
    let record : Record := .fresh session ⟨3⟩
    let counted (s : Session) : StateM Nat Nat := do
      modify fun calls => calls + 1
      return footprint s
    farewell.size = 283 ∧
      footprint (farewell.withProperties [⟨"z", ""⟩, ⟨"k", "vé"⟩]) = 283 ∧
      record.weight.toNat = 65 + 283 ∧
      (record.weighingsM counted 3).run 0 = ([348, 348, 348], 1) ∧
      (record ∈ record.copies [.copy 0, .ask 0] ∧ record.weighed ∈ record.copies [.copy 0, .ask 0] ∧
        ∀ copy ∈ record.copies [.copy 0, .ask 0], copy.weight = 348) ∧
      ∃ w, Reached .meddling w ∧ w.store.totalEntries = 2 ∧
        w.store.wills = [farewell.withoutPayload] ∧ w.store.memory.toNat = 65 * 2 + 283 := by
  intro session record counted
  obtain ⟨hparts, hperm, -, -, hentry, -, hasked, hcopies, hmemory⟩ := sizes_add_up
  have hsize : farewell.size = 283 := by decide +kernel
  have hwill : footprint farewell = 283 := (hparts farewell).trans hsize
  have hbare : footprint farewell.withoutPayload = 283 := hwill
  have hsession : session.willSize = 283 := hwill
  have hwhole : footprint session = 316 := congrArg (33 + ·) hwill
  have hswapped := hperm farewell [⟨"z", ""⟩, ⟨"k", "vé"⟩] (.swap _ _ [])
  have hweight : record.weight.toNat = 65 + 283 := by
    rw [← hsession]
    exact hentry session ⟨3⟩ (by rw [hsession]; decide)
  have h348 : record.weight = 348 := UInt64.toNat_inj.1 hweight
  have hthrice : (record.weighingsM counted 3).run 0 = ([348, 348, 348], 1) := by
    rw [hasked (StateM Nat) counted session ⟨3⟩ 2]
    change (List.replicate 3 (Entry.weightFor (footprint session)), 1) = _
    rw [hwhole]
    rfl
  -- The first copy is asked, and the second one was made before that.
  have htwo : record.copies [.copy 0, .ask 0] = [record.weighed, record] := rfl
  have hend : ((converse .meddling 2 comings).run
      { store := { defaultExpiry := 4294967295, buckets := Array.replicate 2 ∅ },
        outside := ⟨0⟩ }).map (fun (_, w) => (w.store.totalEntries, w.store.wills)) =
          some (2, [farewell.withoutPayload]) := by
    decide +kernel
  obtain ⟨⟨_, w⟩, hrun, hfacts⟩ := Option.map_eq_some_iff.1 hend
  obtain ⟨hentries, hwills⟩ := Prod.mk.inj hfacts
  have hreached : Reached .meddling w :=
    .conversed (.start ⟨0⟩ (c := { bucketCount := 2 }) rfl) hrun
  have hcounter := hmemory _ _ w hreached
  simp only [hentries, hwills, List.map_cons, List.map_nil, List.sum_singleton, hbare] at hcounter
  refine ⟨hsize, hswapped.trans hwill, hweight, hthrice, ⟨?_, ?_, ?_⟩,
    w, hreached, hentries, hwills, hcounter (by decide)⟩
  · simp [htwo]
  · simp [htwo]
  · intro copy hcopy
    exact (hcopies record _ copy hcopy).weight.trans h348

end BrokerSessions
