-- Records cleared away. A purge takes records out in a loop of its own, and a removal takes out
-- one. Both come to the same: the record goes, the counters follow, and the reference of its will
-- is given back. So a purge leaves a store as if each of its clients had been removed, in any
-- order, and a sweep does this for all buckets.
import BrokerSessions.Backdrop
import BrokerSessions.Proofs.Runs

namespace BrokerSessions

/-! ## The ledger does not care who gives back first -/

namespace PayloadLedger

theorem release_release (l : PayloadLedger) (a b : PayloadId) :
    (l.release a).release b = (l.release b).release a := by
  unfold release
  simp only [PayloadLedger.mk.injEq, and_true]
  apply Std.ExtTreeMap.ext_getElem?
  intro k
  by_cases ha : a = k
  · by_cases hb : b = k
    · subst ha hb
      rfl
    · subst ha
      cases hp : l.payloads[a]? <;> simp [Std.ExtTreeMap.getElem?_modify, hb, hp]
  · by_cases hb : b = k
    · subst hb
      cases hp : l.payloads[b]? <;> simp [Std.ExtTreeMap.getElem?_modify, ha, hp]
    · simp [Std.ExtTreeMap.getElem?_modify, ha, hb]

end PayloadLedger

theorem Session.releaseTo_releaseTo (s t : Session) (l : PayloadLedger) :
    t.releaseTo (s.releaseTo l) = s.releaseTo (t.releaseTo l) := by
  unfold Session.releaseTo
  cases s.payloadId? with
  | none => rfl
  | some a =>
    cases t.payloadId? with
    | none => rfl
    | some b => exact l.release_release a b

/-! ## A store without some of its records -/

/-- A record, with its bucket and its client. -/
abbrev Row := Nat × ClientId × Record

/-- Where a record lies. -/
def Row.key (x : Row) : Nat × ClientId := (x.1, x.2.1)

/-- The event of a session that ended. -/
def ending (x : ClientId × Record) : Timestamp × ClientId := (x.2.object.expiresAt x.2.stamp, x.1)

/-- The counter of sessions after a record is gone. -/
def uncount (n : UInt64) (r : Record) : UInt64 := if r.object.isLive then n - 1 else n

namespace Store

/-- The store after a record was taken out and off the counters. -/
def without (s : Store) (x : Row) : Store :=
  { s.erase x.1 x.2.1 with
    sessions := uncount s.sessions x.2.2
    memory := s.memory - x.2.2.weight }

theorem record?_without (s : Store) (x : Row) (i : Nat) (c : ClientId) :
    (s.without x).record? i c = if (i, c) = x.key then none else s.record? i c := by
  change (s.erase x.1 x.2.1).record? i c = _
  rw [record?_erase]
  simp only [Row.key, Prod.mk.injEq]

@[simp] theorem bucketCount_without (s : Store) (x : Row) :
    (s.without x).bucketCount = s.bucketCount := bucketCount_erase ..

/-- It makes no difference which of two records goes first. -/
theorem without_without (s : Store) (x y : Row) :
    (s.without x).without y = (s.without y).without x := by
  have hbuckets : ((s.without x).without y).buckets = ((s.without y).without x).buckets := by
    refine buckets_ext (by simp) fun i c => ?_
    simp only [record?_without]
    split <;> split <;> rfl
  have hsessions : uncount (uncount s.sessions x.2.2) y.2.2 =
      uncount (uncount s.sessions y.2.2) x.2.2 := by
    unfold uncount
    split <;> split <;> rfl
  have hmemory :
      s.memory - x.2.2.weight - y.2.2.weight = s.memory - y.2.2.weight - x.2.2.weight := by
    grind
  exact Store.mk.injEq .. |>.mpr ⟨rfl, hbuckets, hsessions, hmemory, rfl, rfl⟩

variable (l : List Row) (s : Store)

theorem record?_foldl_without (i : Nat) (c : ClientId) :
    (l.foldl without s).record? i c = if (i, c) ∈ l.map Row.key then none else s.record? i c := by
  induction l generalizing s with
  | nil => simp
  | cons x rest ih =>
    have hmem : (i, c) ∈ (x :: rest).map Row.key ↔ (i, c) = x.key ∨ (i, c) ∈ rest.map Row.key :=
      List.mem_cons
    rw [List.foldl_cons, ih, record?_without]
    by_cases hx : (i, c) = x.key
    · rw [if_pos hx, if_pos (hmem.2 (.inl hx)), ite_self]
    · rw [if_neg hx]
      exact if_congr (by simp only [hmem, hx, false_or]) rfl rfl

theorem bucketCount_foldl_without : (l.foldl without s).bucketCount = s.bucketCount := by
  induction l generalizing s with
  | nil => rfl
  | cons x rest ih => exact (ih _).trans (bucketCount_erase ..)

/-- Who is writing has no part in it. -/
theorem foldl_without_writing (writing : List Nat) :
    l.foldl without { s with writing } = { l.foldl without s with writing } := by
  induction l generalizing s with
  | nil => rfl
  | cons x rest ih => exact ih (s.without x)

theorem writing_foldl_without : (l.foldl without s).writing = s.writing := by
  have hsame := congrArg Store.writing (s.foldl_without_writing l s.writing)
  exact hsame

theorem walk_foldl_without : (l.foldl without s).walk = s.walk := by
  induction l generalizing s with
  | nil => rfl
  | cons x rest ih => exact ih (s.without x)

end Store

/-! ## Rows cleared away -/

/-- Between two worlds the rows of `gone` were taken out, the references of their wills given
back, and the event log was told what is in `told`. -/
structure Cleared (gone : List Row) (told : List (Timestamp × ClientId)) (w v : World Backdrop) :
    Prop where
  store : v.store = gone.foldl Store.without w.store
  ledger : v.outside.ledger = gone.foldl (fun l x => x.2.2.object.releaseTo l) w.outside.ledger
  clock : v.outside.clock = w.outside.clock
  events : v.outside.events = told.reverse ++ w.outside.events

namespace Cleared

variable {gone gone' : List Row} {told told' : List (Timestamp × ClientId)}
  {w v v' u : World Backdrop}

theorem refl (w : World Backdrop) : Cleared [] [] w w := ⟨rfl, rfl, rfl, rfl⟩

/-- A single row cleared away. -/
theorem of_parts {x : Row} (hstore : v.store = w.store.without x)
    (houtside : v.outside =
      { w.outside with ledger := x.2.2.object.releaseTo w.outside.ledger }) :
    Cleared [x] [] w v :=
  ⟨hstore, by rw [houtside]; rfl, by rw [houtside], by rw [houtside]; rfl⟩

theorem trans (h : Cleared gone told w v) (h' : Cleared gone' told' v u) :
    Cleared (gone ++ gone') (told ++ told') w u where
  store := by rw [List.foldl_append, ← h.store, h'.store]
  ledger := by rw [List.foldl_append, ← h.ledger, h'.ledger]
  clock := h'.clock.trans h.clock
  events := by rw [h'.events, h.events, List.reverse_append, List.append_assoc]

theorem record?_eq (h : Cleared gone told w v) (i : Nat) (c : ClientId) :
    v.store.record? i c = if (i, c) ∈ gone.map Row.key then none else w.store.record? i c := by
  rw [h.store, Store.record?_foldl_without]

theorem count (h : Cleared gone told w v) : v.store.bucketCount = w.store.bucketCount := by
  rw [h.store, Store.bucketCount_foldl_without]

theorem writing (h : Cleared gone told w v) : v.store.writing = w.store.writing := by
  rw [h.store, Store.writing_foldl_without]

/-- What is cleared away by the writer of a bucket is cleared away when the writer is done. -/
theorem within {bucket : Nat} (h : Cleared gone told (w.enter bucket) v) :
    Cleared gone told w (v.leave bucket) where
  store := by
    have hstore : v.store = { gone.foldl Store.without w.store with
        writing := bucket :: w.store.writing } :=
      h.store.trans (w.store.foldl_without_writing gone _)
    have hwriting := w.store.writing_foldl_without gone
    change { v.store with writing := v.store.writing.erase bucket } = _
    rw [hstore, List.erase_cons_head, ← hwriting]
  ledger := h.ledger
  clock := h.clock
  events := h.events

/-- The request and the answer around it make no difference. -/
theorem around {m m' : Mark} (h : Cleared gone told (w.note m) v) :
    Cleared gone told w (v.note m') := ⟨h.store, h.ledger, h.clock, h.events⟩

/-- The order in which rows go makes no difference, for the store nor for the ledger. -/
theorem same (h : Cleared gone told w v) (h' : Cleared gone' told' w v') (hgone : gone'.Perm gone) :
    v'.store = v.store ∧ v'.outside.ledger = v.outside.ledger := by
  have hstore : RightCommutative Store.without := ⟨Store.without_without⟩
  have hledger : RightCommutative fun (l : PayloadLedger) (x : Row) => x.2.2.object.releaseTo l :=
    ⟨fun l x y => x.2.2.object.releaseTo_releaseTo y.2.2.object l⟩
  rw [h.store, h'.store, h.ledger, h'.ledger]
  exact ⟨hgone.foldl_eq _, hgone.foldl_eq _⟩

end Cleared

/-! ## One row, and all of a bucket that are over -/

section

open Operation

variable (serve : Server Backdrop) (w : World Backdrop)

/-- A ledger takes a reference back, and nothing else happens. -/
theorem release_quiet (s : Session) :
    ∃ v, (release .quiet serve s).run w = some ((), v) ∧ v.store = w.store ∧
      v.outside = { w.outside with ledger := s.releaseTo w.outside.ledger } ∧
      v.journal = s.payloadId?.toList.map .released ++ w.journal := by
  unfold release Session.releaseTo
  cases s.payloadId? with
  | none => exact ⟨w, rfl, rfl, rfl, rfl⟩
  | some id => exact ⟨_, rfl, rfl, rfl, rfl⟩

/-- Dismissing a record clears it away, be it there or not. -/
theorem dismiss_cleared (bucket : Nat) (client : ClientId) (r : Record) :
    ∃ v, (dismiss .quiet serve bucket client r).run w = some ((), v) ∧
      Cleared [(bucket, client, r)] [] w v := by
  obtain ⟨u, hu, hstore, houtside, -⟩ :=
    release_quiet serve (w.recount r.object.isLive false) r.object
  rw [World.outside_recount] at houtside
  refine ⟨((u.lowerMemory r.weight).erase bucket client).note (.forgotten bucket client r), ?_, ?_⟩
  · simp only [dismiss, Act.bind_some, Act.modify_some]
    exact ⟨⟨⟩, _, rfl, (), u, hu, ⟨⟩, _, rfl, ⟨⟩, _, rfl, rfl⟩
  · refine .of_parts ?_ houtside
    change { u.store with memory := u.store.memory - r.weight }.erase bucket client =
      w.store.without (bucket, client, r)
    rw [hstore]
    unfold Store.without uncount
    cases r.object.isLive <;> rfl

/-- Forgetting a client clears its record away. -/
theorem forget_cleared {bucket : Nat} {client : ClientId} {r : Record}
    (known : w.store.record? bucket client = some r) :
    ∃ v, (forget .quiet serve client bucket).run w = some ((), v) ∧
      Cleared [(bucket, client, r)] [] w v := by
  obtain ⟨u, hu, hstore, houtside, -⟩ :=
    release_quiet serve ((w.erase bucket client).recount r.object.isLive false) r.object
  rw [World.outside_recount] at houtside
  refine ⟨(u.lowerMemory r.weight).note (.forgotten bucket client r), ?_, ?_⟩
  · unfold forget
    refine Act.bind_some.2 ⟨w, w, Act.get_some.2 ⟨rfl, rfl⟩, ?_⟩
    rw [known]
    simp only [Act.bind_some, Act.modify_some]
    exact ⟨⟨⟩, _, rfl, ⟨⟩, _, rfl, (), u, hu, ⟨⟩, _, rfl, rfl⟩
  · refine .of_parts ?_ houtside
    change { u.store with memory := u.store.memory - r.weight } =
      w.store.without (bucket, client, r)
    rw [hstore]
    unfold Store.without uncount
    cases r.object.isLive <;> rfl

theorem dismissals_cleared (bucket : Nat) (l : List (ClientId × Record)) :
    ∃ v, (l.forM fun (client, r) => dismiss .quiet serve bucket client r).run w = some ((), v) ∧
      Cleared (l.map fun x => (bucket, x)) [] w v := by
  induction l generalizing w with
  | nil => exact ⟨w, rfl, .refl w⟩
  | cons x rest ih =>
    obtain ⟨v, hv, hfirst⟩ := dismiss_cleared serve w bucket x.1 x.2
    obtain ⟨u, hu, hrest⟩ := ih v
    exact ⟨u, forM_cons_some.2 ⟨v, hv, hu⟩, hfirst.trans hrest⟩

theorem announcements_cleared (l : List (ClientId × Record)) :
    ∃ v, (l.forM fun (client, r) =>
        announce .quiet serve (r.object.expiresAt r.stamp) client).run w =
      some ((), v) ∧ Cleared [] (l.map ending) w v := by
  induction l generalizing w with
  | nil => exact ⟨w, rfl, .refl w⟩
  | cons x rest ih =>
    let told : World Backdrop := { w.note (.announced (ending x).1 x.1) with
      outside := w.outside.announce (ending x).1 x.1 }
    have hfirst : Cleared [] [ending x] w told := ⟨rfl, rfl, rfl, rfl⟩
    obtain ⟨u, hu, hrest⟩ := ih told
    exact ⟨u, forM_cons_some.2 ⟨told, rfl, hu⟩, hfirst.trans hrest⟩

/-- The rows of a bucket whose sessions are over. -/
def Store.expiredRows (s : Store) (now : Timestamp) (bucket : Nat) : List Row :=
  (s.expired bucket now).map fun x => (bucket, x)

/-- The event of the session in a row. -/
def Row.ending (x : Row) : Timestamp × ClientId := BrokerSessions.ending x.2

/-- A purge of a bucket that nobody writes clears away what is over in it. -/
theorem perform_purge_cleared (depth : Nat) {bucket : Nat} (hlt : bucket < w.store.bucketCount)
    (hfree : bucket ∉ w.store.writing) :
    ∃ v, (perform .quiet (depth + 1) (.purge bucket)).run w =
        some (.ok ((w.store.expired bucket w.outside.clock).map Prod.fst), v) ∧
      Cleared (w.store.expiredRows w.outside.clock bucket)
        ((w.store.expiredRows w.outside.clock bucket).map Row.ending) w v := by
  let w₀ : World Backdrop := w.note (.called (.purge bucket))
  obtain ⟨v, hv, hgone⟩ := dismissals_cleared (perform .quiet depth) (w₀.enter bucket) bucket
    (w.store.expired bucket w.outside.clock)
  obtain ⟨u, hu, htold⟩ := announcements_cleared (perform .quiet depth) v
    (w.store.expired bucket w.outside.clock)
  have hrun : (purge .quiet (perform .quiet depth) bucket).run w₀ =
      some (.ok ((w.store.expired bucket w.outside.clock).map Prod.fst), u.leave bucket) := by
    apply writing_run ((w₀.store.barrier_eq_none_iff bucket).2 ⟨hlt, hfree⟩)
    simp only [Act.bind_some, Act.get_some, Act.pure_some]
    exact ⟨_, _, ⟨rfl, rfl⟩, (), v, hv, (), u, hu, rfl, rfl⟩
  refine ⟨_, attend_run hrun, ?_⟩
  have hall := (hgone.trans htold).within
  rw [List.append_nil, List.nil_append] at hall
  unfold Store.expiredRows
  rw [List.map_map]
  exact hall.around

/-- So does a removal with the record of its client. -/
theorem perform_remove_cleared (depth : Nat) {bucket : Nat} {client : ClientId} {r : Record}
    (hfree : bucket ∉ w.store.writing) (known : w.store.record? bucket client = some r) :
    ∃ v, (perform .quiet (depth + 1) (.remove client bucket)).run w = some (.ok (), v) ∧
      Cleared [(bucket, client, r)] [] w v := by
  let w₀ : World Backdrop := w.note (.called (.remove client bucket))
  obtain ⟨v, hv, hgone⟩ := forget_cleared (perform .quiet depth) (w₀.enter bucket) known
  have hrun : (remove .quiet (perform .quiet depth) client bucket).run w₀ =
      some (.ok (), v.leave bucket) := by
    apply writing_run ((w₀.store.barrier_eq_none_iff bucket).2 ⟨Store.lt_of_record? known, hfree⟩)
    simp only [Act.bind_some, Act.pure_some]
    exact ⟨(), v, hv, trivial, rfl⟩
  exact ⟨_, attend_run hrun, hgone.within.around⟩

end

/-! ## Rows of many buckets -/

namespace Store

/-- The rows of some buckets whose sessions are over. -/
def overdue (s : Store) (now : Timestamp) (buckets : List Nat) : List Row :=
  buckets.flatMap (s.expiredRows now)

variable {s : Store} {now : Timestamp} {x : Row}

theorem mem_expiredRows {bucket : Nat} : x ∈ s.expiredRows now bucket ↔
    x.1 = bucket ∧ s.record? x.1 x.2.1 = some x.2.2 ∧ x.2.2.isExpiredAt now = true := by
  unfold expiredRows
  rw [List.mem_map]
  constructor
  · rintro ⟨y, hy, rfl⟩
    exact ⟨rfl, mem_expired.1 hy⟩
  · rintro ⟨rfl, hx⟩
    exact ⟨x.2, mem_expired.2 hx, rfl⟩

/-- What is over in a store is over in one of its buckets. -/
theorem mem_overdue : x ∈ s.overdue now (List.range s.bucketCount) ↔
    s.record? x.1 x.2.1 = some x.2.2 ∧ x.2.2.isExpiredAt now = true := by
  unfold overdue
  rw [List.mem_flatMap]
  constructor
  · rintro ⟨b, _, hx⟩
    exact (mem_expiredRows.1 hx).2
  · intro hx
    exact ⟨x.1, List.mem_range.2 (lt_of_record? hx.1), mem_expiredRows.2 ⟨rfl, hx⟩⟩

theorem nodup_expiredRows (s : Store) (now : Timestamp) (bucket : Nat) :
    (s.expiredRows now bucket).Nodup :=
  (List.Nodup.of_map _ (s.nodup_expired bucket now)).map fun _ _ h => (Prod.mk.inj h).2

theorem nodup_overdue (s : Store) (now : Timestamp) {buckets : List Nat} (h : buckets.Nodup) :
    (s.overdue now buckets).Nodup := by
  unfold overdue
  rw [List.nodup_flatMap]
  refine ⟨fun b _ => s.nodup_expiredRows now b, h.imp fun {b b'} hne => ?_⟩
  apply List.disjoint_left.2
  intro x hx hx'
  exact hne ((mem_expiredRows.1 hx).1.symm.trans (mem_expiredRows.1 hx').1)

/-- No two rows of a store lie at the same key. -/
theorem nodup_keys {l : List Row} (h : l.Nodup)
    (known : ∀ x ∈ l, s.record? x.1 x.2.1 = some x.2.2) : (l.map Row.key).Nodup := by
  refine h.map_on fun x hx y hy hkey => ?_
  obtain ⟨hbucket, hclient⟩ := Prod.mk.inj hkey
  have hrecord := (known x hx).symm.trans (hbucket ▸ hclient ▸ known y hy)
  exact Prod.ext hbucket (Prod.ext hclient (Option.some.inj hrecord))

end Store

/-! ## Sweeps, and removals in a row -/

/-- Removes the clients of some keys, one after the other. -/
def removals {σ : Type} : List (Nat × ClientId) → Dialogue σ Unit
  | [] => pure ()
  | (bucket, client) :: rest => do
    let _ ← Dialogue.request (.remove client bucket)
    removals rest

section

variable (depth : Nat) (w : World Backdrop)

theorem removals_cleared (l : List Row) (hkeys : (l.map Row.key).Nodup)
    (hidle : w.store.writing = [])
    (known : ∀ x ∈ l, w.store.record? x.1 x.2.1 = some x.2.2) :
    ∃ v, (converse .quiet (depth + 1) (removals (l.map Row.key))).run w = some ((), v) ∧
      Cleared l [] w v := by
  induction l generalizing w with
  | nil => exact ⟨w, rfl, .refl w⟩
  | cons x rest ih =>
    obtain ⟨hx, hrest⟩ := List.nodup_cons.1 hkeys
    obtain ⟨v, hv, hfirst⟩ := perform_remove_cleared w depth (by simp [hidle])
      (known x List.mem_cons_self)
    have hknown : ∀ y ∈ rest, v.store.record? y.1 y.2.1 = some y.2.2 := by
      intro y hy
      have hne : y.key ∉ [x].map Row.key := by
        intro hmem
        have heq : y.key = x.key := by simpa using hmem
        exact hx (heq ▸ List.mem_map_of_mem hy)
      rw [hfirst.record?_eq]
      exact (if_neg hne).trans (known y (List.mem_cons_of_mem _ hy))
    obtain ⟨u, hu, hlater⟩ := ih v hrest (hfirst.writing.trans hidle) hknown
    exact ⟨u, Act.bind_some.2 ⟨_, v, hv, hu⟩, hfirst.trans hlater⟩

/-- A purge of one bucket leaves what is over in the others. -/
theorem Cleared.expiredRows_of_ne {w v : World Backdrop} {bucket other : Nat}
    {told : List (Timestamp × ClientId)}
    (h : Cleared (w.store.expiredRows w.outside.clock bucket) told w v) (hne : other ≠ bucket) :
    v.store.expiredRows v.outside.clock other = w.store.expiredRows w.outside.clock other := by
  have hsame : v.store.expired other w.outside.clock = w.store.expired other w.outside.clock := by
    have hwalk : v.store.walk = w.store.walk := by rw [h.store, Store.walk_foldl_without]
    refine Store.expired_congr hwalk h.count (fun c => ?_) _
    rw [h.record?_eq, if_neg]
    intro hmem
    obtain ⟨x, hx, hkey⟩ := List.mem_map.1 hmem
    exact hne ((Prod.mk.inj hkey).1.symm.trans (Store.mem_expiredRows.1 hx).1)
  unfold Store.expiredRows
  rw [h.clock, hsame]

theorem purgeAll_cleared (before : Nat) (buckets : List Nat) (hnodup : buckets.Nodup)
    (hlt : ∀ b ∈ buckets, b < w.store.bucketCount) (hidle : w.store.writing = []) :
    ∃ v, ((Dialogue.purgeAll before buckets).run (perform .quiet (depth + 1))).run w =
        some (before + (w.store.overdue w.outside.clock buckets).length, v) ∧
      Cleared (w.store.overdue w.outside.clock buckets)
        ((w.store.overdue w.outside.clock buckets).map Row.ending) w v := by
  induction buckets generalizing w before with
  | nil => exact ⟨w, rfl, .refl w⟩
  | cons b rest ih =>
    obtain ⟨hb, hrest⟩ := List.nodup_cons.1 hnodup
    obtain ⟨v, hv, hfirst⟩ := perform_purge_cleared w depth (hlt b List.mem_cons_self)
      (by simp [hidle])
    have hsame : v.store.overdue v.outside.clock rest = w.store.overdue w.outside.clock rest :=
      List.flatMap_congr fun b' hb' => hfirst.expiredRows_of_ne fun e => hb (e ▸ hb')
    have hremoved : Dialogue.removedBy (.ok ((w.store.expired b w.outside.clock).map Prod.fst)) =
        (w.store.expiredRows w.outside.clock b).length := by
      unfold Store.expiredRows
      rw [List.length_map]
      exact List.length_map _
    obtain ⟨u, hu, hlater⟩ := ih v (before + (w.store.expiredRows w.outside.clock b).length) hrest
      (fun b' hb' => hfirst.count ▸ hlt b' (List.mem_cons_of_mem _ hb'))
      (hfirst.writing.trans hidle)
    rw [hsame] at hu hlater
    have hsplit : w.store.overdue w.outside.clock (b :: rest) =
        w.store.expiredRows w.outside.clock b ++ w.store.overdue w.outside.clock rest :=
      List.flatMap_cons
    rw [hsplit, List.length_append, List.map_append, ← Nat.add_assoc]
    refine ⟨u, Act.bind_some.2 ⟨_, v, hv, ?_⟩, hfirst.trans hlater⟩
    rw [← hremoved] at hu ⊢
    exact hu

end

/-! ## A purge is as good as removals -/

/-- Between two worlds rows went as if each of them had been removed, in whatever order, and the
event log was told of each of them once, with the instant at which its session ended. -/
structure AsRemoved (gone : List Row) (w v : World Backdrop) : Prop where
  removals : ∀ order : List Row, order.Perm gone → ∀ depth, ∃ u,
    (converse .quiet (depth + 1) (removals (order.map Row.key))).run w = some ((), u) ∧
      u.store = v.store ∧ u.outside.ledger = v.outside.ledger
  events : ∃ told, v.outside.events = told ++ w.outside.events ∧ told.Perm (gone.map Row.ending)

theorem Cleared.asRemoved {gone : List Row} {w v : World Backdrop}
    (h : Cleared gone (gone.map Row.ending) w v) (hnodup : gone.Nodup)
    (hidle : w.store.writing = [])
    (known : ∀ x ∈ gone, w.store.record? x.1 x.2.1 = some x.2.2) : AsRemoved gone w v where
  removals order horder depth := by
    have hknown : ∀ x ∈ order, w.store.record? x.1 x.2.1 = some x.2.2 :=
      fun x hx => known x (horder.mem_iff.1 hx)
    obtain ⟨u, hu, hcleared⟩ := removals_cleared depth w order
      (Store.nodup_keys (horder.nodup_iff.2 hnodup) hknown) hidle hknown
    exact ⟨u, hu, h.same hcleared horder⟩
  events := ⟨_, h.events, List.reverse_perm _⟩

/-- A purge takes away exactly the records of its bucket whose sessions are over, and it leaves
the store and the ledger as removals of their clients would leave them, in any order. It tells
the event log of each of them, and of nothing else. A sweep does the same for all buckets, counts
the records, and leaves none whose session is over. -/
theorem purges_as_removals {w : World Backdrop} (hw : Reached .quiet w) (depth : Nat) :
    (∀ b, b < w.store.bucketCount → ∃ (gone : List Row) (v : World Backdrop),
      (perform .quiet (depth + 1) (.purge b)).run w =
        some (.ok (gone.map fun x => x.2.1), v) ∧
      (gone.map fun x => x.2.1).Nodup ∧
      (∀ i c r, (i, c, r) ∈ gone ↔
        i = b ∧ w.store.record? i c = some r ∧ r.isExpiredAt w.outside.clock = true) ∧
      AsRemoved gone w v) ∧
    ∃ (gone : List Row) (v : World Backdrop),
      (converse .quiet (depth + 1) Dialogue.sweep).run w = some (gone.length, v) ∧
      gone.Nodup ∧
      (∀ i c r, (i, c, r) ∈ gone ↔
        w.store.record? i c = some r ∧ r.isExpiredAt w.outside.clock = true) ∧
      AsRemoved gone w v ∧
      ∀ i c r, v.store.record? i c = some r → r.isExpiredAt v.outside.clock = false := by
  constructor
  · intro b hlt
    obtain ⟨v, hv, hcleared⟩ := perform_purge_cleared w depth hlt (by simp [hw.writing])
    have hclients : (w.store.expiredRows w.outside.clock b).map (fun x => x.2.1) =
        (w.store.expired b w.outside.clock).map Prod.fst := by
      unfold Store.expiredRows
      rw [List.map_map]
      rfl
    refine ⟨_, v, hclients ▸ hv, hclients ▸ w.store.nodup_expired b _, fun i c r => ?_,
      hcleared.asRemoved (w.store.nodup_expiredRows _ b) hw.writing fun x hx => ?_⟩
    · exact Store.mem_expiredRows
    · exact (Store.mem_expiredRows.1 hx).2.1
  · obtain ⟨v, hv, hcleared⟩ := purgeAll_cleared depth w 0 (List.range w.store.bucketCount)
      List.nodup_range (fun b hb => List.mem_range.1 hb) hw.writing
    rw [Nat.zero_add] at hv
    have hnodup := w.store.nodup_overdue w.outside.clock
      (List.nodup_range (n := w.store.bucketCount))
    refine ⟨_, v, hv, hnodup, fun i c r => Store.mem_overdue,
      hcleared.asRemoved hnodup hw.writing fun x hx => (Store.mem_overdue.1 hx).1, ?_⟩
    intro i c r hr
    rw [hcleared.record?_eq] at hr
    split at hr
    · cases hr
    · rename_i hstays
      rw [hcleared.clock]
      by_contra hover
      rw [Bool.not_eq_false] at hover
      exact hstays (List.mem_map_of_mem (Store.mem_overdue.2 ⟨hr, hover⟩ : (i, c, r) ∈ _))

/-- Three sessions that are over hold the same payload, two of them of one client in different
buckets. A fourth one is not over. -/
def sharedPayload : Dialogue Backdrop Unit := do
  let will : Will := { publication := { topic := "t" }, payloadId := 1 }
  let _ ← Dialogue.request (.put "a" { connected := false, expiry := 0, will } ⟨1000⟩ 0)
  let _ ← Dialogue.request (.put "b" { connected := false, expiry := 2, will } ⟨1000⟩ 0)
  let _ ← Dialogue.request (.put "c" { connected := true, expiry := 0, will } ⟨1000⟩ 0)
  let _ ← Dialogue.request (.put "a" { connected := false, expiry := 1, will } ⟨1000⟩ 1)

/-- A purge takes two of them away. Removals the other way round leave the same store and the
same ledger. A sweep takes all three away. -/
theorem purges_as_removals_sharedPayload :
    ∃ w, Reached .quiet w ∧ w.outside.ledger.references 1 = 1 ∧
      (∃ (gone : List Row) (v u : World Backdrop),
        (perform .quiet 1 (.purge 0)).run w = some (.ok (gone.map fun x => x.2.1), v) ∧
          gone.map (fun x => x.2.1) = ["a", "b"] ∧
          (converse .quiet 1 (removals (gone.reverse.map Row.key))).run w = some ((), u) ∧
          u.store = v.store ∧ u.outside.ledger = v.outside.ledger ∧
          u.outside.ledger.references 1 = -1) ∧
      ∃ (gone : List Row) (v : World Backdrop),
        (converse .quiet 1 Dialogue.sweep).run w = some (3, v) ∧ gone.length = 3 ∧
          AsRemoved gone w v := by
  have hend : ((converse .quiet 1 sharedPayload).run
      { store := { defaultExpiry := 9, buckets := Array.replicate 2 ∅ },
        outside := { ledger := (PayloadLedger.add {} [7]).2, clock := ⟨5000⟩ } }).bind (fun (_, w) =>
          ((perform .quiet 1 (.purge 0)).run w).bind
            fun ((reply, v) : Except Refusal (List ClientId) × World Backdrop) =>
            ((converse .quiet 1 Dialogue.sweep).run w).map fun (count, _) =>
              (w.outside.ledger.references 1, reply.toOption, v.outside.ledger.references 1, count,
                w.store.bucketCount)) =
      some (1, some ["a", "b"], -1, 3, 2) := by
    decide +kernel
  obtain ⟨⟨_, w⟩, hrun, hend⟩ := Option.bind_eq_some_iff.1 hend
  obtain ⟨⟨(reply : Except Refusal (List ClientId)), v⟩, hpurge, hend⟩ :=
    Option.bind_eq_some_iff.1 hend
  obtain ⟨⟨count, u⟩, hsweep, hfacts⟩ := Option.map_eq_some_iff.1 hend
  obtain ⟨hbefore, hreply, hafter, hcount, hbuckets⟩ : w.outside.ledger.references 1 = 1 ∧
      reply.toOption = some ["a", "b"] ∧ v.outside.ledger.references 1 = -1 ∧ count = 3 ∧
        w.store.bucketCount = 2 := by
    simpa using hfacts
  have hreached : Reached .quiet w :=
    .conversed (.start _ (c := { bucketCount := 2, defaultExpiry := 9 }) rfl) hrun
  obtain ⟨hpurges, swept, v', hv', -, -, hswept, -⟩ := purges_as_removals hreached 0
  obtain ⟨gone, v'', hv'', -, -, hgone⟩ := hpurges 0 (by omega)
  obtain ⟨rfl, rfl⟩ := Prod.mk.inj (Option.some.inj (hpurge.symm.trans hv''))
  obtain ⟨hlength, rfl⟩ := Prod.mk.inj (Option.some.inj (hsweep.symm.trans hv'))
  obtain ⟨u', hu', hstore, hledger⟩ := hgone.removals gone.reverse gone.reverse_perm 0
  refine ⟨w, hreached, hbefore, ⟨gone, v, u', hpurge, Option.some.inj hreply, hu', hstore, hledger,
    ?_⟩, swept, u, hcount ▸ hsweep, hlength ▸ hcount, hswept⟩
  rw [hledger, hafter]

end BrokerSessions
