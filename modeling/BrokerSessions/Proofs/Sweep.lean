-- What a sweep does, as one step. It takes out every record whose session is over, and
-- nothing else, whatever the buckets are in which they lie. So two stores that are twins
-- are still twins when both were swept.
import BrokerSessions.Proofs.Clearance
import BrokerSessions.Proofs.Coupling

namespace BrokerSessions

/-! ## What a clearance does to a store -/

namespace Store

variable (l : List Row) (s : Store)

/-- The counters follow the records, wherever they lay. -/
theorem sessions_foldl_without : (l.foldl without s).sessions =
    (l.map Prod.snd).foldl (fun n x => uncount n x.2) s.sessions := by
  induction l generalizing s with
  | nil => rfl
  | cons x rest ih => exact ih (s.without x)

theorem memory_foldl_without : (l.foldl without s).memory =
    (l.map Prod.snd).foldl (fun n x => n - x.2.weight) s.memory := by
  induction l generalizing s with
  | nil => rfl
  | cons x rest ih => exact ih (s.without x)

theorem defaultExpiry_foldl_without : (l.foldl without s).defaultExpiry = s.defaultExpiry := by
  induction l generalizing s with
  | nil => rfl
  | cons x rest ih => exact ih (s.without x)

end Store

theorem releaseTo_foldl_rows (rows : List Row) (l : PayloadLedger) :
    rows.foldl (fun l x => x.2.2.object.releaseTo l) l =
      (rows.map Prod.snd).foldl (fun l x => x.2.object.releaseTo l) l := by
  induction rows generalizing l with
  | nil => rfl
  | cons x rest ih => exact ih _

/-! ## Twins cleared of the same -/

/-- Each row lies in the bucket to which its client belongs. -/
def Routed (n : Nat) (l : List Row) : Prop := ∀ x ∈ l, x.1 = Routing.bucketOf x.2.1 n

theorem Routed.mem_keys {n : Nat} {l : List Row} (h : Routed n l) (c : ClientId) :
    (Routing.bucketOf c n, c) ∈ l.map Row.key ↔ c ∈ (l.map Prod.snd).map Prod.fst := by
  rw [List.map_map, List.mem_map, List.mem_map]
  constructor
  · rintro ⟨x, hx, hkey⟩
    exact ⟨x, hx, (Prod.mk.inj hkey).2⟩
  · rintro ⟨x, hx, rfl⟩
    exact ⟨x, hx, Prod.ext (h x hx) rfl⟩

/-- The buckets from which records are cleared away make no difference to twins, nor does the
order. -/
theorem Cleared.twins {n n' : Nat} {l l' : List Nat} {w w' v v' : World Backdrop}
    {gone gone' : List Row} {told told' : List (Timestamp × ClientId)} (hw : Twins n n' l l' w w')
    (h : Cleared gone told w v) (h' : Cleared gone' told' w' v') (hrouted : Routed n gone)
    (hrouted' : Routed n' gone') (hgone : (gone'.map Prod.snd).Perm (gone.map Prod.snd))
    (htold : told'.Perm told) : Twins n n' l l' v v' where
  pos := hw.pos
  pos' := hw.pos'
  count := h.count.trans hw.count
  count' := h'.count.trans hw.count'
  writing := h.writing.trans hw.writing
  writing' := h'.writing.trans hw.writing'
  routed i c r hr := by
    rw [h.record?_eq] at hr
    split at hr
    · cases hr
    · exact hw.routed i c r hr
  routed' i c r hr := by
    rw [h'.record?_eq] at hr
    split at hr
    · cases hr
    · exact hw.routed' i c r hr
  held c := by
    have hmem : (Routing.bucketOf c n', c) ∈ gone'.map Row.key ↔
        (Routing.bucketOf c n, c) ∈ gone.map Row.key := by
      rw [hrouted.mem_keys, hrouted'.mem_keys, (hgone.map Prod.fst).mem_iff]
    rw [h.record?_eq, h'.record?_eq, hw.held c]
    exact if_congr hmem rfl rfl
  sessions := by
    have hcomm : RightCommutative fun (n : UInt64) (x : ClientId × Record) => uncount n x.2 := by
      refine ⟨fun n x y => ?_⟩
      unfold uncount
      split <;> split <;> rfl
    rw [h.store, h'.store, Store.sessions_foldl_without, Store.sessions_foldl_without, hw.sessions]
    exact hgone.foldl_eq _
  memory := by
    have hcomm : RightCommutative fun (n : UInt64) (x : ClientId × Record) => n - x.2.weight := by
      refine ⟨fun n x y => ?_⟩
      grind
    rw [h.store, h'.store, Store.memory_foldl_without, Store.memory_foldl_without, hw.memory]
    exact hgone.foldl_eq _
  defaultExpiry := by
    rw [h.store, h'.store, Store.defaultExpiry_foldl_without, Store.defaultExpiry_foldl_without,
      hw.defaultExpiry]
  ledger := by
    have hcomm : RightCommutative fun (l : PayloadLedger) (x : ClientId × Record) =>
        x.2.object.releaseTo l := ⟨fun l x y => x.2.object.releaseTo_releaseTo y.2.object l⟩
    rw [h.ledger, h'.ledger, hw.ledger, releaseTo_foldl_rows, releaseTo_foldl_rows]
    exact hgone.foldl_eq _
  clock := (h'.clock.trans hw.clock).trans h.clock.symm
  events := by
    rw [h.events, h'.events]
    exact ((List.reverse_perm _).trans (htold.trans (List.reverse_perm _).symm)).append hw.events

/-! ## Two sweeps -/

section

variable {n : Nat} {s : Store}
  (hrouted : ∀ i c r, s.record? i c = some r → i = Routing.bucketOf c n)

include hrouted

theorem routed_overdue (now : Timestamp) : Routed n (s.overdue now (List.range s.bucketCount)) :=
  fun x hx => hrouted x.1 x.2.1 x.2.2 (Store.mem_overdue.1 hx).1

/-- What is over in a store is over wherever it lies. -/
theorem mem_overdue_records {now : Timestamp} {x : ClientId × Record} :
    x ∈ (s.overdue now (List.range s.bucketCount)).map Prod.snd ↔
      s.record? (Routing.bucketOf x.1 n) x.1 = some x.2 ∧ x.2.isExpiredAt now = true := by
  rw [List.mem_map]
  constructor
  · rintro ⟨y, hy, rfl⟩
    rw [← routed_overdue hrouted now y hy]
    exact Store.mem_overdue.1 hy
  · intro hx
    exact ⟨(Routing.bucketOf x.1 n, x), Store.mem_overdue.2 hx, rfl⟩

theorem nodup_overdue_records (now : Timestamp) :
    ((s.overdue now (List.range s.bucketCount)).map Prod.snd).Nodup := by
  refine (s.nodup_overdue now List.nodup_range).map_on fun x hx y hy hsame => ?_
  refine Prod.ext ?_ hsame
  rw [routed_overdue hrouted now x hx, routed_overdue hrouted now y hy, hsame]

end

/-- In twins the same records are over. -/
theorem Twins.overdue {n n' : Nat} {l l' : List Nat} {w w' : World Backdrop}
    (h : Twins n n' l l' w w') (now : Timestamp) :
    ((w'.store.overdue now (List.range w'.store.bucketCount)).map Prod.snd).Perm
      ((w.store.overdue now (List.range w.store.bucketCount)).map Prod.snd) := by
  apply (List.perm_ext_iff_of_nodup (nodup_overdue_records h.routed' now)
    (nodup_overdue_records h.routed now)).2
  intro x
  rw [mem_overdue_records h.routed', mem_overdue_records h.routed, h.held x.1]

/-- Two sweeps side by side remove as many records, and leave twins. -/
theorem sweep_agree {n n' : Nat} {w w' : World Backdrop} (h : Twins n n' [] [] w w')
    (depth depth' : Nat) :
    ∃ removed v v', (converse .quiet (depth + 1) Dialogue.sweep).run w = some (removed, v) ∧
      (converse .quiet (depth' + 1) Dialogue.sweep).run w' = some (removed, v') ∧
        Twins n n' [] [] v v' := by
  obtain ⟨v, hv, hcleared⟩ := purgeAll_cleared depth w 0 (List.range w.store.bucketCount)
    List.nodup_range (fun b hb => List.mem_range.1 hb) h.writing
  obtain ⟨v', hv', hcleared'⟩ := purgeAll_cleared depth' w' 0 (List.range w'.store.bucketCount)
    List.nodup_range (fun b hb => List.mem_range.1 hb) h.writing'
  have hperm := h.overdue w.outside.clock
  have hrouted := routed_overdue h.routed w.outside.clock
  have hrouted' := routed_overdue h.routed' w.outside.clock
  rw [h.clock] at hv' hcleared'
  have hlength : (w'.store.overdue w.outside.clock (List.range w'.store.bucketCount)).length =
      (w.store.overdue w.outside.clock (List.range w.store.bucketCount)).length := by
    simpa only [List.length_map] using hperm.length_eq
  have htold := hperm.map ending
  rw [List.map_map, List.map_map] at htold
  rw [hlength] at hv'
  exact ⟨_, v, v', hv, hv', hcleared.twins h hcleared' hrouted hrouted' hperm htold⟩

end BrokerSessions
