-- Two stores side by side. They differ in the number of their buckets only, and the same
-- is asked of both, by client. Each step of an operation keeps them twins, so both give
-- the same answer.
import BrokerSessions.Proofs.Pacing
import BrokerSessions.Backdrop

namespace BrokerSessions

/-! ## Twins -/

/-- Two worlds that nobody can tell apart by client: the stores have `n` and `n'` buckets,
each client lies where it belongs, and both hold the same for it. Those of `l` are being
written in the first one, and those of `l'` in the second one. -/
structure Twins (n n' : Nat) (l l' : List Nat) (w w' : World Backdrop) : Prop where
  pos : 0 < n
  pos' : 0 < n'
  count : w.store.bucketCount = n
  count' : w'.store.bucketCount = n'
  writing : w.store.writing = l
  writing' : w'.store.writing = l'
  routed : ∀ i c r, w.store.record? i c = some r → i = Routing.bucketOf c n
  routed' : ∀ i c r, w'.store.record? i c = some r → i = Routing.bucketOf c n'
  held : ∀ c, w'.store.record? (Routing.bucketOf c n') c = w.store.record? (Routing.bucketOf c n) c
  sessions : w'.store.sessions = w.store.sessions
  memory : w'.store.memory = w.store.memory
  defaultExpiry : w'.store.defaultExpiry = w.store.defaultExpiry
  ledger : w'.outside.ledger = w.outside.ledger
  clock : w'.outside.clock = w.outside.clock
  events : w'.outside.events.Perm w.outside.events

namespace Twins

variable {n n' : Nat} {l l' : List Nat} {w w' : World Backdrop}

/-- The journals may differ. -/
theorem note (h : Twins n n' l l' w w') (m m' : Mark) : Twins n n' l l' (w.note m) (w'.note m') :=
  { h with }

theorem recount (h : Twins n n' l l' w w') (before after : Bool) :
    Twins n n' l l' (w.recount before after) (w'.recount before after) := by
  cases before <;> cases after
  · exact h
  · exact { h with sessions := congrArg (· + 1) h.sessions }
  · exact { h with sessions := congrArg (· - 1) h.sessions }
  · exact h

/-- Something happens outside, on both sides alike. -/
theorem outside (h : Twins n n' l l' w w') {own own' : Backdrop}
    (hledger : own'.ledger = own.ledger) (hclock : own'.clock = own.clock)
    (hevents : own'.events.Perm own.events) :
    Twins n n' l l' { w with outside := own } { w' with outside := own' } :=
  { h with ledger := hledger, clock := hclock, events := hevents }

/-- A record that is filed by its client lies where it belongs. -/
theorem routed_file {s : Store} {n : Nat}
    (h : ∀ i c r, s.record? i c = some r → i = Routing.bucketOf c n) (client : ClientId)
    (fresh : Record) (i : Nat) (c : ClientId) (r : Record)
    (hr : (s.file (Routing.bucketOf client n) client fresh).record? i c = some r) :
    i = Routing.bucketOf c n := by
  rw [Store.record?_file] at hr
  split at hr
  · rename_i hat
    obtain ⟨_, rfl, rfl⟩ := hat
    rfl
  · exact h i c r hr

theorem file (h : Twins n n' l l' w w') (client : ClientId) (fresh : Record) :
    Twins n n' l l' (w.file (Routing.bucketOf client n) client fresh)
      (w'.file (Routing.bucketOf client n') client fresh) := by
  refine { h with
    count := (Store.bucketCount_file ..).trans h.count
    count' := (Store.bucketCount_file ..).trans h.count'
    routed := routed_file h.routed client fresh
    routed' := routed_file h.routed' client fresh
    held := ?_ }
  intro c
  change (w'.store.file _ client fresh).record? _ c = (w.store.file _ client fresh).record? _ c
  rw [Store.record?_file, Store.record?_file, h.count, h.count']
  by_cases hc : c = client
  · subst hc
    simp [Routing.bucketOf_lt c h.pos, Routing.bucketOf_lt c h.pos']
  · simp [hc, h.held c]

theorem routed_erase {s : Store} {n : Nat}
    (h : ∀ i c r, s.record? i c = some r → i = Routing.bucketOf c n) (bucket : Nat)
    (client : ClientId) (i : Nat) (c : ClientId) (r : Record)
    (hr : (s.erase bucket client).record? i c = some r) : i = Routing.bucketOf c n := by
  rw [Store.record?_erase] at hr
  split at hr
  · cases hr
  · exact h i c r hr

theorem erase (h : Twins n n' l l' w w') (client : ClientId) :
    Twins n n' l l' (w.erase (Routing.bucketOf client n) client)
      (w'.erase (Routing.bucketOf client n') client) := by
  refine { h with
    count := (Store.bucketCount_erase ..).trans h.count
    count' := (Store.bucketCount_erase ..).trans h.count'
    routed := routed_erase h.routed _ client
    routed' := routed_erase h.routed' _ client
    held := ?_ }
  intro c
  rw [World.store_erase, World.store_erase, Store.record?_erase, Store.record?_erase]
  by_cases hc : c = client
  · simp [hc]
  · simp [hc, h.held c]

/-! ## What keeps twins -/

theorem attuned : Attuned (Twins n n' l l') where
  defaultExpiry h := h.defaultExpiry
  lowerMemory h x := { h with memory := congrArg (· - x) h.memory }
  raiseMemory h x := { h with memory := congrArg (· + x) h.memory }
  recount h before after := h.recount before after
  dangled h _ := { h with }

theorem alongside (client : ClientId) :
    Alongside (Twins n n' l l') (Routing.bucketOf client n) (Routing.bucketOf client n')
      client where
  known h := h.held client
  file h fresh := h.file client fresh
  erase h := h.erase client
  forgotten h _ := h.note _ _

/-- A client always has a bucket. -/
theorem range (h : Twins n n' l l' w w') (client : ClientId) :
    Routing.bucketOf client n < w.store.bucketCount ∧
      Routing.bucketOf client n' < w'.store.bucketCount := by
  rw [h.count, h.count']
  exact ⟨Routing.bucketOf_lt client h.pos, Routing.bucketOf_lt client h.pos'⟩

/-- Nobody else is writing, so a client finds the door of its bucket open in both worlds. -/
theorem door (client : ClientId) :
    Door (Twins n n' [] []) (Twins n n' [Routing.bucketOf client n] [Routing.bucketOf client n'])
      (Routing.bucketOf client n) (Routing.bucketOf client n') where
  barrier {w w'} h := by
    obtain ⟨hlt, hlt'⟩ := h.range client
    have hopen : w.store.barrier (Routing.bucketOf client n) = none := by
      rw [Store.barrier_eq_none_iff, h.writing]
      exact ⟨hlt, List.not_mem_nil⟩
    rw [hopen, Store.barrier_eq_none_iff, h.writing']
    exact ⟨hlt', List.not_mem_nil⟩
  enter h := { h with
    writing := congrArg (List.cons _) h.writing
    writing' := congrArg (List.cons _) h.writing' }
  leave h := { h with
    writing := by simp [World.leave, World.note, h.writing]
    writing' := by simp [World.leave, World.note, h.writing'] }

/-- Twins that are quiet outside give the same answers to their stores. -/
theorem company {lax : Prop} (serve serve' : Server Backdrop) :
    Company lax (Twins n n' l l') .quiet .quiet serve serve' where
  release s := by
    unfold Operation.release
    cases s.payloadId? with
    | none => exact Paced.pure ()
    | some id =>
      intro w w' h
      refine .inr ⟨(), { w.note (.released id) with outside := w.outside.release id },
        { w'.note (.released id) with outside := w'.outside.release id }, rfl, rfl, ?_⟩
      exact (h.note _ _).outside (congrArg (PayloadLedger.release · id) h.ledger) h.clock h.events
  fetch id := by
    intro w w' h
    refine .inr ⟨w.outside.ledger.bytes? id, w.note (.fetched id), w'.note (.fetched id), rfl, ?_,
      h.note _ _⟩
    rw [← h.ledger]
    rfl
  announce instant client := by
    intro w w' h
    refine .inr ⟨(), { w.note (.announced instant client) with
        outside := w.outside.announce instant client },
      { w'.note (.announced instant client) with
        outside := w'.outside.announce instant client }, rfl, rfl, ?_⟩
    exact (h.note _ _).outside h.ledger h.clock (h.events.cons _)
  now h := h.clock

end Twins

end BrokerSessions
