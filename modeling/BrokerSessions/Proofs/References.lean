-- References and records. The payloads lie in a ledger, and whoever has a will kept takes
-- one reference for it right before. Then the references to each payload that is there
-- are the records whose will names it, however the wills come and go, and whichever
-- payloads are discarded meanwhile.
import BrokerSessions.Proofs.WillCustody

namespace BrokerSessions

variable {τ : Type}

/-! ## References that are paired with puts -/

/-- The ledger after some payloads were discarded. -/
def PayloadLedger.discardAll (l : PayloadLedger) (ids : List PayloadId) : PayloadLedger :=
  ids.foldl discard l

/-- The collaborators of a store whose payloads lie in a ledger. The ledger never talks
back, but payloads may be discarded while the store is at work: `lost` are those that are
gone when the ledger is asked next. The event log may talk to the store before it returns. -/
def Collaborators.ledgered (lost : PayloadLedger × τ → List PayloadId)
    (announce : Timestamp → ClientId → Dialogue (PayloadLedger × τ) Unit) (now : τ → Timestamp) :
    Collaborators (PayloadLedger × τ) where
  release id := Dialogue.change fun (l, own) => ((l.discardAll (lost (l, own))).release id, own)
  fetch id := do
    let (l, own) ← Dialogue.own
    Dialogue.keep (l.discardAll (lost (l, own)), own)
      (pure ((l.discardAll (lost (l, own))).bytes? id))
  announce := announce
  now own := now own.2

namespace PayloadLedger

theorem issued_discardAll (l : PayloadLedger) (ids : List PayloadId) :
    (l.discardAll ids).issued = l.issued := by
  unfold discardAll
  induction ids generalizing l with
  | nil => rfl
  | cons id rest ih => exact ih (l.discard id)

/-- What is still there was there before, with the same references. -/
theorem of_discardAll {l : PayloadLedger} {ids : List PayloadId} {k : PayloadId}
    (h : ((l.discardAll ids).bytes? k).isSome = true) :
    (l.bytes? k).isSome = true ∧ (l.discardAll ids).references k = l.references k := by
  unfold discardAll at h ⊢
  induction ids generalizing l with
  | nil => exact ⟨h, rfl⟩
  | cons id rest ih =>
    obtain ⟨hthere, hsame⟩ := ih h
    rw [bytes?_discard] at hthere
    rw [references_discard] at hsame
    by_cases hk : k = id
    · rw [if_pos hk] at hthere
      cases hthere
    · rw [if_neg hk] at hthere hsame
      exact ⟨hthere, hsame⟩

end PayloadLedger

/-- One step outside a store. A step that takes a reference leaves it due: the next request
must be the put that it was taken for. The ledger does not come to the end of its ids: one
that it hands out is a new one. -/
inductive Exchange :
    Option PayloadId → PayloadLedger → Option PayloadId → PayloadLedger → Prop where
  | idle {due : Option PayloadId} {l : PayloadLedger} : Exchange due l due l
  | discard {due : Option PayloadId} {l : PayloadLedger} (id : PayloadId) :
      Exchange due l due (l.discard id)
  | add {l : PayloadLedger} (bytes : Bytes) (new : l.issued < (l.add bytes).1) :
      Exchange none l (some (l.add bytes).1) (l.add bytes).2
  | retain {l : PayloadLedger} {id : PayloadId} (there : (l.bytes? id).isSome = true) :
      Exchange none l (some id) (l.retain id)

/-- The payload to which a request brought a reference in: that of the will in a granted put. -/
def Request.brought : Request → Option Refusal → Option PayloadId
  | .put _ session _ _, none => session.payloadId?
  | _, _ => none

/-- A conversation that takes a reference right before each granted put of a will, and for
nothing else. -/
def Dialogue.Paired {α : Type} (serve : Server (PayloadLedger × τ)) :
    Dialogue (PayloadLedger × τ) α → Option PayloadId → World (PayloadLedger × τ) → Prop
  | .done _, due, _ => due = none
  | .look next, due, w => (next w.store w.outside).Paired serve due w
  | .keep own next, due, w =>
    ∃ due', Exchange due w.outside.1 due' own.1 ∧ next.Paired serve due' { w with outside := own }
  | .ask q next, due, w =>
    ∀ reply w', (serve q).run w = some (reply, w') →
      due = q.brought (refusalOf reply) ∧ (next reply).Paired serve none w'

/-- The worlds of a run, step by step, and the payload for which a reference is due. The
run begins with an empty store and an empty ledger. -/
inductive PairedRun (env : Collaborators (PayloadLedger × τ)) :
    Option PayloadId → World (PayloadLedger × τ) → Prop where
  | start {c : Config} {walk : Walk} {s : Store} (own : τ) (h : Store.ofConfig c walk = .ok s) :
      PairedRun env none { store := s, outside := ({}, own) }
  | outside {due due' : Option PayloadId} {w : World (PayloadLedger × τ)} {own : PayloadLedger × τ}
      (before : PairedRun env due w) (h : Exchange due w.outside.1 due' own.1) :
      PairedRun env due' { w with outside := own }
  | asked {depth : Nat} {q : Request} {reply : q.Reply} {w w' : World (PayloadLedger × τ)}
      (before : PairedRun env (q.brought (refusalOf reply)) w)
      (h : (perform env depth q).run w = some (reply, w')) : PairedRun env none w'

/-! ## The invariant -/

/-- Each payload that is there has a reference for each record that holds it, and one more
if it is due. No id is in use that was not handed out. -/
structure Matched (due : Option PayloadId) (l : PayloadLedger) (s : Store) : Prop where
  counts : ∀ id, (l.bytes? id).isSome = true →
    l.references id = s.holders id + if due = some id then 1 else 0
  there : ∀ id, (l.bytes? id).isSome = true → id ≤ l.issued
  held : ∀ id, 0 < s.holders id → id ≤ l.issued
  due : ∀ id, due = some id → id ≤ l.issued

theorem holders_of_ofConfig {c : Config} {walk : Walk} {s : Store}
    (h : Store.ofConfig c walk = .ok s) (id : PayloadId) : s.holders id = 0 := by
  unfold Store.holders
  rw [Store.records_of_ofConfig h]
  rfl

theorem Matched.start {c : Config} {walk : Walk} {s : Store} (h : Store.ofConfig c walk = .ok s) :
    Matched none {} s where
  counts id hid := by simp [PayloadLedger.bytes?] at hid
  there id hid := by simp [PayloadLedger.bytes?] at hid
  held id hid := by
    rw [holders_of_ofConfig h] at hid
    exact absurd hid (Nat.lt_irrefl 0)
  due := nofun

/-- Only the records of a store matter. -/
theorem Matched.of_buckets {due : Option PayloadId} {l : PayloadLedger} {s s' : Store}
    (h : Matched due l s) (hs : s'.buckets = s.buckets) : Matched due l s' := by
  have hholders : ∀ id, s'.holders id = s.holders id := by
    intro id
    unfold Store.holders Store.records
    rw [hs]
  refine ⟨?_, h.there, ?_, h.due⟩
  · intro id hid
    rw [hholders]
    exact h.counts id hid
  · intro id hid
    rw [hholders] at hid
    exact h.held id hid

/-- A payload that is discarded takes its references along. -/
theorem Matched.discard {due : Option PayloadId} {l : PayloadLedger} {s : Store}
    (h : Matched due l s) (id : PayloadId) : Matched due (l.discard id) s where
  counts k hk := by
    rw [PayloadLedger.bytes?_discard] at hk
    rw [PayloadLedger.references_discard]
    split at hk
    · cases hk
    · rename_i hne
      rw [if_neg hne]
      exact h.counts k hk
  there k hk := by
    rw [PayloadLedger.bytes?_discard] at hk
    split at hk
    · cases hk
    · exact h.there k hk
  held := h.held
  due := h.due

/-- No record knows of a new id yet. -/
theorem Matched.add {l : PayloadLedger} {s : Store} (h : Matched none l s) (bytes : Bytes)
    (new : l.issued < (l.add bytes).1) :
    Matched (some (l.add bytes).1) (l.add bytes).2 s := by
  have hissued : (l.add bytes).2.issued = (l.add bytes).1 := rfl
  have hle : ∀ k, k ≤ l.issued → k ≤ (l.add bytes).1 ∧ k ≠ (l.add bytes).1 := by
    intro k hk
    refine ⟨UInt64.le_trans hk (UInt64.le_of_lt new), ?_⟩
    rintro rfl
    exact absurd new (UInt64.not_lt.2 hk)
  have hfree : s.holders (l.add bytes).1 = 0 := by
    by_contra hne
    exact (hle _ (h.held _ (Nat.pos_of_ne_zero hne))).2 rfl
  constructor
  · intro k hk
    rw [PayloadLedger.bytes?_add] at hk
    rw [PayloadLedger.references_add]
    by_cases hid : k = (l.add bytes).1
    · subst hid
      simp [hfree]
    · rw [if_neg hid] at hk ⊢
      have hcount := h.counts k hk
      have hne : ¬ (l.add bytes).1 = k := fun e => hid e.symm
      simpa [hne] using hcount
  · intro k hk
    rw [PayloadLedger.bytes?_add] at hk
    rw [hissued]
    by_cases hid : k = (l.add bytes).1
    · rw [hid]
      exact UInt64.le_refl _
    · rw [if_neg hid] at hk
      exact (hle k (h.there k hk)).1
  · intro k hk
    rw [hissued]
    exact (hle k (h.held k hk)).1
  · intro k hk
    cases hk
    exact UInt64.le_refl _

theorem Matched.retain {l : PayloadLedger} {s : Store} (h : Matched none l s) {id : PayloadId}
    (there : (l.bytes? id).isSome = true) : Matched (some id) (l.retain id) s where
  counts k hk := by
    rw [PayloadLedger.bytes?_retain] at hk
    rw [PayloadLedger.references_retain]
    have hcount := h.counts k hk
    by_cases hid : k = id
    · subst hid
      simpa [there] using hcount
    · have hne : ¬ id = k := fun e => hid e.symm
      simpa [hid, hne] using hcount
  there k hk := by
    rw [PayloadLedger.bytes?_retain] at hk
    exact h.there k hk
  held := h.held
  due k hk := by
    cases hk
    exact h.there id there

/-- A step outside keeps references and records matched. -/
theorem Matched.exchange {due due' : Option PayloadId} {l l' : PayloadLedger} {s : Store}
    (h : Matched due l s) (he : Exchange due l due' l') : Matched due' l' s := by
  cases he with
  | idle => exact h
  | discard id => exact h.discard id
  | add bytes new => exact h.add bytes new
  | retain there => exact h.retain there

/-! ## Work inside the store -/

/-- What the journal says of one payload: the references that came in with granted puts,
less those given back or dropped. -/
def World.inflow (w : World (PayloadLedger × τ)) (id : PayloadId) : ℤ :=
  (Prices.onlyWill id).ofJournal w.journal

theorem World.inflow_eq (w : World (PayloadLedger × τ)) (id : PayloadId) :
    w.inflow id = w.balance (Prices.onlyWill id) + w.store.holders id := by
  unfold World.inflow World.balance
  rw [ofStore_onlyWill]
  omega

theorem World.inflow_note (w : World (PayloadLedger × τ)) (m : Mark) (id : PayloadId) :
    (w.note m).inflow id = w.inflow id + (Prices.onlyWill id).ofMark m := by
  unfold World.inflow Prices.ofJournal
  rw [World.journal_note, List.map_cons, List.sum_cons, add_comm]

/-- A mark that one reference to a payload is gone. -/
theorem World.inflow_spent (w : World (PayloadLedger × τ)) {m : Mark} {id : PayloadId}
    (hm : ∀ p : Prices, p.ofMark m = -p.will id) (k : PayloadId) :
    (w.note m).inflow k = w.inflow k - if k = id then 1 else 0 := by
  rw [World.inflow_note, hm]
  unfold Prices.onlyWill
  by_cases hk : k = id
  · subst hk
    simp
    omega
  · have hne : ¬ id = k := fun e => hk e.symm
    simp [hk, hne]

/-- Between two worlds the references to each payload that is still there went down by what
the journal says was given back. Nothing came in. -/
structure Even (w w' : World (PayloadLedger × τ)) : Prop where
  issued : w'.outside.1.issued = w.outside.1.issued
  inflow : ∀ id, w'.inflow id ≤ w.inflow id
  there : ∀ id, (w'.outside.1.bytes? id).isSome = true → (w.outside.1.bytes? id).isSome = true
  counts : ∀ id, (w'.outside.1.bytes? id).isSome = true →
    w'.outside.1.references id - w'.inflow id = w.outside.1.references id - w.inflow id

namespace Even

variable {w w₁ w₂ : World (PayloadLedger × τ)}

theorem refl (w : World (PayloadLedger × τ)) : Even w w :=
  ⟨rfl, fun _ => le_refl _, fun _ => id, fun _ _ => rfl⟩

theorem trans (h₁ : Even w w₁) (h₂ : Even w₁ w₂) : Even w w₂ where
  issued := h₂.issued.trans h₁.issued
  inflow id := (h₂.inflow id).trans (h₁.inflow id)
  there id hid := h₁.there id (h₂.there id hid)
  counts id hid := (h₂.counts id hid).trans (h₁.counts id (h₂.there id hid))

/-- A change of the store alone. -/
theorem store (w : World (PayloadLedger × τ)) (s : Store) : Even w { w with store := s } :=
  ⟨rfl, fun _ => le_refl _, fun _ => id, fun _ _ => rfl⟩

/-- A mark that is not about a will. -/
theorem note (w : World (PayloadLedger × τ)) {m : Mark}
    (hm : ∀ id, (Prices.onlyWill id).ofMark m = 0) : Even w (w.note m) := by
  have hflow : ∀ id, (w.note m).inflow id = w.inflow id := by
    intro id
    rw [World.inflow_note, hm id, add_zero]
  refine ⟨rfl, fun id => (hflow id).le, fun _ => id, ?_⟩
  intro id _
  rw [hflow id]
  rfl

theorem enter (w : World (PayloadLedger × τ)) (bucket : Nat) : Even w (w.enter bucket) :=
  (store w _).trans (note _ fun _ => rfl)

theorem leave (w : World (PayloadLedger × τ)) (bucket : Nat) : Even w (w.leave bucket) :=
  (store w _).trans (note _ fun _ => rfl)

theorem lowerMemory (w : World (PayloadLedger × τ)) (n : UInt64) : Even w (w.lowerMemory n) :=
  (store w _).trans (note _ fun _ => by simp [Prices.ofMark, Prices.onlyWill])

theorem recount (w : World (PayloadLedger × τ)) (before after : Bool) :
    Even w (w.recount before after) := by
  cases before <;> cases after
  · exact refl w
  · exact (store w _).trans (note _ fun _ => by simp [Prices.ofMark, Prices.onlyWill])
  · exact (store w _).trans (note _ fun _ => by simp [Prices.ofMark, Prices.onlyWill])
  · exact refl w

theorem keep (w : World (PayloadLedger × τ)) (bucket : Nat) (client : ClientId) (fresh : Record) :
    Even w (w.keep bucket client fresh) := by
  have hraise : Even w (w.raiseMemory fresh.weight) :=
    (store w _).trans (note _ fun _ => by simp [Prices.ofMark, Prices.onlyWill])
  refine hraise.trans ((store _ _).trans (note _ fun id => ?_))
  cases (w.raiseMemory fresh.weight).store.record? bucket client <;> rfl

/-- Payloads are lost. -/
theorem lose (w : World (PayloadLedger × τ)) (ids : List PayloadId) :
    Even w { w with outside := (w.outside.1.discardAll ids, w.outside.2) } := by
  refine ⟨PayloadLedger.issued_discardAll _ ids, fun _ => le_refl _, ?_, ?_⟩
  · intro id hid
    exact (PayloadLedger.of_discardAll hid).1
  · intro id hid
    rw [(PayloadLedger.of_discardAll hid).2]
    rfl

/-- One reference less, in the ledger and in the journal. -/
theorem giveBack (w : World (PayloadLedger × τ)) (id : PayloadId) :
    Even w { w.note (.released id) with
      outside := (w.outside.1.release id, w.outside.2) } := by
  have hflow := w.inflow_spent (m := .released id) fun _ => rfl
  refine ⟨rfl, ?_, ?_, ?_⟩
  · intro k
    change (w.note (.released id)).inflow k ≤ _
    rw [hflow]
    split <;> omega
  · intro k hk
    rwa [PayloadLedger.bytes?_release] at hk
  · intro k hk
    rw [PayloadLedger.bytes?_release] at hk
    change (w.outside.1.release id).references k - (w.note (.released id)).inflow k = _
    rw [hflow, PayloadLedger.references_release]
    by_cases hid : k = id
    · subst hid
      simp only [hk, and_self, if_true]
      omega
    · simp [hid]

/-- A will is dropped without a reference given back when its payload is gone. -/
theorem drop (w : World (PayloadLedger × τ)) (id : PayloadId)
    (hgone : w.outside.1.bytes? id = none) : Even w (w.note (.dangled id)) := by
  have hflow := w.inflow_spent (m := .dangled id) fun _ => rfl
  refine ⟨rfl, ?_, fun _ hk => hk, ?_⟩
  · intro k
    rw [hflow]
    split <;> omega
  · intro k hk
    have hne : k ≠ id := by
      rintro rfl
      change (w.outside.1.bytes? k).isSome = true at hk
      rw [hgone] at hk
      cases hk
    rw [hflow, if_neg hne, sub_zero]
    rfl

end Even

section

open Operation

variable {lost : PayloadLedger × τ → List PayloadId}
  {announce : Timestamp → ClientId → Dialogue (PayloadLedger × τ) Unit} {now : τ → Timestamp}
  {serve : Server (PayloadLedger × τ)} {w w' : World (PayloadLedger × τ)}

/-- The ledger takes a reference back, and the journal says so. -/
theorem release_even {s : Session} {u : Unit}
    (h : (release (.ledgered lost announce now) serve s).run w = some (u, w')) : Even w w' := by
  unfold release at h
  split at h
  · rename_i id _
    simp only [Act.bind_some, Act.modify_some] at h
    obtain ⟨_, _, rfl, h⟩ := h
    obtain ⟨_, rfl⟩ := Prod.mk.inj (Option.some.inj h)
    exact (Even.lose w (lost w.outside)).trans (Even.giveBack _ id)
  · obtain ⟨_, rfl⟩ := Act.pure_some.1 h
    exact Even.refl w

/-- The ledger hands out what it still has. -/
theorem fetch_ledgered {id : PayloadId} {bytes : Option Bytes}
    (h : (fetch (.ledgered lost announce now) serve id).run w = some (bytes, w')) :
    bytes = w'.outside.1.bytes? id ∧ Even w w' := by
  simp only [fetch, Act.bind_some, Act.modify_some] at h
  obtain ⟨_, _, rfl, h⟩ := h
  obtain ⟨rfl, rfl⟩ := Prod.mk.inj (Option.some.inj h)
  refine ⟨rfl, ?_⟩
  exact (Even.note w (m := .fetched id) fun _ => rfl).trans (Even.lose _ (lost w.outside))

theorem attachPayload_even {s s' : Session}
    (h : (attachPayload (.ledgered lost announce now) serve s).run w = some (s', w')) :
    Even w w' := by
  obtain ⟨⟨_, whole⟩, hr, rfl⟩ := Act.bind_pure_some.1 h
  rcases resolve_some hr with ⟨_, _, rfl⟩ | ⟨id, bytes, _, hf, _⟩
  · exact Even.refl w'
  · exact (fetch_ledgered hf).2

theorem willOrNone_even {s kept : Session} {sendWill : Bool}
    (h : (willOrNone (.ledgered lost announce now) serve s sendWill).run w = some (kept, w')) :
    Even w w' := by
  cases sendWill with
  | true =>
    obtain ⟨_, rfl⟩ := Act.pure_some.1 h
    exact Even.refl w
  | false =>
    simp only [willOrNone, Act.bind_some, Act.pure_some] at h
    obtain ⟨_, w₁, hr, _, rfl⟩ := h
    exact release_even hr

/-- A will is dropped without a reference given back only if its payload is gone. -/
theorem dropDangling_even {s away : Session}
    (h : (dropDangling (.ledgered lost announce now) serve s).run w = some (away, w')) :
    Even w w' := by
  simp only [dropDangling, Act.bind_some, Act.pure_some] at h
  obtain ⟨⟨kept, whole⟩, w₁, hr, _, _, hn, _, rfl⟩ := h
  rcases resolve_some hr with ⟨_, rfl, rfl⟩ | ⟨id, bytes, hid, hf, hfound, hgone⟩
  · obtain ⟨_, rfl⟩ := Act.pure_some.1 hn
    exact Even.refl w₁
  · obtain ⟨hbytes, heven⟩ := fetch_ledgered hf
    cases bytes with
    | some b =>
      obtain ⟨_, rfl⟩ := hfound b rfl
      obtain ⟨_, rfl⟩ := Act.pure_some.1 hn
      exact heven
    | none =>
      obtain ⟨_, rfl⟩ := hgone rfl
      rw [noteDangling, Act.modify_some, payloadId?_of_awaited? hid] at hn
      subst hn
      exact heven.trans (Even.drop w₁ id hbytes.symm)

theorem dismissals_even {bucket : Nat} {l : List (ClientId × Record)} {u : Unit}
    (h : (l.forM fun (client, r) =>
      dismiss (.ledgered lost announce now) serve bucket client r).run w = some (u, w')) :
    Even w w' := by
  induction l generalizing w with
  | nil =>
    obtain ⟨_, rfl⟩ := Act.pure_some.1 h
    exact Even.refl w
  | cons x rest ih =>
    obtain ⟨w₁, h₁, h₂⟩ := forM_cons_some.1 h
    obtain ⟨w₂, hg, rfl⟩ := dismiss_some h₁
    have hback : Even w w₂ := (Even.recount w _ _).trans (release_even hg)
    have hout : Even w₂ (((w₂.lowerMemory x.2.weight).erase bucket x.1).note
        (.forgotten bucket x.1 x.2)) :=
      ((Even.lowerMemory w₂ _).trans (Even.store _ _)).trans
        (Even.note _ fun _ => by simp [Prices.ofMark, Prices.onlyWill])
    exact (hback.trans hout).trans (ih h₂)

/-- Every request but a purge is done with its collaborators before it ends, and nobody else
has talked to the store meanwhile. -/
theorem course_even {q : Request} {reply : q.Reply}
    (h : Course (.ledgered lost announce now) serve q w reply w')
    (hq : ∀ bucket, q ≠ .purge bucket) : Even w w' := by
  cases h with
  | turnedAway => exact Even.refl w
  | @putNew client session stamp bucket =>
    exact ((Even.enter w _).trans (.recount _ _ _)).trans ((Even.keep _ _ _ _).trans (.leave _ _))
  | @putOver client session stamp bucket old _ w₁ door known given =>
    exact ((Even.enter w _).trans (.lowerMemory _ _)).trans ((release_even given).trans
      ((Even.recount _ _ _).trans ((Even.keep _ _ _ _).trans (.leave _ _))))
  | @strangerLeft client stamp sendWill bucket expiry =>
    exact ((Even.enter w _).trans (.recount _ _ _)).trans ((Even.keep _ _ _ _).trans (.leave _ _))
  | @clientLeft client stamp sendWill bucket expiry old kept away _ _ w₁ w₂ w₃ door known will
      checked resolved =>
    have hout := ((Even.enter w _).trans (.lowerMemory _ _)).trans
      ((willOrNone_even will).trans (dropDangling_even checked))
    have hkept := ((Even.recount w₂ _ _).trans (.keep _ _ _ _)).trans (attachPayload_even resolved)
    exact hout.trans (hkept.trans (.leave _ _))
  | @removedNone client bucket => exact (Even.enter w _).trans (.leave _ _)
  | @removed client bucket old _ w₁ door known given =>
    have hout := ((Even.enter w _).trans (.store _ _)).trans
      ((Even.recount _ _ _).trans (release_even given))
    have hnote := Even.note (w₁.lowerMemory old.weight) (m := .forgotten bucket client old)
      fun _ => by simp [Prices.ofMark, Prices.onlyWill]
    exact (hout.trans (.lowerMemory _ _)).trans (hnote.trans (.leave _ _))
  | @purged bucket => exact absurd rfl (hq bucket)
  | @noSession client expiry bucket => exact (Even.enter w _).trans (.leave _ _)
  | @expirySet client expiry bucket old =>
    exact ((Even.enter w _).trans (.recount _ _ _)).trans
      ((Even.lowerMemory _ _).trans ((Even.keep _ _ _ _).trans (.leave _ _)))
  | @willStays client bucket => exact (Even.enter w _).trans (.leave _ _)
  | @willCancelled client bucket old _ w₁ door known away given =>
    exact ((Even.enter w _).trans (.lowerMemory _ _)).trans ((release_even given).trans
      ((Even.keep _ _ _ _).trans (.leave _ _)))
  | notFound => exact Even.refl w
  | foundBare => exact Even.refl w
  | foundWhole _ _ _ resolved => exact attachPayload_even resolved

end

/-! ## Every request keeps references and records matched -/

theorem ofMark_answered (id : PayloadId) (q : Request) (refusal : Option Refusal) :
    (Prices.onlyWill id).ofMark (.answered q refusal) =
      if q.brought refusal = some id then 1 else 0 := by
  cases q with
  | put =>
    cases refusal with
    | none => exact ofWill_onlyWill id _
    | some => rfl
  | _ => rfl

/-- What came in with an answer was due before. -/
theorem Matched.of_even {due : Option PayloadId} {w w' : World (PayloadLedger × τ)}
    (h : Matched due w.outside.1 w.store) (he : Even w w')
    (hbal : ∀ id, w'.balance (Prices.onlyWill id) + (if due = some id then 1 else 0) =
      w.balance (Prices.onlyWill id)) : Matched none w'.outside.1 w'.store := by
  refine ⟨?_, ?_, ?_, nofun⟩
  · intro id hid
    have hold := h.counts id (he.there id hid)
    have hcounts := he.counts id hid
    have hb := hbal id
    rw [World.inflow_eq, World.inflow_eq] at hcounts
    rw [if_neg nofun]
    omega
  · intro id hid
    rw [he.issued]
    exact h.there id (he.there id hid)
  · intro id hid
    rw [he.issued]
    have hflow := he.inflow id
    have hb := hbal id
    rw [World.inflow_eq, World.inflow_eq] at hflow
    by_cases hdue : due = some id
    · exact h.due id hdue
    · rw [if_neg hdue] at hb
      exact h.held id (by omega)

/-- A server that keeps references and records matched, if what its answers bring in was due. -/
def Server.Matches (serve : Server (PayloadLedger × τ)) : Prop :=
  ∀ (q : Request) (w : World (PayloadLedger × τ)) (reply : q.Reply)
    (w' : World (PayloadLedger × τ)), (serve q).run w = some (reply, w') →
      Matched (q.brought (refusalOf reply)) w.outside.1 w.store →
        Matched none w'.outside.1 w'.store

/-- A whole conversation that pairs references with puts keeps them matched. -/
theorem Dialogue.run_matched {α : Type} {serve : Server (PayloadLedger × τ)} (hs : serve.Matches)
    (d : Dialogue (PayloadLedger × τ) α) {due : Option PayloadId} {a : α}
    {w w' : World (PayloadLedger × τ)} (hd : d.Paired serve due w)
    (hw : Matched due w.outside.1 w.store) (h : (d.run serve).run w = some (a, w')) :
    Matched none w'.outside.1 w'.store := by
  induction d generalizing due w with
  | done value =>
    obtain ⟨_, rfl⟩ := Act.pure_some.1 h
    cases hd
    exact hw
  | look next ih =>
    simp only [Dialogue.run, Act.bind_some, Act.get_some] at h
    obtain ⟨_, _, ⟨rfl, rfl⟩, h⟩ := h
    exact ih _ _ hd hw h
  | keep own next ih =>
    simp only [Dialogue.run, Act.bind_some, Act.modify_some] at h
    obtain ⟨_, _, rfl, h⟩ := h
    obtain ⟨due', he, hnext⟩ := hd
    exact ih hnext (hw.exchange he) h
  | ask q next ih =>
    simp only [Dialogue.run, Act.bind_some] at h
    obtain ⟨reply, w₁, hq, h⟩ := h
    obtain ⟨rfl, hnext⟩ := hd reply w₁ hq
    exact ih reply hnext (hs q w reply w₁ hq hw) h

section

open Operation

variable {lost : PayloadLedger × τ → List PayloadId}
  {announce : Timestamp → ClientId → Dialogue (PayloadLedger × τ) Unit} {now : τ → Timestamp}
  {serve : Server (PayloadLedger × τ)}

theorem announcements_matched (hs : serve.Matches)
    (orderly : ∀ instant client w, (announce instant client).Paired serve none w)
    {l : List (ClientId × Record)} {u : Unit} {w w' : World (PayloadLedger × τ)}
    (hw : Matched none w.outside.1 w.store)
    (h : (l.forM fun (client, r) => Operation.announce (.ledgered lost announce now) serve
      (r.object.expiresAt r.stamp) client).run w = some (u, w')) :
    Matched none w'.outside.1 w'.store := by
  induction l generalizing w with
  | nil =>
    obtain ⟨_, rfl⟩ := Act.pure_some.1 h
    exact hw
  | cons x rest ih =>
    obtain ⟨w₁, h₁, h₂⟩ := forM_cons_some.1 h
    simp only [Operation.announce, Act.bind_some, Act.modify_some] at h₁
    obtain ⟨_, _, rfl, h₁⟩ := h₁
    have htold : Matched none w₁.outside.1 w₁.store :=
      Dialogue.run_matched hs _ (orderly _ _ (w.note _)) hw h₁
    exact ih htold h₂

theorem course_matched (hs : serve.Matches) (hset : ∀ p, serve.Keeps (Settled p))
    (orderly : ∀ instant client w, (announce instant client).Paired serve none w)
    {q : Request} {reply : q.Reply} {w w' : World (PayloadLedger × τ)}
    (hw : Matched (q.brought (refusalOf reply)) w.outside.1 w.store)
    (h : Course (.ledgered lost announce now) serve q w reply w') :
    Matched none w'.outside.1 w'.store := by
  by_cases hq : ∀ bucket, q ≠ .purge bucket
  · apply hw.of_even (course_even h hq)
    intro id
    rw [← ofMark_answered]
    exact course_balance (hset _) h
  · obtain ⟨bucket, rfl⟩ : ∃ bucket, q = .purge bucket := by simpa using hq
    cases h with
    | turnedAway => exact hw
    | @purged _ expired _ w₁ w₂ door ended dismissed announced =>
      have hlt : bucket < w.store.bucketCount := (Store.open_of_objection rfl door).1
      have hgone : Matched none w₁.outside.1 w₁.store := by
        apply hw.of_even ((Even.enter w bucket).trans (dismissals_even dismissed))
        intro id
        rw [dismissals_balance (hset _) hlt ended dismissed]
        exact add_zero _
      have htold : Matched none w₂.outside.1 w₂.store :=
        announcements_matched hs orderly hgone announced
      exact htold.of_buckets rfl

theorem attend_matched (hs : serve.Matches) (hset : ∀ p, serve.Keeps (Settled p))
    (orderly : ∀ instant client w, (announce instant client).Paired serve none w) :
    (attend (.ledgered lost announce now) serve).Matches := by
  intro q w reply w' h hw
  obtain ⟨w₁, hc, rfl⟩ := attend_course h
  have hcalled : Matched (q.brought (refusalOf reply)) (w.note (.called q)).outside.1
      (w.note (.called q)).store := hw
  have hdone : Matched none w₁.outside.1 w₁.store := course_matched hs hset orderly hcalled hc
  exact hdone

theorem perform_matched
    (orderly : ∀ depth instant client w,
      (announce instant client).Paired (perform (.ledgered lost announce now) depth) none w)
    (depth : Nat) : (perform (.ledgered lost announce now) depth).Matches := by
  induction depth with
  | zero =>
    intro q w reply w' h
    cases h
  | succ depth ih =>
    exact attend_matched ih (fun p => perform_settled p _ depth) (orderly depth)

end

/-! ## The references of every run -/

theorem PairedRun.matched {lost : PayloadLedger × τ → List PayloadId}
    {announce : Timestamp → ClientId → Dialogue (PayloadLedger × τ) Unit}
    {now : τ → Timestamp}
    (orderly : ∀ depth instant client w,
      (announce instant client).Paired (perform (.ledgered lost announce now) depth) none w)
    {due : Option PayloadId} {w : World (PayloadLedger × τ)}
    (h : PairedRun (.ledgered lost announce now) due w) : Matched due w.outside.1 w.store := by
  induction h with
  | start own h => exact Matched.start h
  | outside before h ih => exact ih.exchange h
  | asked before h ih => exact perform_matched orderly _ _ _ _ _ h ih

namespace PayloadLedger

/-- A payload that is not there has no references. -/
theorem references_of_none {l : PayloadLedger} {id : PayloadId} (h : l.bytes? id = none) :
    l.references id = 0 := by
  unfold bytes? at h
  unfold references
  rw [Option.map_eq_none_iff.1 h]
  rfl

theorem outstanding_eq_sum (l : PayloadLedger) :
    l.outstanding = (l.payloads.toList.map fun x => x.2.references).sum := by
  rw [List.sum_eq_foldl, List.foldl_map]
  rfl

theorem outstanding_eq_zero {l : PayloadLedger} (h : ∀ id, l.references id = 0) :
    l.outstanding = 0 := by
  rw [outstanding_eq_sum]
  apply List.sum_eq_zero
  intro n hn
  obtain ⟨⟨id, p⟩, hp, rfl⟩ := List.mem_map.1 hn
  have hget : l.payloads[id]? = some p := Std.ExtTreeMap.mem_toList_iff_getElem?_eq_some.1 hp
  have hzero := h id
  unfold references at hzero
  rw [hget] at hzero
  exact hzero

end PayloadLedger

/-- No count is ever negative. After every step but one that takes a reference, each payload
that is there has just as many references as there are records whose will names it, and
nothing is left over when all records are gone. -/
theorem references_match {lost : PayloadLedger × τ → List PayloadId}
    {announce : Timestamp → ClientId → Dialogue (PayloadLedger × τ) Unit}
    {now : τ → Timestamp}
    (orderly : ∀ depth instant client w,
      (announce instant client).Paired (perform (.ledgered lost announce now) depth) none w)
    {due : Option PayloadId} {w : World (PayloadLedger × τ)}
    (h : PairedRun (.ledgered lost announce now) due w) :
    (∀ id, 0 ≤ w.outside.1.references id) ∧
      (due = none →
        (∀ id, (w.outside.1.bytes? id).isSome = true →
          w.outside.1.references id = w.store.holders id) ∧
        (w.store.records = [] → w.outside.1.outstanding = 0)) := by
  have hcount := (h.matched orderly).counts
  have hnone : ∀ id, (w.outside.1.bytes? id).isSome = false → w.outside.1.references id = 0 := by
    intro id hid
    exact PayloadLedger.references_of_none (by simpa using hid)
  constructor
  · intro id
    cases hb : (w.outside.1.bytes? id).isSome with
    | false => rw [hnone id hb]
    | true =>
      rw [hcount id hb]
      split <;> omega
  · rintro rfl
    have hexact : ∀ id, (w.outside.1.bytes? id).isSome = true →
        w.outside.1.references id = w.store.holders id := by
      intro id hid
      rw [hcount id hid, if_neg nofun, add_zero]
    refine ⟨hexact, ?_⟩
    intro hempty
    apply PayloadLedger.outstanding_eq_zero
    intro id
    cases hb : (w.outside.1.bytes? id).isSome with
    | false => exact hnone id hb
    | true =>
      rw [hexact id hb]
      unfold Store.holders
      rw [hempty]
      rfl

/-! ## A run to look at -/

/-- One step of a run: a payload is taken in, a reference is taken, the time is another one, or
something is asked. -/
inductive Stride where
  | add (bytes : Bytes)
  | retain (id : PayloadId)
  | wait (now : Timestamp)
  | ask (q : Request)

/-- What is due after a step, and the world then, if this is a step of a paired run. -/
def Stride.next (env : Collaborators (PayloadLedger × Timestamp)) (depth : Nat)
    (x : Option PayloadId × World (PayloadLedger × Timestamp)) :
    Stride → Option (Option PayloadId × World (PayloadLedger × Timestamp))
  | add bytes =>
    let (id, l) := x.2.outside.1.add bytes
    if x.1 = none ∧ x.2.outside.1.issued < id then
      some (some id, { x.2 with outside := (l, x.2.outside.2) })
    else none
  | retain id =>
    if x.1 = none ∧ (x.2.outside.1.bytes? id).isSome = true then
      some (some id, { x.2 with outside := (x.2.outside.1.retain id, x.2.outside.2) })
    else none
  | wait now => some (x.1, { x.2 with outside := (x.2.outside.1, now) })
  | ask q => do
    let (reply, w) ← (perform env depth q).run x.2
    if x.1 = q.brought (refusalOf reply) then some (none, w) else none

section

variable {env : Collaborators (PayloadLedger × Timestamp)} {depth : Nat}
  {x x' : Option PayloadId × World (PayloadLedger × Timestamp)}

theorem PairedRun.stride (h : PairedRun env x.1 x.2) {m : Stride}
    (hm : m.next env depth x = some x') : PairedRun env x'.1 x'.2 := by
  obtain ⟨due, w⟩ := x
  cases m with
  | add bytes =>
    simp only [Stride.next] at hm
    split_ifs at hm with hnew
    obtain ⟨rfl, hnew⟩ := hnew
    cases hm
    exact .outside h (.add bytes hnew)
  | retain id =>
    simp only [Stride.next] at hm
    split_ifs at hm with hthere
    obtain ⟨rfl, hthere⟩ := hthere
    cases hm
    exact .outside h (.retain hthere)
  | wait now =>
    cases hm
    exact .outside h .idle
  | ask q =>
    obtain ⟨⟨reply, v⟩, hrun, hm⟩ := Option.bind_eq_some_iff.1 hm
    dsimp only at hm h hrun
    split_ifs at hm with hdue
    cases hm
    rw [hdue] at h
    exact .asked h hrun

theorem PairedRun.strides (h : PairedRun env x.1 x.2) {l : List Stride}
    (hl : l.foldlM (Stride.next env depth) x = some x') : PairedRun env x'.1 x'.2 := by
  induction l generalizing x with
  | nil =>
    cases hl
    exact h
  | cons m rest ih =>
    rw [List.foldlM_cons] at hl
    obtain ⟨y, hy, hrest⟩ := Option.bind_eq_some_iff.1 hl
    exact ih (h.stride hy) hrest

end

/-- A payload is lost as soon as a later one was taken in. -/
def careless (own : PayloadLedger × Timestamp) : List PayloadId := [own.1.issued - 1]

/-- An event log that forgets a client each time that it is told of another one. -/
def forgetful : Timestamp → ClientId → Dialogue (PayloadLedger × Timestamp) Unit := fun _ _ => do
  let _ ← Dialogue.request (.remove "b" 1)

/-- Four clients come to two buckets, each right after a reference was taken. The first two name
the same payload. -/
def arrivals : List Stride :=
  let will (id : PayloadId) : Option Will :=
    some { publication := { topic := "" }, payloadId := id }
  [ .add [1], .ask (.put "a" { connected := true, expiry := 60, will := will 1 } ⟨1000⟩ 0),
    .retain 1, .ask (.put "b" { connected := false, expiry := 1, will := will 1 } ⟨1000⟩ 1),
    .add [2], .ask (.put "c" { connected := false, expiry := 2, will := will 2 } ⟨1000⟩ 0),
    .add [3], .ask (.put "d" { connected := true, expiry := 60, will := will 3 } ⟨1000⟩ 1) ]

/-- When two of the sessions are over, both buckets are purged. -/
def clearing : List Stride :=
  [ .wait ⟨9000⟩, .ask (.purge 0), .ask (.purge 1) ]

/-- Two records share a payload until the buckets are cleared. Then one of them is gone, and the
event log has seen to that while it heard of another client. The payload of the latter is lost,
and all counts are right. -/
theorem references_match_clearing :
    ∃ w w', PairedRun (.ledgered careless forgetful id) none w ∧
      PairedRun (.ledgered careless forgetful id) none w' ∧
      w.store.records.length = 4 ∧ w.outside.1.references 1 = 2 ∧
      w'.store.records.length = 2 ∧ w'.outside.1.references 1 = 1 ∧
      w'.outside.1.bytes? 2 = none ∧ w'.outside.1.references 3 = 1 ∧
      (∀ id, 0 ≤ w'.outside.1.references id) ∧
      (∀ id, (w.outside.1.bytes? id).isSome = true →
        w.outside.1.references id = w.store.holders id) ∧
      (∀ id, (w'.outside.1.bytes? id).isSome = true →
        w'.outside.1.references id = w'.store.holders id) ∧
      (w'.store.records = [] → w'.outside.1.outstanding = 0) := by
  have orderly : ∀ depth instant client w,
      (forgetful instant client).Paired (perform (.ledgered careless forgetful id) depth) none w :=
    fun depth instant client w reply w' _ => ⟨rfl, rfl⟩
  let empty : World (PayloadLedger × Timestamp) :=
    { store := { defaultExpiry := 9, buckets := Array.replicate 2 ∅ }, outside := ({}, ⟨0⟩) }
  have hend : (arrivals.foldlM (Stride.next (.ledgered careless forgetful id) 2)
      (none, empty)).bind (fun (due, w) =>
        (clearing.foldlM (Stride.next (.ledgered careless forgetful id) 2) (due, w)).map
          fun (due', w') => ([due, due'], [w.store.records.length, w'.store.records.length],
            [w.outside.1.references 1, w'.outside.1.references 1, w'.outside.1.references 3],
            w'.outside.1.bytes? 2)) =
      some ([none, none], [4, 2], [2, 1, 1], none) := by
    decide +kernel
  obtain ⟨⟨due, w⟩, hcame, hend⟩ := Option.bind_eq_some_iff.1 hend
  obtain ⟨⟨due', w'⟩, hcleared, hfacts⟩ := Option.map_eq_some_iff.1 hend
  simp only [Prod.mk.injEq, List.cons.injEq, and_true] at hfacts
  obtain ⟨⟨rfl, rfl⟩, ⟨hfour, hleft⟩, ⟨htwo, hone, hother⟩, hlost⟩ := hfacts
  have hempty : PairedRun (.ledgered careless forgetful id) none empty :=
    .start (⟨0⟩ : Timestamp) (c := { bucketCount := 2, defaultExpiry := 9 }) rfl
  have hfull : PairedRun (.ledgered careless forgetful id) none w := hempty.strides hcame
  have hrest : PairedRun (.ledgered careless forgetful id) none w' := hfull.strides hcleared
  obtain ⟨hnonneg, hexact⟩ := references_match orderly hrest
  exact ⟨w, w', hfull, hrest, hfour, htwo, hleft, hone, hlost, hother, hnonneg,
    ((references_match orderly hfull).2 rfl).1, hexact rfl⟩

end BrokerSessions
