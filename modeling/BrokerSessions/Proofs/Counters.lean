-- The counters of a store tell the truth. Between two requests they agree with a look
-- at every record, and at no moment is one of them lowered by more than it shows, even
-- while others talk to the store in the middle of a request. The invariant is `Sound`.
-- What a gauge should show covers all records, but for those in buckets that are being
-- written: there the work is half done, and each step says what it has earmarked.
import BrokerSessions.Proofs.Runs

namespace BrokerSessions

variable {σ : Type}

/-! ## Sizes -/

/-- What a record takes by a fresh look at its session, as an exact number. -/
def Entry.size (r : Record) : Nat := Entry.overhead + footprint r.object

/-- The weight that a record remembers is the one that its session has now. -/
def Entry.Honest (r : Record) : Prop := r.weight = Entry.weightFor (footprint r.object)

theorem Session.honest_keptAt (s : Session) (stamp : Timestamp) : (s.keptAt stamp).Honest := rfl

theorem Entry.Honest.weight_le {r : Record} (h : r.Honest) : r.weight.toNat ≤ r.size := by
  have hw : r.weight.toNat = r.size % 18446744073709551616 := by
    rw [h]
    exact UInt64.toNat_ofNat'
  rw [hw]
  exact Nat.mod_le _ _

theorem Entry.size_pos (r : Record) : 0 < r.size := by
  unfold Entry.size Entry.overhead Footprint.shell
  omega

/-! ## What the gauges should show -/

namespace Gauge

def read : Gauge → Store → UInt64
  | sessions, s => s.sessions
  | memory, s => s.memory

/-- The prices by which the records are worth what a gauge should show. -/
def price : Gauge → Prices
  | sessions => { live := 1 }
  | memory => { byte := 1 }

/-- The prices by which the records are worth what they take beyond what a gauge
should show. -/
def spare : Gauge → Prices
  | sessions => { live := -1, record := fun r => r.size }
  | memory => { byte := -1, record := fun r => r.size }

end Gauge

/-- All that a gauge went up by, less all that it went down by. -/
def tally (g : Gauge) (journal : List Mark) : ℤ := g.price.ofJournal journal

/-- The size of all records that are stored, and of those that are being taken out. -/
def load (journal : List Mark) : ℤ := Prices.ofJournal { record := fun r => r.size } journal

theorem ofMark_spare (g : Gauge) (m : Mark) :
    g.spare.ofMark m = Prices.ofMark { record := fun r => r.size } m - g.price.ofMark m := by
  cases m with
  | raised gauge level n =>
    cases gauge <;> cases g <;> simp [Gauge.spare, Gauge.price, Prices.ofMark]
  | lowered gauge level n =>
    cases gauge <;> cases g <;> simp [Gauge.spare, Gauge.price, Prices.ofMark]
  | filed bucket client displaced fresh =>
    cases displaced <;> cases g <;>
      simp [Gauge.spare, Gauge.price, Prices.ofMark, Prices.ofDisplaced]
  | forgotten bucket client r => cases g <;> simp [Gauge.spare, Gauge.price, Prices.ofMark]
  | answered q refusal =>
    cases q <;> cases refusal <;> cases g <;>
      simp [Gauge.spare, Gauge.price, Prices.ofMark, Prices.ofWill] <;> split <;> rfl
  | _ => cases g <;> simp [Gauge.spare, Gauge.price, Prices.ofMark]

theorem ofJournal_spare (g : Gauge) (journal : List Mark) :
    g.spare.ofJournal journal = load journal - tally g journal := by
  unfold load tally Prices.ofJournal
  induction journal with
  | nil => rfl
  | cons m rest ih =>
    rw [List.map_cons, List.map_cons, List.map_cons, List.sum_cons, List.sum_cons, List.sum_cons,
      ih, ofMark_spare]
    omega

/-! ## Fair prices -/

/-- Prices that leave every record worth no less than nothing, even when its weight or
its place among the live sessions is paid out already. -/
structure Prices.Fair (p : Prices) : Prop where
  will : ∀ id?, p.ofWill id? = 0
  heavy : ∀ r : Record, r.Honest → 0 ≤ p.byte * r.weight.toNat + p.record r
  lively : ∀ r : Record, r.Honest → 0 ≤ p.ofLive r.object.isLive + p.record r
  whole : ∀ r : Record, r.Honest →
    0 ≤ p.byte * r.weight.toNat + p.ofLive r.object.isLive + p.record r

theorem Prices.Fair.ofRecord {p : Prices} (hp : p.Fair) (r : Record) :
    p.ofRecord r = p.byte * r.weight.toNat + p.ofLive r.object.isLive + p.record r := by
  unfold Prices.ofRecord
  rw [hp.will, add_zero]

theorem Prices.Fair.ofRecord_nonneg {p : Prices} (hp : p.Fair) {r : Record} (hr : r.Honest) :
    0 ≤ p.ofRecord r := by
  rw [hp.ofRecord]
  exact hp.whole r hr

theorem Prices.Fair.ofMark_answered {p : Prices} (hp : p.Fair) (q : Request)
    (refusal : Option Refusal) : p.ofMark (.answered q refusal) = 0 := by
  cases q with
  | put =>
    cases refusal with
    | none => exact hp.will _
    | some => rfl
  | _ => rfl

theorem Gauge.fair_price (g : Gauge) : g.price.Fair := by
  constructor
  · intro id?
    cases g <;> cases id? <;> rfl
  all_goals
    intro r hr
    cases g <;> cases hl : r.object.isLive <;> simp [Gauge.price, Prices.ofLive]

theorem Gauge.fair_spare (g : Gauge) : g.spare.Fair := by
  constructor
  · intro id?
    cases g <;> cases id? <;> rfl
  all_goals
    intro r hr
    have hw := hr.weight_le
    have hs := r.size_pos
    cases g <;> cases hl : r.object.isLive <;> simp [Gauge.spare, Prices.ofLive] <;> omega

/-! ## The invariant -/

/-- A gauge went up or down. -/
def Mark.movesGauge : Mark → Bool
  | .raised .. | .lowered .. => true
  | _ => false

/-- Whenever a gauge was lowered, it showed what it should, which was no less than the
amount and no more than all records took. -/
def Backed (journal : List Mark) : Prop :=
  ∀ (g : Gauge) (level amount : Nat) (before : List Mark),
    .lowered g level amount :: before <:+ journal →
      amount ≤ tally g before ∧ tally g before ≤ load before ∧ level = tally g before % 2 ^ 64

/-- What the journal has beyond the records of the buckets that nobody is writing. -/
def World.slack (w : World σ) (p : Prices) : ℤ :=
  w.balance p + w.store.total fun i r => if i ∈ w.store.writing then p.ofRecord r else 0

/-- What the records of one bucket are worth. -/
def Store.held (s : Store) (bucket : Nat) (p : Prices) : ℤ :=
  s.total fun i r => if i = bucket then p.ofRecord r else 0

/-- Remembered weights are right, each gauge shows what it should, every step down was
backed, and by any fair prices the amount `earmarked` is there. -/
structure Sound (earmarked : Prices → ℤ) (w : World σ) : Prop where
  honest : ∀ i c r, w.store.record? i c = some r → r.Honest
  shows : ∀ g, (g.read w.store).toNat = tally g w.journal % 2 ^ 64
  backed : Backed w.journal
  covered : ∀ p : Prices, p.Fair → earmarked p ≤ w.slack p

theorem Backed.cons {journal : List Mark} {m : Mark} (h : Backed journal)
    (hm : ∀ g level amount, m = .lowered g level amount →
      amount ≤ tally g journal ∧ tally g journal ≤ load journal ∧
        level = tally g journal % 2 ^ 64) : Backed (m :: journal) := by
  intro g level amount before hsuf
  rcases List.suffix_cons_iff.1 hsuf with heq | hsuf
  · obtain ⟨rfl, rfl⟩ := List.cons.inj heq
    exact hm g level amount rfl
  · exact h g level amount before hsuf

theorem Backed.raised {journal : List Mark} (h : Backed journal) (g : Gauge) (level amount : Nat) :
    Backed (.raised g level amount :: journal) :=
  h.cons nofun

theorem tally_cons (g : Gauge) (m : Mark) (journal : List Mark) :
    tally g (m :: journal) = tally g journal + g.price.ofMark m := by
  unfold tally Prices.ofJournal
  rw [List.map_cons, List.sum_cons, add_comm]

theorem slack_eq_of_settled {p : Prices} {w w' : World σ} (h : Settled p w w') :
    w'.slack p = w.slack p := by
  unfold World.slack
  rw [h.2, h.1.writing,
    Store.total_eq_of_agree (fun i => i ∈ w.store.writing) p.ofRecord h.1.held]

namespace Sound

variable {e e' : Prices → ℤ} {w w' : World σ}

theorem mono (h : Sound e w) (he : ∀ p : Prices, p.Fair → e' p ≤ e p) : Sound e' w :=
  ⟨h.honest, h.shows, h.backed, fun p hp => (he p hp).trans (h.covered p hp)⟩

/-- What is earmarked is in the journal. -/
theorem le_journal (h : Sound e w) {p : Prices} (hp : p.Fair) : e p ≤ p.ofJournal w.journal := by
  have hall : (w.store.total fun i r => if i ∈ w.store.writing then p.ofRecord r else 0) ≤
      w.store.total fun _ r => p.ofRecord r := by
    apply Store.total_le
    intro i c r hr
    split
    · exact le_refl _
    · exact hp.ofRecord_nonneg (h.honest i c r hr)
  have hcov := h.covered p hp
  unfold World.slack World.balance Prices.ofStore at hcov
  omega

/-- A gauge that is lowered by no more than what is earmarked for it is backed. -/
theorem backing (h : Sound e w) {g : Gauge} {n : Nat} (hn : n ≤ e g.price)
    (hspare : 0 ≤ e g.spare) :
    n ≤ tally g w.journal ∧ tally g w.journal ≤ load w.journal ∧
      (g.read w.store).toNat = tally g w.journal % 2 ^ 64 := by
  have hprice : e g.price ≤ tally g w.journal := h.le_journal g.fair_price
  have hload : e g.spare ≤ g.spare.ofJournal w.journal := h.le_journal g.fair_spare
  rw [ofJournal_spare] at hload
  exact ⟨by omega, by omega, h.shows g⟩

/-! ### Steps that leave the gauges alone -/

/-- A mark that is not about a gauge. -/
theorem note (h : Sound e w) (m : Mark) (hm : m.movesGauge = false) :
    Sound (fun p => e p + p.ofMark m) (w.note m) where
  honest := h.honest
  shows g := by
    have hzero : g.price.ofMark m = 0 := by
      cases m with
      | raised g level amount => cases hm
      | lowered g level amount => cases hm
      | filed bucket client displaced fresh => cases displaced <;> cases g <;> rfl
      | answered q refusal => exact g.fair_price.ofMark_answered q refusal
      | released id => exact (neg_eq_zero.2 (g.fair_price.will (some id)))
      | dangled id => exact (neg_eq_zero.2 (g.fair_price.will (some id)))
      | _ => cases g <;> rfl
    rw [World.journal_note, tally_cons, hzero, add_zero]
    exact h.shows g
  backed := by
    apply h.backed.cons
    rintro g level amount rfl
    cases hm
  covered p hp := by
    have hcov := h.covered p hp
    unfold World.slack at hcov ⊢
    rw [balance_note, World.store_note]
    omega

/-- A mark that is worth nothing. -/
theorem pass (h : Sound e w) (m : Mark) (hm : m.movesGauge = false)
    (hzero : ∀ p : Prices, p.Fair → p.ofMark m = 0) : Sound e (w.note m) := by
  apply (h.note m hm).mono
  intro p hp
  rw [hzero p hp, add_zero]

theorem givenBack (h : Sound e w) (id? : Option PayloadId) : Sound e (w.givenBack id?) := by
  cases id? with
  | some id =>
    exact h.pass (.released id) rfl (fun p hp => neg_eq_zero.2 (hp.will (some id)))
  | none => exact h

/-- A writer adds the records of its bucket to what is covered. -/
theorem enter (h : Sound e w) {bucket : Nat} (hb : bucket ∉ w.store.writing) :
    Sound (fun p => e p + w.store.held bucket p) (w.enter bucket) where
  honest := h.honest
  shows g := by
    have hs := (h.note (.opened bucket) rfl).shows g
    cases g <;> exact hs
  backed := (h.note (.opened bucket) rfl).backed
  covered p hp := by
    have hcov := h.covered p hp
    have hsplit : ((w.enter bucket).store.total fun i r =>
        if i ∈ (w.enter bucket).store.writing then p.ofRecord r else 0) =
          w.store.held bucket p +
            w.store.total fun i r => if i ∈ w.store.writing then p.ofRecord r else 0 := by
      unfold Store.held
      rw [← Store.total_add, Store.total_of_buckets (w.buckets_enter bucket)]
      apply Store.total_congr
      intro i c r _
      rw [World.writing_enter]
      by_cases hi : i = bucket
      · subst hi
        simp [hb]
      · simp [hi]
    unfold World.slack at hcov ⊢
    rw [balance_enter, hsplit]
    omega

/-- A record is worth no more than its bucket. -/
theorem ofRecord_le_held (h : Sound e w) {p : Prices} (hp : p.Fair) {bucket : Nat}
    {client : ClientId} {r : Record} (known : w.store.record? bucket client = some r) :
    p.ofRecord r ≤ w.store.held bucket p := by
  have hshare : w.store.share (fun i r => if i = bucket then p.ofRecord r else 0) bucket client =
      p.ofRecord r := by
    rw [Store.share_of_some known, if_pos rfl]
  rw [← hshare]
  refine Store.share_le_total ?_ bucket client
  intro i c r hr
  split
  · exact hp.ofRecord_nonneg (h.honest i c r hr)
  · exact le_refl 0

theorem held_nonneg (h : Sound e w) {p : Prices} (hp : p.Fair) (bucket : Nat) :
    0 ≤ w.store.held bucket p := by
  apply Store.total_nonneg
  intro i c r hr
  split
  · exact hp.ofRecord_nonneg (h.honest i c r hr)
  · exact le_refl 0

/-- A record that is taken out stays covered until it is off the gauges. -/
theorem erase (h : Sound e w) (bucket : Nat) (hb : bucket ∈ w.store.writing) {client : ClientId}
    {old : Record} (known : w.store.record? bucket client = some old) :
    Sound e (w.erase bucket client) where
  honest i c r hr := by
    rw [World.store_erase, Store.record?_erase] at hr
    split at hr
    · cases hr
    · exact h.honest i c r hr
  shows g := by
    have hs := h.shows g
    cases g <;> exact hs
  backed := h.backed
  covered p hp := by
    have hcov := h.covered p hp
    unfold World.slack at hcov ⊢
    rw [balance_erase _ _ old known, World.store_erase, Store.total_erase, Store.writing_erase,
      Store.share_of_some known, if_pos hb]
    omega

/-! ### Steps that move a gauge -/

theorem toNat_sub_emod {a b : UInt64} {t : ℤ} (h : a.toNat = t % 2 ^ 64) :
    (a - b).toNat = (t - b.toNat) % 2 ^ 64 := by
  rw [UInt64.toNat_sub]
  have hb := b.toNat_lt
  omega

theorem toNat_add_emod {a b : UInt64} {t : ℤ} (h : a.toNat = t % 2 ^ 64) :
    (a + b).toNat = (t + b.toNat) % 2 ^ 64 := by
  rw [UInt64.toNat_add]
  omega

theorem lowerMemory (h : Sound e w) {n : UInt64} (hn : n.toNat ≤ e Gauge.memory.price)
    (hspare : 0 ≤ e Gauge.memory.spare) :
    Sound (fun p => e p - p.byte * n.toNat) (w.lowerMemory n) where
  honest := h.honest
  shows g := by
    have hs := h.shows g
    unfold World.lowerMemory
    rw [World.journal_note, tally_cons]
    cases g with
    | sessions => simpa [Gauge.price, Prices.ofMark, Gauge.read] using hs
    | memory =>
      have hsub := toNat_sub_emod (b := n) hs
      simpa [Gauge.price, Prices.ofMark, Gauge.read, ← sub_eq_add_neg] using hsub
  backed := by
    apply h.backed.cons
    intro g level amount hm
    cases hm
    exact h.backing hn hspare
  covered p hp := by
    have hcov := h.covered p hp
    unfold World.slack at hcov ⊢
    rw [balance_lowerMemory, World.writing_lowerMemory,
      Store.total_of_buckets (w.buckets_lowerMemory n)]
    omega

theorem raiseMemory (h : Sound e w) (n : UInt64) :
    Sound (fun p => e p + p.byte * n.toNat) (w.raiseMemory n) where
  honest := h.honest
  shows g := by
    have hs := h.shows g
    unfold World.raiseMemory
    rw [World.journal_note, tally_cons]
    cases g with
    | sessions => simpa [Gauge.price, Prices.ofMark, Gauge.read] using hs
    | memory =>
      have hadd := toNat_add_emod (b := n) hs
      simpa [Gauge.price, Prices.ofMark, Gauge.read] using hadd
  backed := h.backed.raised _ _ _
  covered p hp := by
    have hcov := h.covered p hp
    unfold World.slack at hcov ⊢
    rw [balance_raiseMemory, Store.total_of_buckets (w.buckets_raiseMemory n)]
    change _ ≤ _ + w.store.total fun i r => if i ∈ w.store.writing then p.ofRecord r else 0
    omega

theorem recount (h : Sound e w) (before after : Bool)
    (hn : before = true → 1 ≤ e Gauge.sessions.price)
    (hspare : before = true → 0 ≤ e Gauge.sessions.spare) :
    Sound (fun p => e p + p.ofLive after - p.ofLive before) (w.recount before after) where
  honest i c r hr := h.honest i c r (by simpa using hr)
  shows g := by
    have hs := h.shows g
    cases before <;> cases after
    · exact hs
    · unfold World.recount
      rw [World.journal_note, tally_cons]
      cases g with
      | sessions =>
        have hadd := toNat_add_emod (b := 1) hs
        simpa [Gauge.price, Prices.ofMark, Gauge.read] using hadd
      | memory => simpa [Gauge.price, Prices.ofMark, Gauge.read] using hs
    · unfold World.recount
      rw [World.journal_note, tally_cons]
      cases g with
      | sessions =>
        have hsub := toNat_sub_emod (b := 1) hs
        simpa [Gauge.price, Prices.ofMark, Gauge.read, ← sub_eq_add_neg] using hsub
      | memory => simpa [Gauge.price, Prices.ofMark, Gauge.read] using hs
    · exact hs
  backed := by
    cases before <;> cases after
    · exact h.backed
    · exact h.backed.raised _ _ _
    · apply h.backed.cons
      intro g level amount hm
      cases hm
      exact h.backing (hn rfl) (hspare rfl)
    · exact h.backed
  covered p hp := by
    have hcov := h.covered p hp
    have hstay : ((w.recount before after).store.total fun i r =>
        if i ∈ (w.recount before after).store.writing then p.ofRecord r else 0) =
          w.store.total fun i r => if i ∈ w.store.writing then p.ofRecord r else 0 := by
      cases before <;> cases after <;> rfl
    unfold World.slack at hcov ⊢
    rw [balance_recount, hstay]
    omega

theorem file (h : Sound e w) {bucket : Nat} (hb : bucket ∈ w.store.writing)
    (hlt : bucket < w.store.bucketCount) (client : ClientId) {fresh : Record}
    (hfresh : fresh.Honest) :
    Sound (fun p => e p + p.record fresh - p.ofDisplaced (w.store.record? bucket client))
      (w.file bucket client fresh) where
  honest i c r hr := by
    have hr' : (w.store.file bucket client fresh).record? i c = some r := hr
    rw [Store.record?_file] at hr'
    split at hr'
    · cases hr'
      exact hfresh
    · exact h.honest i c r hr'
  shows g := by
    have hs := (h.note (.filed bucket client (w.store.record? bucket client) fresh) rfl).shows g
    cases g <;> exact hs
  backed := (h.note (.filed bucket client (w.store.record? bucket client) fresh) rfl).backed
  covered p hp := by
    have hcov := h.covered p hp
    have hstay : ((w.file bucket client fresh).store.total fun i r =>
        if i ∈ (w.file bucket client fresh).store.writing then p.ofRecord r else 0) =
          (w.store.total fun i r => if i ∈ w.store.writing then p.ofRecord r else 0) -
            w.store.share (fun _ r => p.ofRecord r) bucket client + p.ofRecord fresh := by
      change (w.store.file bucket client fresh).total
        (fun i r => if i ∈ w.store.writing then p.ofRecord r else 0) = _
      rw [Store.total_file _ hlt, if_pos hb]
      unfold Store.share
      simp only [if_pos hb]
    unfold World.slack at hcov ⊢
    rw [balance_file _ _ hlt, hstay]
    omega

/-- The weight of a record is taken off while the record itself is earmarked. -/
theorem unload (h : Sound e w) {r : Record} (hr : r.Honest)
    (he : ∀ p : Prices, p.Fair → p.live = 0 → p.byte * r.weight.toNat + p.record r ≤ e p) :
    Sound (fun p => e p - p.byte * r.weight.toNat) (w.lowerMemory r.weight) := by
  apply h.lowerMemory
  · have hprice := he _ Gauge.memory.fair_price rfl
    simpa [Gauge.price] using hprice
  · have hspare := he _ Gauge.memory.fair_spare rfl
    exact (Gauge.memory.fair_spare.heavy r hr).trans hspare

/-- The count follows a record while the record itself is earmarked. -/
theorem follow (h : Sound e w) {r : Record} (hr : r.Honest) (after : Bool)
    (he : ∀ p : Prices, p.Fair → p.byte = 0 → p.ofLive r.object.isLive + p.record r ≤ e p) :
    Sound (fun p => e p + p.ofLive after - p.ofLive r.object.isLive)
      (w.recount r.object.isLive after) := by
  apply h.recount r.object.isLive after
  · intro hl
    have hprice := he _ Gauge.sessions.fair_price rfl
    simpa [Gauge.price, Prices.ofLive, hl] using hprice
  · intro _
    have hspare := he _ Gauge.sessions.fair_spare rfl
    exact (Gauge.sessions.fair_spare.lively r hr).trans hspare

/-- A record that nobody had counted is counted. -/
theorem count (h : Sound e w) (live : Bool) :
    Sound (fun p => e p + p.ofLive live) (w.recount false live) := by
  have hr := h.recount false live nofun nofun
  apply hr.mono
  intro p _
  rw [Prices.ofLive_false, sub_zero]

/-- A record goes into its bucket, and its weight onto the gauge. -/
theorem keep (h : Sound e w) {bucket : Nat} (hb : bucket ∈ w.store.writing)
    (hlt : bucket < w.store.bucketCount) (client : ClientId) {fresh : Record}
    (hfresh : fresh.Honest) :
    Sound (fun p => e p + p.byte * fresh.weight.toNat + p.record fresh -
      p.ofDisplaced (w.store.record? bucket client)) (w.keep bucket client fresh) := by
  have hr := h.raiseMemory fresh.weight
  exact hr.file hb hlt client hfresh

end Sound

/-! ## Others in the middle of a request -/

/-- Between two worlds all is settled, and what was sound before is sound after. -/
def Steady (w w' : World σ) : Prop := (∀ p, Settled p w w') ∧ (Sound 0 w → Sound 0 w')

theorem Steady.lasting : Lasting (Steady (σ := σ)) where
  refl w := ⟨fun p => (Settled.lasting p).refl w, id⟩
  trans h₁ h₂ := ⟨fun p => (Settled.lasting p).trans (h₁.1 p) (h₂.1 p), h₂.2 ∘ h₁.2⟩
  outside w own :=
    ⟨fun p => (Settled.lasting p).outside w own,
      fun h => ⟨h.honest, h.shows, h.backed, h.covered⟩⟩
  idle w m hm := by
    refine ⟨fun p => (Settled.lasting p).idle w m hm, fun h => ?_⟩
    refine h.pass m ?_ (fun p _ => p.ofMark_idle hm)
    cases m with
    | raised g level amount => cases hm
    | lowered g level amount => cases hm
    | _ => rfl

/-- What is earmarked stays so while others talk, as long as nothing is owed. -/
theorem Sound.talk {e : Prices → ℤ} {w w' : World σ} (h : Sound e w)
    (he : ∀ p : Prices, p.Fair → 0 ≤ e p) (hst : Steady w w') : Sound e w' := by
  have h₀ := hst.2 (h.mono he)
  refine ⟨h₀.honest, h₀.shows, h₀.backed, ?_⟩
  intro p hp
  rw [slack_eq_of_settled (hst.1 p)]
  exact h.covered p hp

theorem Steady.frame {w w' : World σ} (h : Steady w w') : Frame w w' := (h.1 {}).1

/-! ## Every request is sound -/

section

open Operation

variable {env : Collaborators σ} {serve : Server σ} {e : Prices → ℤ}

/-- A will is given back while nothing is owed. -/
theorem Sound.release (hs : serve.Keeps Steady) {s : Session} {u : Unit} {w w' : World σ}
    (h : Sound e w) (he : ∀ p : Prices, p.Fair → 0 ≤ e p)
    (hr : (Operation.release env serve s).run w = some (u, w')) : Sound e w' :=
  (h.givenBack s.payloadId?).talk he (release_keeps Steady.lasting hs hr)

theorem Sound.willOrNone (hs : serve.Keeps Steady) {s kept : Session} {sendWill : Bool}
    {w w' : World σ} (h : Sound e w) (he : ∀ p : Prices, p.Fair → 0 ≤ e p)
    (hr : (Operation.willOrNone env serve s sendWill).run w = some (kept, w')) : Sound e w' := by
  rcases willOrNone_cases Steady.lasting hs hr with ⟨_, rfl⟩ | ⟨_, hst⟩
  · exact h
  · exact (h.givenBack s.payloadId?).talk he hst

theorem Sound.dropDangling (hs : serve.Keeps Steady) {s away : Session} {w w' : World σ}
    (h : Sound e w) (he : ∀ p : Prices, p.Fair → 0 ≤ e p)
    (hr : (Operation.dropDangling env serve s).run w = some (away, w')) : Sound e w' := by
  rcases dropDangling_cases Steady.lasting hs hr with ⟨_, hst⟩ | ⟨id, w₁, _, _, hst, rfl⟩
  · exact h.talk he hst
  · exact (h.talk he hst).pass (.dangled id) rfl
      (fun p hp => neg_eq_zero.2 (hp.will (some id)))

theorem Store.held_congr {s s' : Store} {bucket : Nat} (p : Prices)
    (h : ∀ c, s'.record? bucket c = s.record? bucket c) : s'.held bucket p = s.held bucket p := by
  refine Store.total_eq_of_agree (fun i => i = bucket) p.ofRecord ?_
  rintro i rfl c
  exact h c

/-- One record less is covered, and it is off the gauges. -/
theorem dismissal_sound (hs : serve.Keeps Steady) {bucket : Nat} {client : ClientId} {r : Record}
    {u : Unit} {w w' : World σ} (hb : bucket ∈ w.store.writing)
    (hlt : bucket < w.store.bucketCount) (known : w.store.record? bucket client = some r)
    (hw : Sound (w.store.held bucket) w)
    (h : (dismiss env serve bucket client r).run w = some (u, w')) :
    Sound (w'.store.held bucket) w' := by
  have hr : r.Honest := hw.honest bucket client r known
  obtain ⟨w₁, hg, rfl⟩ := dismiss_some h
  have hrel := release_keeps Steady.lasting hs hg
  obtain ⟨hin, -, hheld₁⟩ := hrel.frame.holds bucket client (by simpa using hb)
    (by simpa using hlt) (by simpa using known)
  have hheld : ∀ p, w₁.store.held bucket p = w.store.held bucket p := by
    intro p
    apply Store.held_congr p
    intro c
    have hc := hrel.frame.held bucket (by simpa using hb) c
    simpa using hc
  have hcov : ∀ p : Prices, p.Fair → p.byte * r.weight.toNat + p.ofLive r.object.isLive +
      p.record r ≤ w.store.held bucket p := by
    intro p hp
    rw [← hp.ofRecord]
    exact hw.ofRecord_le_held hp known
  have h₁ : Sound (fun p => w.store.held bucket p - p.ofLive r.object.isLive)
      (w.recount r.object.isLive false) := by
    refine (hw.follow hr false ?_).mono ?_
    · intro p hp h0
      have hle := hcov p hp
      rw [h0, Int.zero_mul, zero_add] at hle
      exact hle
    · intro p _
      rw [Prices.ofLive_false]
      omega
  have h₂ : Sound (fun p => w.store.held bucket p - p.ofLive r.object.isLive) w₁ := by
    refine h₁.release hs ?_ hg
    intro p hp
    have hle := hcov p hp
    have hpos := hp.heavy r hr
    omega
  have h₃ : Sound (fun p => w.store.held bucket p - p.ofRecord r + p.record r)
      (w₁.lowerMemory r.weight) := by
    refine (h₂.unload hr ?_).mono ?_
    · intro p hp h0
      have hle := hcov p hp
      simp only [Prices.ofLive, h0, ite_self] at hle ⊢
      omega
    · intro p hp
      rw [hp.ofRecord]
      omega
  have h₄ := h₃.erase bucket (by simpa using hin) (by simpa using hheld₁)
  refine (h₄.note (.forgotten bucket client r) rfl).mono ?_
  intro p hp
  have hout : ((w₁.lowerMemory r.weight).erase bucket client).store.held bucket p =
      w.store.held bucket p - p.ofRecord r := by
    rw [← hheld p]
    unfold Store.held
    rw [World.store_erase, Store.total_erase, Store.total_of_buckets (w₁.buckets_lowerMemory _),
      Store.share_of_some (by simpa using hheld₁), if_pos rfl]
  rw [World.store_note, hout]
  change _ ≤ _ + -p.record r
  omega

/-- All that a writer dismisses is covered by its bucket, and what remains still is. -/
theorem dismissals_sound (hs : serve.Keeps Steady) {bucket : Nat} {now : Timestamp}
    {expired : List (ClientId × Record)} {u : Unit} {w w' : World σ} (hw : Sound 0 w)
    (hlt : bucket < w.store.bucketCount) (hb : bucket ∉ w.store.writing)
    (ended : w.store.expired bucket now = expired)
    (h : (expired.forM fun (client, r) => dismiss env serve bucket client r).run
      (w.enter bucket) = some (u, w')) :
    Sound (w'.store.held bucket) w' := by
  have hknown : ∀ x ∈ expired, (w.enter bucket).store.record? bucket x.1 = some x.2 := by
    intro x hx
    rw [← ended] at hx
    simpa using (Store.mem_expired.1 hx).1
  have hstart : Sound ((w.enter bucket).store.held bucket) (w.enter bucket) := by
    apply (hw.enter hb).mono
    intro p _
    change _ ≤ 0 + _
    rw [zero_add]
    exact (Store.total_of_buckets (w.buckets_enter bucket) _).le
  refine dismissals_keep (P := fun v => Sound (v.store.held bucket) v)
    (hs.mono fun _ _ h => h.frame) ?_ (ended ▸ w.store.nodup_expired bucket now) (by simp)
    (by simpa using hlt) hknown hstart h
  intro client r v v' hv hvlt hr hsound h
  exact dismissal_sound hs hv hvlt hr hsound h

/-- What a record that is about to be replaced is worth is earmarked by its writer. -/
theorem Sound.enter_known {w : World σ} (h : Sound 0 w) {bucket : Nat} {client : ClientId}
    {old : Record} (hb : bucket ∉ w.store.writing)
    (known : w.store.record? bucket client = some old) :
    Sound (fun p => p.ofRecord old) (w.enter bucket) := by
  apply (h.enter hb).mono
  intro p hp
  have hle := h.ofRecord_le_held hp known
  change _ ≤ 0 + _
  omega

theorem Sound.enter_none {w : World σ} (h : Sound 0 w) {bucket : Nat}
    (hb : bucket ∉ w.store.writing) : Sound 0 (w.enter bucket) := by
  apply (h.enter hb).mono
  intro p hp
  have hle := h.held_nonneg hp bucket
  change 0 ≤ 0 + _
  omega

/-- The record that is to be replaced is off the memory gauge. -/
theorem Sound.enter_unloaded {w : World σ} (h : Sound 0 w) {bucket : Nat} {client : ClientId}
    {old : Record} (hb : bucket ∉ w.store.writing)
    (known : w.store.record? bucket client = some old) :
    Sound (fun p => p.ofLive old.object.isLive + p.record old)
      ((w.enter bucket).lowerMemory old.weight) := by
  have hr : old.Honest := h.honest bucket client old known
  refine ((h.enter_known hb known).unload hr ?_).mono ?_
  · intro p hp h0
    rw [hp.ofRecord]
    simp only [Prices.ofLive, h0, ite_self]
    omega
  · intro p hp
    rw [hp.ofRecord]
    omega

/-- A request that gives back all that it earmarked leaves the store sound. -/
theorem Sound.close {w w' : World σ} (hw : Sound 0 w) {bucket : Nat} (h : Sound e w')
    (hslack : ∀ p : Prices, p.Fair → (w'.leave bucket).slack p = w.slack p) :
    Sound 0 (w'.leave bucket) where
  honest := h.honest
  shows g := by
    have hs := (h.note (.closed bucket) rfl).shows g
    cases g <;> exact hs
  backed := (h.note (.closed bucket) rfl).backed
  covered p hp := by
    rw [hslack p hp]
    exact hw.covered p hp

theorem course_slack (hs : serve.Keeps Steady) {q : Request} {w w' : World σ} {reply : q.Reply}
    (h : Course env serve q w reply w') {p : Prices} (hp : p.Fair) : w'.slack p = w.slack p := by
  have hbal := course_balance (hs.mono fun _ _ h => h.1 p) h
  have hf := course_frame (hs.mono fun _ _ h => h.frame) h
  rw [hp.ofMark_answered, add_zero] at hbal
  exact slack_eq_of_settled ⟨hf, hbal⟩

theorem course_sound (hs : serve.Keeps Steady) {q : Request} {w w' : World σ} {reply : q.Reply}
    (hw : Sound 0 w) (h : Course env serve q w reply w') : Sound 0 w' := by
  have hL := Steady.lasting (σ := σ)
  have hslack : ∀ p : Prices, p.Fair → w'.slack p = w.slack p := fun p hp => course_slack hs h hp
  cases h with
  | turnedAway => exact hw
  | @putNew client session stamp bucket _ door vacant =>
    obtain ⟨hlt, hb⟩ : bucket < w.store.bucketCount ∧ bucket ∉ w.store.writing :=
      Store.open_of_objection rfl door
    have h₁ := (hw.enter_none hb).count session.withoutPayload.isLive
    exact hw.close
      (h₁.keep (by simp) (by simpa using hlt) client (Session.honest_keptAt _ _)) hslack
  | @putOver client session stamp bucket old _ w₁ door known given =>
    obtain ⟨hlt, hb⟩ : bucket < w.store.bucketCount ∧ bucket ∉ w.store.writing :=
      Store.open_of_objection rfl door
    have hold : old.Honest := hw.honest bucket client old known
    have h₁ := (hw.enter_unloaded hb known).release hs (fun p hp => hp.lively old hold) given
    have hf := (release_keeps hL hs given).frame
    have h₂ := h₁.follow hold session.withoutPayload.isLive (fun _ _ _ => le_refl _)
    obtain ⟨hin, hlt₁, -⟩ := hf.holds bucket client (by simp) (by simpa using hlt)
      (by simpa using known)
    exact hw.close (h₂.keep (by simpa using hin) (by simpa using hlt₁) client
      (Session.honest_keptAt _ _)) hslack
  | @strangerLeft client stamp sendWill bucket expiry _ door vacant =>
    obtain ⟨hlt, hb⟩ : bucket < w.store.bucketCount ∧ bucket ∉ w.store.writing :=
      Store.open_of_objection rfl door
    have h₁ := (hw.enter_none hb).count w.store.stranger.isLive
    exact hw.close
      (h₁.keep (by simp) (by simpa using hlt) client (Session.honest_keptAt _ _)) hslack
  | @clientLeft client stamp sendWill bucket expiry old kept away _ _ w₁ w₂ w₃ door known will
      checked resolved =>
    obtain ⟨hlt, hb⟩ : bucket < w.store.bucketCount ∧ bucket ∉ w.store.writing :=
      Store.open_of_objection rfl door
    have hold : old.Honest := hw.honest bucket client old known
    have hlively : ∀ p : Prices, p.Fair → 0 ≤ p.ofLive old.object.isLive + p.record old :=
      fun p hp => hp.lively old hold
    have h₁ := (hw.enter_unloaded hb known).willOrNone hs hlively will
    have h₂ := h₁.dropDangling hs hlively checked
    have h₃ := h₂.follow hold away.isLive (fun _ _ _ => le_refl _)
    have hsettled : serve.Keeps (Settled {}) := hs.mono fun _ _ h => h.1 {}
    have hf := Frame.lasting.trans (willOrNone_balance hsettled will).1
      (dropDangling_balance hsettled checked).1
    obtain ⟨hin, hlt₂, hheld₂⟩ := hf.holds bucket client (by simp) (by simpa using hlt)
      (by simpa using known)
    have h₄ := h₃.keep (by simpa using hin) (by simpa using hlt₂) client
      (Session.honest_keptAt away stamp)
    refine hw.close (h₄.talk ?_ (attachPayload_keeps hL hs resolved)) hslack
    -- The old record is paid off, and the new one is all there.
    intro p hp
    have hwhole := hp.whole _ (Session.honest_keptAt away stamp)
    rw [World.record?_recount, hheld₂]
    simp only [Prices.ofDisplaced, Entry.weighed] at hwhole ⊢
    omega
  | @removedNone client bucket _ door =>
    exact hw.close (hw.enter_none (Store.open_of_objection rfl door).2) hslack
  | @removed client bucket old _ w₁ door known given =>
    obtain ⟨hlt, hb⟩ : bucket < w.store.bucketCount ∧ bucket ∉ w.store.writing :=
      Store.open_of_objection rfl door
    have hold : old.Honest := hw.honest bucket client old known
    have h₁ := (hw.enter_known hb known).erase bucket (by simp) (by simpa using known)
    have h₂ : Sound (fun p => p.byte * old.weight.toNat + p.record old)
        (((w.enter bucket).erase bucket client).recount old.object.isLive false) := by
      refine (h₁.follow hold false ?_).mono ?_
      · intro p hp h0
        rw [hp.ofRecord, h0, Int.zero_mul, zero_add]
      · intro p hp
        rw [hp.ofRecord, Prices.ofLive_false]
        omega
    have h₃ := h₂.release hs (fun p hp => hp.heavy old hold) given
    have h₄ := h₃.unload hold (fun _ _ _ => le_refl _)
    exact hw.close (h₄.note (.forgotten bucket client old) rfl) hslack
  | @purged bucket expired _ w₁ w₂ door ended dismissed announced =>
    obtain ⟨hlt, hb⟩ : bucket < w.store.bucketCount ∧ bucket ∉ w.store.writing :=
      Store.open_of_objection rfl door
    have h₁ := dismissals_sound hs hw hlt hb ended dismissed
    have h₂ := h₁.talk (fun p hp => h₁.held_nonneg hp bucket) (announcements_keep hL hs announced)
    exact hw.close h₂ hslack
  | @noSession client expiry bucket _ door =>
    exact hw.close (hw.enter_none (Store.open_of_objection rfl door).2) hslack
  | @expirySet client expiry bucket old _ door known live =>
    obtain ⟨hlt, hb⟩ : bucket < w.store.bucketCount ∧ bucket ∉ w.store.writing :=
      Store.open_of_objection rfl door
    have hold : old.Honest := hw.honest bucket client old known
    have h₁ := (hw.enter_known hb known).follow hold { old.object with expiry }.isLive (by
      intro p hp h0
      rw [hp.ofRecord, h0, Int.zero_mul, zero_add])
    rw [live] at h₁
    have h₂ := h₁.unload hold (by
      intro p hp h0
      rw [hp.ofRecord]
      simp only [Prices.ofLive, h0, ite_self]
      omega)
    exact hw.close (h₂.keep (by simp) (by simpa using hlt) client (Session.honest_keptAt _ _))
      hslack
  | @willStays client bucket _ door =>
    exact hw.close (hw.enter_none (Store.open_of_objection rfl door).2) hslack
  | @willCancelled client bucket old _ w₁ door known away given =>
    obtain ⟨hlt, hb⟩ : bucket < w.store.bucketCount ∧ bucket ∉ w.store.writing :=
      Store.open_of_objection rfl door
    have hold : old.Honest := hw.honest bucket client old known
    have h₁ := (hw.enter_unloaded hb known).release hs (fun p hp => hp.lively old hold) given
    have hf := (release_keeps hL hs given).frame
    obtain ⟨hin, hlt₁, -⟩ := hf.holds bucket client (by simp) (by simpa using hlt)
      (by simpa using known)
    exact hw.close (h₁.keep hin hlt₁ client (Session.honest_keptAt _ _)) hslack
  | notFound => exact hw
  | foundBare => exact hw
  | foundWhole _ _ _ resolved => exact (attachPayload_keeps hL hs resolved).2 hw

theorem attend_steady (hs : serve.Keeps Steady) : (attend env serve).Keeps Steady := by
  intro q w reply w' h
  refine ⟨fun p => attend_settled (hs.mono fun _ _ h => h.1 p) q w reply w' h, fun hw => ?_⟩
  obtain ⟨w₁, hc, rfl⟩ := attend_course h
  have hcalled : Sound 0 (w.note (.called q)) := hw.pass _ rfl (fun _ _ => rfl)
  exact (course_sound hs hcalled hc).pass _ rfl (fun p hp => hp.ofMark_answered _ _)

end

/-- Whatever a request asks for, and whatever is asked meanwhile, sound stores stay sound. -/
theorem perform_steady (env : Collaborators σ) (depth : Nat) : (perform env depth).Keeps Steady :=
  perform_keeps (fun _ => attend_steady) depth

/-! ## The counters of every run -/

/-- An empty store is sound. -/
theorem Sound.start {c : Config} {walk : Walk} {s : Store} (own : σ)
    (h : Store.ofConfig c walk = .ok s) :
    Sound 0 { store := s, outside := own } where
  honest i client r hr := by
    rw [Store.record?_of_ofConfig h] at hr
    cases hr
  shows g := by
    obtain ⟨-, rfl⟩ := Store.ofConfig_ok h
    cases g <;> rfl
  backed := by
    intro g level amount before hsuf
    cases List.suffix_nil.1 hsuf
  covered p _ := by
    unfold World.slack World.balance Prices.ofStore
    rw [Store.total_of_ofConfig h, Store.total_of_ofConfig h]
    exact le_refl 0

theorem Reached.sound {env : Collaborators σ} {w : World σ} (h : Reached env w) : Sound 0 w := by
  obtain ⟨c, walk, s, own, hc, hst⟩ := h.since Steady.lasting.toChatty (perform_steady env)
  exact hst.2 (Sound.start own hc)

namespace Reached

variable {env : Collaborators σ} {w : World σ}

/-- A gauge shows what the records are worth, as long as that fits. -/
theorem read_eq (h : Reached env w) (fits : load w.journal < 2 ^ 64) (g : Gauge) :
    (g.read w.store).toNat = g.price.ofStore w.store := by
  have hshows := h.sound.shows g
  have hlow : 0 ≤ tally g w.journal := h.sound.le_journal g.fair_price
  have hhigh : 0 ≤ g.spare.ofJournal w.journal := h.sound.le_journal g.fair_spare
  rw [ofJournal_spare] at hhigh
  have hbal : tally g w.journal - g.price.ofStore w.store = 0 := h.balance g.price
  omega

/-- The load is what the stored records take. -/
theorem load_eq (h : Reached env w) : load w.journal = w.store.total fun _ r => (r.size : ℤ) := by
  have hbal : load w.journal - Prices.ofStore { record := fun r => r.size } w.store = 0 :=
    h.balance { record := fun r => r.size }
  have hstore : Prices.ofStore { record := fun r => r.size } w.store =
      w.store.total fun _ r => (r.size : ℤ) := by
    apply Store.total_congr
    intro i c r _
    cases hid : r.object.payloadId? <;> simp [Prices.ofRecord, Prices.ofLive, Prices.ofWill, hid]
  omega

/-- A remembered weight is the exact size, as long as everything fits. -/
theorem weight_eq (h : Reached env w) (fits : load w.journal < 2 ^ 64) {i : Nat} {c : ClientId}
    {r : Record} (hr : w.store.record? i c = some r) : r.weight.toNat = r.size := by
  have hle : w.store.share (fun _ r => (r.size : ℤ)) i c ≤ w.store.total fun _ r => (r.size : ℤ) :=
    Store.share_le_total (fun _ _ r _ => Int.natCast_nonneg r.size) i c
  rw [Store.share_of_some hr, ← h.load_eq] at hle
  have hsize : r.size < 2 ^ 64 := by omega
  rw [h.sound.honest i c r hr]
  exact UInt64.toNat_ofNat_of_lt' hsize

end Reached

theorem ofStore_sessions (s : Store) :
    Gauge.sessions.price.ofStore s = s.recountSessions := by
  unfold Store.recountSessions
  rw [← Store.total_indicator s fun r => r.object.isLive]
  apply Store.total_congr
  intro i c r _
  rw [Gauge.sessions.fair_price.ofRecord]
  simp [Gauge.price, Prices.ofLive]

theorem ofStore_memory (s : Store) :
    Gauge.memory.price.ofStore s = s.total fun _ r => (r.weight.toNat : ℤ) := by
  apply Store.total_congr
  intro i c r _
  rw [Gauge.memory.fair_price.ofRecord]
  simp [Gauge.price, Prices.ofLive]

/-- Between two requests the counters agree with a fresh look at every record, and no step
of the run ever lowered one of them by more than it showed. The sizes of all records must
fit into the counter at every moment, those of records that are on their way out too. -/
theorem counters_match {env : Collaborators σ} {w : World σ} (h : Reached env w)
    (fits : ∀ before, before <:+ w.journal → load before < 2 ^ 64) :
    w.store.sessions.toNat = w.store.recountSessions ∧
      w.store.memory.toNat = (w.store.records.map fun (_, _, r) => r.size).sum ∧
      ∀ g level amount, .lowered g level amount ∈ w.journal → amount ≤ level := by
  have hfits := fits w.journal (List.suffix_refl _)
  refine ⟨?_, ?_, ?_⟩
  · have hread := h.read_eq hfits .sessions
    rw [ofStore_sessions] at hread
    exact Int.ofNat_inj.1 hread
  · have hread := h.read_eq hfits .memory
    have hsizes : (w.store.total fun _ r => (r.weight.toNat : ℤ)) =
        w.store.total fun _ r => (r.size : ℤ) := by
      apply Store.total_congr
      intro i c r hr
      rw [h.weight_eq hfits hr]
    rw [ofStore_memory, hsizes, Store.total_natCast] at hread
    exact Int.ofNat_inj.1 hread
  · intro g level amount hmem
    obtain ⟨after, before, hsplit⟩ := List.append_of_mem hmem
    have hsuf : .lowered g level amount :: before <:+ w.journal := ⟨after, hsplit.symm⟩
    obtain ⟨hamount, hload, hlevel⟩ := h.sound.backed g level amount before hsuf
    have hlt := fits before ((List.suffix_cons _ _).trans hsuf)
    omega

/-- One client is forgotten in the middle of the disconnect of the other. -/
theorem counters_match_farewells :
    ∃ w, Reached .meddling w ∧ .lowered .memory 65 65 ∈ w.journal ∧
      (∀ before, before <:+ w.journal → load before < 2 ^ 64) ∧
      w.store.sessions.toNat = w.store.recountSessions ∧
      w.store.memory.toNat = (w.store.records.map fun (_, _, r) => r.size).sum ∧
      ∀ g level amount, .lowered g level amount ∈ w.journal → amount ≤ level := by
  have hend : (((converse .meddling 2 farewells).run
      { store := { defaultExpiry := 4294967295, buckets := Array.replicate 2 ∅ },
        outside := ⟨0⟩ }).map fun (_, w) =>
          decide (.lowered .memory 65 65 ∈ w.journal ∧
            ∀ before ∈ w.journal.tails, load before < 2 ^ 64)) = some true := by
    decide +kernel
  obtain ⟨⟨_, w⟩, hrun, hfacts⟩ := Option.map_eq_some_iff.1 hend
  obtain ⟨hlowered, hall⟩ := of_decide_eq_true hfacts
  have hreached : Reached .meddling w :=
    .conversed (.start ⟨0⟩ (c := { bucketCount := 2 }) rfl) hrun
  have hfits : ∀ before, before <:+ w.journal → load before < 2 ^ 64 :=
    fun before hsuf => hall before ((List.mem_tails before _).2 hsuf)
  exact ⟨w, hreached, hlowered, hfits, counters_match hreached hfits⟩

end BrokerSessions
