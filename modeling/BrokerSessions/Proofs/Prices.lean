-- One conservation law for all that the store counts. Give a price to a byte, to a
-- live session, to a record and to a will. By these prices a record is worth what it
-- weighs, whether it is live, what it is and which payload it names, and the journal
-- tells what came in and what went out. When a request is answered, the two have
-- moved by the same amount, whatever the prices are and whatever was asked meanwhile.
import BrokerSessions.Proofs.Meanwhile
import BrokerSessions.Proofs.Shelves

namespace BrokerSessions

variable {σ : Type}

/-! ## Prices -/

/-- What one unit of each thing that the store counts is worth. -/
structure Prices where
  byte : ℤ := 0
  live : ℤ := 0
  record : Record → ℤ := fun _ => 0
  will : PayloadId → ℤ := fun _ => 0

namespace Prices

variable (p : Prices)

def ofWill : Option PayloadId → ℤ
  | some id => p.will id
  | none => 0

def ofLive (live : Bool) : ℤ := if live then p.live else 0

@[simp] theorem ofLive_false : p.ofLive false = 0 := rfl

/-- What a record is worth. -/
def ofRecord (r : Record) : ℤ :=
  p.byte * r.weight.toNat + p.ofLive r.object.isLive + p.record r + p.ofWill r.object.payloadId?

def ofDisplaced : Option Record → ℤ
  | some r => p.record r
  | none => 0

/-- What a mark says came in, or went out. A granted put brings its will in, and a will
goes out when it is given back or dropped. -/
def ofMark : Mark → ℤ
  | .raised .memory _ n => p.byte * n
  | .raised .sessions _ n => p.live * n
  | .lowered .memory _ n => -(p.byte * n)
  | .lowered .sessions _ n => -(p.live * n)
  | .filed _ _ displaced fresh => p.record fresh - p.ofDisplaced displaced
  | .forgotten _ _ r => -p.record r
  | .released id => -p.will id
  | .dangled id => -p.will id
  | .answered (.put _ session _ _) none => p.ofWill session.payloadId?
  | _ => 0

theorem ofMark_idle {m : Mark} (hm : m.isIdle = true) : p.ofMark m = 0 := by
  cases m with
  | fetched => rfl
  | announced => rfl
  | _ => cases hm

/-- What all marks of a journal say together. -/
def ofJournal (journal : List Mark) : ℤ := (journal.map p.ofMark).sum

/-- What the records of a store are worth together. -/
def ofStore (s : Store) : ℤ := s.total fun _ r => p.ofRecord r

end Prices

/-- What came in, less what went out, less what is still there. -/
def World.balance (w : World σ) (p : Prices) : ℤ := p.ofJournal w.journal - p.ofStore w.store

/-! ## What each step of an operation does to the balance -/

section

variable (p : Prices) (w : World σ)

@[simp] theorem balance_note (m : Mark) : (w.note m).balance p = w.balance p + p.ofMark m := by
  simp only [World.balance, Prices.ofJournal, World.journal_note, World.store_note, List.map_cons,
    List.sum_cons]
  omega

@[simp] theorem balance_enter (bucket : Nat) : (w.enter bucket).balance p = w.balance p := by
  unfold World.enter
  rw [balance_note]
  exact add_zero _

@[simp] theorem balance_leave (bucket : Nat) : (w.leave bucket).balance p = w.balance p := by
  unfold World.leave
  rw [balance_note]
  exact add_zero _

@[simp] theorem balance_lowerMemory (n : UInt64) :
    (w.lowerMemory n).balance p = w.balance p - p.byte * n.toNat := by
  unfold World.lowerMemory
  rw [balance_note]
  exact (sub_eq_add_neg _ _).symm

@[simp] theorem balance_raiseMemory (n : UInt64) :
    (w.raiseMemory n).balance p = w.balance p + p.byte * n.toNat := by
  unfold World.raiseMemory
  rw [balance_note]
  rfl

@[simp] theorem balance_recount (before after : Bool) :
    (w.recount before after).balance p = w.balance p + p.ofLive after - p.ofLive before := by
  cases before <;> cases after
  · exact (add_sub_cancel_right _ _).symm
  · unfold World.recount
    rw [balance_note]
    simp only [Prices.ofMark, Prices.ofLive]
    exact (by omega : w.balance p + p.live * 1 = w.balance p + p.live - 0)
  · unfold World.recount
    rw [balance_note]
    simp only [Prices.ofMark, Prices.ofLive]
    exact (by omega : w.balance p + -(p.live * 1) = w.balance p + 0 - p.live)
  · exact (add_sub_cancel_right _ _).symm

theorem balance_givenBack (id? : Option PayloadId) :
    (w.givenBack id?).balance p = w.balance p - p.ofWill id? := by
  cases id? with
  | some id =>
    unfold World.givenBack
    rw [balance_note]
    exact (sub_eq_add_neg _ _).symm
  | none => exact (sub_zero _).symm

variable {bucket : Nat} {client : ClientId}

theorem balance_file (hb : bucket < w.store.bucketCount) (fresh : Record) :
    (w.file bucket client fresh).balance p =
      w.balance p + p.record fresh - p.ofDisplaced (w.store.record? bucket client) -
        p.ofRecord fresh + w.store.share (fun _ r => p.ofRecord r) bucket client := by
  unfold World.file
  rw [balance_note]
  simp only [World.balance, Prices.ofStore, Prices.ofMark, Store.total_file _ hb]
  omega

/-- A new record is worth its weight and itself, which were paid for. -/
theorem balance_keep_new (hb : bucket < w.store.bucketCount)
    (vacant : w.store.record? bucket client = none) (fresh : Record) :
    (w.keep bucket client fresh).balance p =
      w.balance p - p.ofLive fresh.object.isLive - p.ofWill fresh.object.payloadId? := by
  have hvac : (w.raiseMemory fresh.weight).store.record? bucket client = none := vacant
  have hb' : bucket < (w.raiseMemory fresh.weight).store.bucketCount := hb
  unfold World.keep
  rw [balance_file _ _ hb', balance_raiseMemory, Store.share_of_none hvac, hvac]
  simp only [Prices.ofRecord, Prices.ofDisplaced]
  omega

/-- A record in place of another one: the weight of the old one is still to be paid for. -/
theorem balance_keep_over (hb : bucket < w.store.bucketCount) (old : Record)
    (known : w.store.record? bucket client = some old) (fresh : Record) :
    (w.keep bucket client fresh).balance p =
      w.balance p + p.byte * old.weight.toNat +
        (p.ofLive old.object.isLive - p.ofLive fresh.object.isLive) +
        (p.ofWill old.object.payloadId? - p.ofWill fresh.object.payloadId?) := by
  have hold : (w.raiseMemory fresh.weight).store.record? bucket client = some old := known
  have hb' : bucket < (w.raiseMemory fresh.weight).store.bucketCount := hb
  unfold World.keep
  rw [balance_file _ _ hb', balance_raiseMemory, Store.share_of_some hold, hold]
  simp only [Prices.ofRecord, Prices.ofDisplaced]
  omega

theorem balance_erase (old : Record) (known : w.store.record? bucket client = some old) :
    (w.erase bucket client).balance p = w.balance p + p.ofRecord old := by
  unfold World.balance Prices.ofStore
  change _ - (w.store.erase bucket client).total _ = _
  rw [Store.total_erase, Store.share_of_some known]
  change p.ofJournal w.journal - _ = _
  omega

end

/-! ## Every request balances -/

/-- Between two worlds the balance stayed, and buckets that are being written were left
alone. -/
def Settled (p : Prices) (w w' : World σ) : Prop := Frame w w' ∧ w'.balance p = w.balance p

theorem Settled.lasting (p : Prices) : Lasting (Settled (σ := σ) p) where
  refl w := ⟨Frame.lasting.refl w, rfl⟩
  trans h₁ h₂ := ⟨Frame.lasting.trans h₁.1 h₂.1, h₂.2.trans h₁.2⟩
  outside w own := ⟨Frame.lasting.outside w own, rfl⟩
  idle w m hm := by
    refine ⟨Frame.lasting.idle w m hm, ?_⟩
    rw [balance_note, p.ofMark_idle hm, add_zero]

section

open Operation

variable {p : Prices} {env : Collaborators σ} {serve : Server σ}

theorem dismissal_balance (hs : serve.Keeps (Settled p)) {bucket : Nat} {client : ClientId}
    {r : Record} {u : Unit} {w w' : World σ} (hb : bucket ∈ w.store.writing)
    (hlt : bucket < w.store.bucketCount)
    (known : w.store.record? bucket client = some r)
    (h : (dismiss env serve bucket client r).run w = some (u, w')) :
    w'.balance p = w.balance p := by
  obtain ⟨w₁, hg, rfl⟩ := dismiss_some h
  have hrel := release_keeps (Settled.lasting p) hs hg
  obtain ⟨-, -, hr⟩ := hrel.1.holds bucket client (by simpa using hb) (by simpa using hlt)
    (by simpa using known)
  rw [balance_note, balance_erase _ _ r (by simpa using hr), balance_lowerMemory, hrel.2,
    balance_givenBack, balance_recount, Prices.ofLive_false]
  simp only [Prices.ofRecord, Prices.ofMark]
  omega

theorem dismissals_balance (hs : serve.Keeps (Settled p)) {bucket : Nat} {now : Timestamp}
    {expired : List (ClientId × Record)} {u : Unit} {w w' : World σ}
    (hlt : bucket < w.store.bucketCount) (ended : w.store.expired bucket now = expired)
    (h : (expired.forM fun (client, r) => dismiss env serve bucket client r).run
      (w.enter bucket) = some (u, w')) : w'.balance p = w.balance p := by
  have hknown : ∀ x ∈ expired, (w.enter bucket).store.record? bucket x.1 = some x.2 := by
    intro x hx
    rw [← ended] at hx
    simpa using (Store.mem_expired.1 hx).1
  rw [← balance_enter p w bucket]
  refine dismissals_keep (P := fun v => v.balance p = (w.enter bucket).balance p)
    (hs.mono fun _ _ h => h.1) ?_ (ended ▸ w.store.nodup_expired bucket now) (by simp)
    (by simpa using hlt) hknown rfl h
  intro client r v v' hv hvlt known heq h
  exact (dismissal_balance hs hv hvlt known h).trans heq

theorem willOrNone_balance (hs : serve.Keeps (Settled p)) {s kept : Session} {sendWill : Bool}
    {w w' : World σ} (h : (willOrNone env serve s sendWill).run w = some (kept, w')) :
    Frame w w' ∧
      w'.balance p = w.balance p - (p.ofWill s.payloadId? - p.ofWill kept.payloadId?) := by
  rcases willOrNone_cases (Settled.lasting p) hs h with ⟨rfl, rfl⟩ | ⟨rfl, hrel⟩
  · exact ⟨Frame.lasting.refl w', by omega⟩
  · refine ⟨Frame.lasting.trans (Frame.givenBack w _) hrel.1, ?_⟩
    rw [hrel.2, balance_givenBack]
    change _ = _ - (_ - 0)
    omega

theorem dropDangling_balance (hs : serve.Keeps (Settled p)) {s away : Session} {w w' : World σ}
    (h : (dropDangling env serve s).run w = some (away, w')) :
    Frame w w' ∧
      w'.balance p = w.balance p - (p.ofWill s.payloadId? - p.ofWill away.payloadId?) := by
  rcases dropDangling_cases (Settled.lasting p) hs h with
    ⟨rfl, hrel⟩ | ⟨id, w₁, hid, rfl, hrel, rfl⟩
  · refine ⟨hrel.1, ?_⟩
    rw [hrel.2]
    omega
  · refine ⟨Frame.lasting.trans hrel.1 (Frame.note w₁ _), ?_⟩
    rw [balance_note, hrel.2, hid]
    change _ + -_ = _ - (p.will id - 0)
    omega

/-- What a request did to the balance is what its answer brings in. -/
theorem course_balance (hs : serve.Keeps (Settled p)) {q : Request} {w w' : World σ}
    {reply : q.Reply} (h : Course env serve q w reply w') :
    w'.balance p + p.ofMark (.answered q (refusalOf reply)) = w.balance p := by
  have hL := Settled.lasting (σ := σ) p
  cases h with
  | turnedAway =>
    cases q <;> exact add_zero _
  | @putNew client session stamp bucket _ door vacant =>
    have hb : bucket < w.store.bucketCount := (Store.open_of_objection rfl door).1
    rw [balance_leave, balance_keep_new _ _ (by simpa using hb) (by simpa using vacant),
      balance_recount, balance_enter]
    simp only [Entry.weighed, Session.payloadId?_withoutPayload, refusalOf, Prices.ofMark,
      Prices.ofLive_false]
    omega
  | @putOver client session stamp bucket old _ w₁ door known given =>
    have hb : bucket < w.store.bucketCount := (Store.open_of_objection rfl door).1
    have hrel := release_keeps hL hs given
    obtain ⟨-, hlt, hold⟩ := hrel.1.holds bucket client (by simp) (by simpa using hb)
      (by simpa using known)
    rw [balance_leave, balance_keep_over _ _ (by simpa using hlt) old (by simpa using hold),
      balance_recount, hrel.2, balance_givenBack, balance_lowerMemory, balance_enter]
    simp only [Entry.weighed, Session.payloadId?_withoutPayload, refusalOf, Prices.ofMark]
    omega
  | @strangerLeft client stamp sendWill bucket expiry _ door vacant =>
    have hb : bucket < w.store.bucketCount := (Store.open_of_objection rfl door).1
    rw [balance_leave, balance_keep_new _ _ (by simpa using hb) (by simpa using vacant),
      balance_recount, balance_enter]
    simp only [Entry.weighed, Prices.ofMark, Prices.ofLive_false]
    change _ - 0 + 0 = _
    omega
  | @clientLeft client stamp sendWill bucket expiry old kept away _ _ w₁ w₂ w₃ door known will
      checked resolved =>
    have hb : bucket < w.store.bucketCount := (Store.open_of_objection rfl door).1
    obtain ⟨hf₁, hbal₁⟩ := willOrNone_balance hs will
    obtain ⟨hf₂, hbal₂⟩ := dropDangling_balance hs checked
    obtain ⟨-, hlt, hold⟩ := (Frame.lasting.trans hf₁ hf₂).holds bucket client
      (by simp) (by simpa using hb) (by simpa using known)
    rw [balance_leave, (attachPayload_keeps hL hs resolved).2,
      balance_keep_over _ _ (by simpa using hlt) old (by simpa using hold), balance_recount,
      hbal₂, hbal₁, balance_lowerMemory, balance_enter]
    have hkept : ({ kept with connected := false, expiry := expiry.getD kept.expiry } :
        Session).payloadId? = kept.payloadId? := rfl
    simp only [Entry.weighed, Prices.ofMark, hkept]
    omega
  | @removedNone client bucket _ door =>
    rw [balance_leave, balance_enter]
    exact add_zero _
  | @removed client bucket old _ w₁ door known given =>
    have hrel := release_keeps hL hs given
    rw [balance_leave, balance_note, balance_lowerMemory, hrel.2, balance_givenBack,
      balance_recount, balance_erase _ _ old (by simpa using known), balance_enter]
    simp only [Prices.ofRecord, Prices.ofMark, Prices.ofLive_false]
    omega
  | @purged bucket expired _ w₁ w₂ door ended dismissed announced =>
    have hb : bucket < w.store.bucketCount := (Store.open_of_objection rfl door).1
    rw [balance_leave, (announcements_keep hL hs announced).2,
      dismissals_balance hs hb ended dismissed]
    exact add_zero _
  | @noSession client expiry bucket =>
    rw [balance_leave, balance_enter]
    exact add_zero _
  | @expirySet client expiry bucket old _ door known live =>
    have hb : bucket < w.store.bucketCount := (Store.open_of_objection rfl door).1
    rw [balance_leave, balance_keep_over _ _ (by simpa using hb)
      old (by simpa using known), balance_lowerMemory, balance_recount, balance_enter, live]
    have hid : ({ old.object with expiry } : Session).payloadId? = old.object.payloadId? := rfl
    simp only [Entry.weighed, Prices.ofMark, hid]
    omega
  | @willStays client bucket =>
    rw [balance_leave, balance_enter]
    exact add_zero _
  | @willCancelled client bucket old _ w₁ door known away given =>
    have hb : bucket < w.store.bucketCount := (Store.open_of_objection rfl door).1
    have hrel := release_keeps hL hs given
    obtain ⟨-, hlt, hold⟩ := hrel.1.holds bucket client (by simp) (by simpa using hb)
      (by simpa using known)
    rw [balance_leave, balance_keep_over _ _ hlt old hold, hrel.2, balance_givenBack,
      balance_lowerMemory, balance_enter]
    have hid : old.object.withoutWill.payloadId? = none := rfl
    simp only [Entry.weighed, Prices.ofMark, Session.isLive_withoutWill, hid, Prices.ofWill]
    omega
  | notFound => exact add_zero _
  | foundBare => exact add_zero _
  | foundWhole _ _ _ resolved =>
    rw [(attachPayload_keeps hL hs resolved).2]
    exact add_zero _

end

theorem attend_settled {p : Prices} {env : Collaborators σ} {serve : Server σ}
    (hs : serve.Keeps (Settled p)) : (attend env serve).Keeps (Settled p) := by
  intro q w reply w' h
  have hf := attend_frame (hs.mono fun _ _ h => h.1) q w reply w' h
  obtain ⟨w₁, hc, rfl⟩ := attend_course h
  refine ⟨hf, ?_⟩
  rw [balance_note, course_balance hs hc, balance_note]
  exact add_zero _

/-- Whatever the prices are, a request that is answered leaves the balance where it was. -/
theorem perform_settled (p : Prices) (env : Collaborators σ) (depth : Nat) :
    (perform env depth).Keeps (Settled p) :=
  perform_keeps (fun _ => attend_settled) depth

end BrokerSessions
