-- Wills that nobody wants sent. A client may say so when it goes away, or give up its will
-- afterwards. Both leave the same store, and no reference more or less to any payload. Only the
-- number of references given back can tell the two apart, and only if the payload of the will was
-- gone before: who keeps a will at first loses such a one without giving anything back.
import BrokerSessions.Proofs.Reckoning

namespace BrokerSessions

/-! ## A will given up at once or afterwards -/

namespace Session

variable {s : Session}

theorem withoutWill_of_none (s : Session) (h : s.will = none) : s.withoutWill = s := by
  unfold withoutWill
  rw [← h]

/-- Whoever looks for the payload of a will touches nothing but the will. -/
theorem withoutWill_resolvedBy (bytes? : PayloadId → Option Bytes) (r : Resolution) :
    (s.resolvedBy bytes? r).1.withoutWill = s.withoutWill := by
  cases hid : s.awaited? with
  | none => rw [resolvedBy_of_none hid]
  | some id =>
    rw [resolvedBy_of_awaited hid]
    cases bytes? id with
    | none => rfl
    | some bytes => cases r <;> rfl

variable (hbare : s.withoutPayload = s)

include hbare

/-- Whoever went away with a will and gave it up then is as if it had gone away without. -/
theorem withoutWill_away (bytes? : PayloadId → Option Bytes) (expiry : Option Int64) :
    (s.away bytes? true expiry).withoutWill = s.away bytes? false expiry := by
  rw [away_eq hbare, away_eq hbare]
  simp [withoutWill]

theorem connected_away (bytes? : PayloadId → Option Bytes) (sendWill : Bool)
    (expiry : Option Int64) : (s.away bytes? sendWill expiry).connected = false := by
  rw [away_eq hbare]
  rfl

/-- A will that is to be sent stays if its payload is there. -/
theorem payloadId?_away (bytes? : PayloadId → Option Bytes) (expiry : Option Int64) :
    (s.away bytes? true expiry).payloadId? =
      s.payloadId?.filter fun id => (bytes? id).isSome := by
  rw [away_eq hbare, payloadId?, payloadId?, Option.filter_map]
  rfl

end Session

namespace Setting

variable (x : Setting) (client : ClientId) (stamp : Timestamp) (bucket : Nat)
  (expiry : Option Int64) {r? : Option Record}
  (hbare : ∀ r, r? = some r → r.object.withoutPayload = r.object)

include hbare

/-- Both ways leave the same record, -/
theorem leaves_cancelWill (hoff : x.stranger.connected = false) (hnone : x.stranger.will = none) :
    x.leaves (.cancelWill client bucket)
        (x.leaves (.disconnect client stamp true bucket expiry) r?) =
      x.leaves (.disconnect client stamp false bucket expiry) r? := by
  cases r? with
  | none =>
    simp only [leaves, Option.map_some, hoff, x.stranger.withoutWill_of_none hnone, Entry.weighed,
      Bool.false_eq_true, if_false]
  | some old =>
    have hold := hbare old rfl
    simp only [leaves, Option.map_some, Entry.weighed, Session.connected_away hold,
      Session.withoutWill_away hold, Bool.false_eq_true, if_false]

/-- and the sessions that are answered differ in the will alone. -/
theorem answer_disconnect (hnone : x.stranger.will = none) :
    ∃ left, x.answer client (.disconnect client stamp true bucket expiry) r? = .ok left ∧
      x.answer client (.disconnect client stamp false bucket expiry) r? = .ok left.withoutWill := by
  cases r? with
  | none => exact ⟨x.stranger, rfl, congrArg Except.ok (x.stranger.withoutWill_of_none hnone).symm⟩
  | some old =>
    have hold := hbare old rfl
    refine ⟨_, rfl, congrArg Except.ok ?_⟩
    have hnowill : (old.object.away x.bytes? false expiry).withoutPayload.will = none := by
      rw [← Session.withoutWill_away hold]
      rfl
    rw [Session.resolvedBy_willless hnowill, Session.withoutWill_resolvedBy,
      ← Session.withoutWill_away hold]
    rfl

/-- Who gives up the will afterwards gives back a reference to a payload that is there. -/
theorem returns_cancelWill (hoff : x.stranger.connected = false)
    (hnone : x.stranger.will = none) :
    (Request.cancelWill client bucket).returns
        (x.leaves (.disconnect client stamp true bucket expiry) r?) =
      (r?.bind fun old => old.object.payloadId?).filter fun id => (x.bytes? id).isSome := by
  cases r? with
  | none => simp [Request.returns, leaves, Entry.weighed, Session.payloadId?, hoff, hnone]
  | some old =>
    have hold := hbare old rfl
    simp [Request.returns, leaves, Entry.weighed, Session.connected_away hold,
      Session.payloadId?_away hold]

end Setting

/-! ## References that differ only in number -/

namespace PayloadLedger

/-- A reference to a payload that is gone can be given back, and no payload notices. -/
theorem references_release_of_gone {l : PayloadLedger} {id : PayloadId} (h : l.bytes? id = none)
    (k : PayloadId) : (l.release id).references k = l.references k := by
  rw [references_release, if_neg (by simp [h])]

theorem releases_release (l : PayloadLedger) (id : PayloadId) :
    (l.release id).releases = l.releases + 1 := rfl

end PayloadLedger

/-- The payload is gone that the stored will of a client names. -/
def World.HasLostWill (w : World Backdrop) (bucket : Nat) (client : ClientId) : Prop :=
  ∃ will, w.store.will? bucket client = some will ∧
    w.outside.ledger.bytes? will.payloadId = none

/-- What is left when a reference was given back to a will, and what is left when it was given
back only if the payload was there. -/
theorem GaveBack.references_agree {w v u : World Backdrop} {bucket : Nat} {client : ClientId}
    (hv : GaveBack ((w.store.will? bucket client).map Will.payloadId) w v)
    (hu : GaveBack (((w.store.will? bucket client).map Will.payloadId).filter
      fun id => (w.outside.ledger.bytes? id).isSome) w u) :
    (∀ id, u.outside.ledger.references id = v.outside.ledger.references id) ∧
      (¬ w.HasLostWill bucket client →
        u.outside.ledger.releases = v.outside.ledger.releases) ∧
      (w.HasLostWill bucket client →
        u.outside.ledger.releases = w.outside.ledger.releases ∧
          v.outside.ledger.releases = w.outside.ledger.releases + 1) := by
  unfold World.HasLostWill
  rw [hv.outside, hu.outside]
  cases w.store.will? bucket client with
  | none => simp
  | some will =>
    cases hbytes : w.outside.ledger.bytes? will.payloadId with
    | none =>
      simp [hbytes, Option.filter_some, PayloadLedger.references_release_of_gone,
        PayloadLedger.releases_release]
    | some bytes => simp [hbytes, Option.filter_some]

/-! ## Both ways -/

/-- A client that does not want its will sent may say so when it goes away, or it goes away with its
will and gives it up then. Both ways leave the same store and the same references to every payload,
and answer with the same session but for the will. As many references are given back on both, unless
the payload of the will is gone: then only the first way gives one back. -/
theorem waivers_agree {w : World Backdrop} (hw : Reached .quiet w) {bucket : Nat}
    (hlt : bucket < w.store.bucketCount) (client : ClientId) (stamp : Timestamp)
    (expiry : Option Int64) (depth : Nat) :
    ∃ (quit left : Session) (cancelled : Option Record) (v u₁ u : World Backdrop),
      (perform .quiet (depth + 1) (.disconnect client stamp false bucket expiry)).run w =
        some (.ok quit, v) ∧
      (perform .quiet (depth + 1) (.disconnect client stamp true bucket expiry)).run w =
        some (.ok left, u₁) ∧
      (perform .quiet (depth + 1) (.cancelWill client bucket)).run u₁ =
        some (.ok cancelled, u) ∧
      u.store = v.store ∧ quit = left.withoutWill ∧
      (∀ id, u.outside.ledger.references id = v.outside.ledger.references id) ∧
      (¬ w.HasLostWill bucket client →
        u.outside.ledger.releases = v.outside.ledger.releases) ∧
      (w.HasLostWill bucket client →
        u.outside.ledger.releases = w.outside.ledger.releases ∧
          v.outside.ledger.releases = w.outside.ledger.releases + 1) := by
  let x : Setting := Outlook.quiet.setting w
  have hbare : ∀ r, w.store.record? bucket client = some r →
      r.object.withoutPayload = r.object := fun r hr => hw.bare Collaborators.passive_quiet hr
  have hdoor : w.store.barrier bucket = none :=
    (w.store.barrier_eq_none_iff bucket).2 ⟨hlt, by simp [hw.writing]⟩
  have hown : decide (bucket = bucket ∧ client = client) = true := decide_eq_true ⟨rfl, rfl⟩
  obtain ⟨v, hv, hquit, hquitRecord, hquitBack⟩ :=
    perform_granted (q := .disconnect client stamp false bucket expiry) rfl hown hdoor depth
  obtain ⟨u₁, hu₁, hleft, hleftRecord, hleftBack⟩ :=
    perform_granted (q := .disconnect client stamp true bucket expiry) rfl hown hdoor depth
  have hdoor₁ : u₁.store.objection (.cancelWill client bucket) = none :=
    (congrFun hleft.peers.objection_eq _).trans hdoor
  obtain ⟨u, hu, hcancel, hcancelRecord, hcancelBack⟩ :=
    perform_granted (q := .cancelWill client bucket) rfl hown hdoor₁ depth
  have hpeers : Peers .quiet v u := hquit.peers.symm.trans (hleft.peers.trans hcancel.peers)
  rw [hleftRecord] at hcancelRecord hcancelBack
  -- What is left of the client is the same, and of the others neither way takes notice.
  have hrecords : ∀ i c, u.store.record? i c = v.store.record? i c := by
    intro i c
    by_cases hat : i = bucket ∧ c = client
    · rw [hat.1, hat.2, hcancelRecord, hleft.peers.setting_eq, hquitRecord]
      exact x.leaves_cancelWill client stamp bucket expiry hbare rfl rfl
    · have hother : decide (i = bucket ∧ c = client) = false := decide_eq_false hat
      rw [hcancel.spared hother, hleft.spared hother, hquit.spared hother]
  have hstore : u.store = v.store :=
    (hw.asked hv).store_eq ((hw.asked hu₁).asked hu) hpeers.count hpeers.defaultExpiry hpeers.walk
      hrecords
  obtain ⟨left, hleftAnswer, hquitAnswer⟩ :=
    x.answer_disconnect client stamp bucket expiry hbare rfl
  rw [hquitAnswer] at hv
  rw [hleftAnswer] at hu₁
  have hback : GaveBack ((w.store.will? bucket client).map Will.payloadId) w v := by
    rw [Store.will?_payloadId]
    exact hquitBack
  have hbackLater : GaveBack (((w.store.will? bucket client).map Will.payloadId).filter
      fun id => (w.outside.ledger.bytes? id).isSome) w u := by
    rw [Store.will?_payloadId]
    rw [Setting.returns_cancelWill x client stamp bucket expiry hbare rfl rfl] at hcancelBack
    exact hleftBack.butFirst hcancelBack
  exact ⟨left.withoutWill, left, _, v, u₁, u, hv, hu₁, hu, hstore, rfl,
    hback.references_agree hbackLater⟩

/-- There is a payload for the will of the first client, and its reference is given back both ways.
There is none for the will of the second, and only who wants no will sent gives a reference back. -/
theorem waivers_agree_farewellNotes :
    ∃ w, Reached .quiet w ∧ w.outside.ledger.releases = 0 ∧
      (∃ quit left cancelled v u₁ u,
        (perform .quiet 1 (.disconnect "a" ⟨2⟩ false 0 none)).run w = some (.ok quit, v) ∧
        (perform .quiet 1 (.disconnect "a" ⟨2⟩ true 0 none)).run w = some (.ok left, u₁) ∧
        (perform .quiet 1 (.cancelWill "a" 0)).run u₁ = some (.ok cancelled, u) ∧
        u.store = v.store ∧ u.outside.ledger.references 1 = 0 ∧
        v.outside.ledger.releases = 1 ∧ u.outside.ledger.releases = 1) ∧
      ∃ quit left cancelled v u₁ u,
        (perform .quiet 1 (.disconnect "b" ⟨2⟩ false 0 none)).run w = some (.ok quit, v) ∧
        (perform .quiet 1 (.disconnect "b" ⟨2⟩ true 0 none)).run w = some (.ok left, u₁) ∧
        (perform .quiet 1 (.cancelWill "b" 0)).run u₁ = some (.ok cancelled, u) ∧
        u.store = v.store ∧ v.outside.ledger.releases = 1 ∧ u.outside.ledger.releases = 0 := by
  let first : Will := { publication := { topic := "t" }, payloadId := 1 }
  let second : Will := { publication := { topic := "t" }, payloadId := 5 }
  have hend : ((converse .quiet 1 farewellNotes).run
      { store := { defaultExpiry := 9, buckets := Array.replicate 2 ∅ },
        outside := { ledger := (PayloadLedger.add {} [7]).2, clock := ⟨3⟩ } }).bind (fun (_, w) =>
          ((perform .quiet 1 (.disconnect "a" ⟨2⟩ false 0 none)).run w).map
            fun ((_, v) : Except Refusal Session × World Backdrop) =>
            [decide (w.store.will? 0 "a" = some first), decide (w.store.will? 0 "b" = some second),
              decide (w.outside.ledger.bytes? 1 = some [7]),
              decide (w.outside.ledger.bytes? 5 = none), decide (w.outside.ledger.releases = 0),
              decide (v.outside.ledger.references 1 = 0), decide (v.outside.ledger.releases = 1),
              decide (w.store.bucketCount = 2)]) =
      some [true, true, true, true, true, true, true, true] := by
    decide +kernel
  obtain ⟨⟨_, w⟩, hrun, hend⟩ := Option.bind_eq_some_iff.1 hend
  obtain ⟨⟨_, v⟩, hquit, hfacts⟩ := Option.map_eq_some_iff.1 hend
  obtain ⟨ha, hb, hbytes, hgone, hnone, hreferences, hreleases, hcount⟩ :
      w.store.will? 0 "a" = some first ∧ w.store.will? 0 "b" = some second ∧
        w.outside.ledger.bytes? 1 = some [7] ∧ w.outside.ledger.bytes? 5 = none ∧
        w.outside.ledger.releases = 0 ∧ v.outside.ledger.references 1 = 0 ∧
        v.outside.ledger.releases = 1 ∧ w.store.bucketCount = 2 := by
    simpa using hfacts
  have hreached : Reached .quiet w :=
    .conversed (.start _ (c := { bucketCount := 2, defaultExpiry := 9 }) rfl) hrun
  have hlt : 0 < w.store.bucketCount := by omega
  obtain ⟨quit, left, cancelled, v₁, u₁, u, hv₁, hu₁, hu, hstore, -, hsame, hkept, -⟩ :=
    waivers_agree hreached hlt "a" ⟨2⟩ none 0
  obtain ⟨quit', left', cancelled', v', u₁', u', hv', hu₁', hu', hstore', -, -, -, hlost⟩ :=
    waivers_agree hreached hlt "b" ⟨2⟩ none 0
  obtain rfl : v = v₁ := congrArg Prod.snd (Option.some.inj (hquit.symm.trans hv₁))
  have hthere : ¬ w.HasLostWill 0 "a" := by
    rintro ⟨will, hwill, hmissing⟩
    obtain rfl : first = will := Option.some.inj (ha.symm.trans hwill)
    cases hbytes.symm.trans hmissing
  obtain ⟨hleft, hquitted⟩ := hlost ⟨second, hb, hgone⟩
  exact ⟨w, hreached, hnone,
    ⟨quit, left, cancelled, v, u₁, u, hv₁, hu₁, hu, hstore, (hsame 1).trans hreferences, hreleases,
      (hkept hthere).trans hreleases⟩,
    quit', left', cancelled', v', u₁', u', hv', hu₁', hu', hstore', by rw [hquitted, hnone],
    hleft.trans hnone⟩

end BrokerSessions
