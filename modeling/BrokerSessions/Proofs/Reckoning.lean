-- What a request leaves behind it, all told. The counters follow from the records, so two stores
-- of runs that hold the same records are one and the same. Outside nothing happened but that a
-- reference was given back. Whoever compares two ways to one end compares records and references.
import BrokerSessions.Proofs.Counters
import BrokerSessions.Proofs.Departures

namespace BrokerSessions

variable {σ τ : Type}

/-! ## The records tell the store -/

namespace Reached

variable {env : Collaborators σ} {env' : Collaborators τ} {w : World σ} {v : World τ}

/-- A gauge shows what the records are worth, and wraps around where that does not fit. -/
theorem read_emod (h : Reached env w) (g : Gauge) :
    ((g.read w.store).toNat : ℤ) = g.price.ofStore w.store % 2 ^ 64 := by
  have hbalance : tally g w.journal - g.price.ofStore w.store = 0 := h.balance g.price
  rw [h.sound.shows g, sub_eq_zero.1 hbalance]

/-- Two runs that led to the same records led to the same store. -/
theorem store_eq (hw : Reached env w) (hv : Reached env' v)
    (hcount : v.store.bucketCount = w.store.bucketCount)
    (hdefault : v.store.defaultExpiry = w.store.defaultExpiry)
    (hwalk : v.store.walk = w.store.walk)
    (hrecords : ∀ i c, v.store.record? i c = w.store.record? i c) : v.store = w.store := by
  have hbuckets : v.store.buckets = w.store.buckets := Store.buckets_ext hcount hrecords
  have hread : ∀ g : Gauge, g.read v.store = g.read w.store := by
    intro g
    have hworth : g.price.ofStore v.store = g.price.ofStore w.store :=
      Store.total_of_buckets hbuckets _
    have hsame : ((g.read v.store).toNat : ℤ) = (g.read w.store).toNat := by
      rw [hv.read_emod g, hw.read_emod g, hworth]
    exact UInt64.toNat_inj.1 (Int.ofNat_inj.1 hsame)
  exact Store.mk.injEq .. |>.mpr ⟨hdefault, hbuckets, hread .sessions, hread .memory,
    hv.writing.trans hw.writing.symm, hwalk⟩

/-- Stored wills carry no bytes. -/
theorem bare (h : Reached env w) (henv : env.Passive) {i : Nat} {c : ClientId} {r : Record}
    (hr : w.store.record? i c = some r) : r.object.withoutPayload = r.object := by
  have hregistered := h.registered henv i c
  rw [hr] at hregistered
  exact hregistered.withoutPayload_eq

end Reached

/-! ## References that come back -/

/-- The reference that is given back when a request meets a record. A purge meets many. -/
def Request.returns : Request → Option Record → Option PayloadId
  | put .., r? => r?.bind fun old => old.object.payloadId?
  | disconnect _ _ sendWill _ _, r? =>
    if sendWill then none else r?.bind fun old => old.object.payloadId?
  | remove .., r? => r?.bind fun old => old.object.payloadId?
  | cancelWill .., r? =>
    r?.bind fun old => if old.object.connected then none else old.object.payloadId?
  | purge _, _ => none
  | setExpiry .., _ => none
  | find .., _ => none

theorem Store.will?_payloadId (s : Store) (bucket : Nat) (client : ClientId) :
    (s.will? bucket client).map Will.payloadId =
      (s.record? bucket client).bind fun r => r.object.payloadId? :=
  Option.map_bind ..

section

open Operation

variable {serve : Server Backdrop} {w w' : World Backdrop}

theorem GaveBack.inside {id? : Option PayloadId} {bucket : Nat}
    (h : GaveBack id? (w.enter bucket) w') : GaveBack id? w (w'.leave bucket) :=
  ((GaveBack.enter w bucket).butFirst h).andThen (.leave w' bucket)

theorem release_gaveBack {s : Session} {u : Unit}
    (h : (release .quiet serve s).run w = some (u, w')) : GaveBack s.payloadId? w w' := by
  have hleft : (willOrNone .quiet serve s false).run w = some (s.withoutWill, w') :=
    Act.bind_some.2 ⟨u, w', h, rfl⟩
  simpa using willOrNone_gaveBack hleft

/-- Who asks about one client has its reference given back, or none. -/
theorem course_gaveBack {q : Request} {client : ClientId} {reply : q.Reply}
    (hq : q.client? = some client) (h : Course .quiet serve q w reply w') :
    GaveBack (if w.store.objection q = none then q.returns (w.store.record? q.bucket client)
      else none) w w' := by
  have hkeep : ∀ (v : World Backdrop) (bucket : Nat) (c : ClientId) (fresh : Record)
      (before after : Bool), GaveBack none v ((v.recount before after).keep bucket c fresh) :=
    fun v bucket c fresh before after =>
      .of_ownWork ((OwnWork.recount v before after).trans (.keep _ bucket c fresh))
  have hlower : ∀ (v : World Backdrop) (n : UInt64), GaveBack none v (v.lowerMemory n) :=
    fun v n => .of_ownWork (.lowerMemory v n)
  cases h with
  | turnedAway hwhy =>
    rw [if_neg (by simp [hwhy])]
    exact .of_ownWork (.refl w)
  | putNew door vacant =>
    cases hq
    rw [if_pos door, Request.bucket, vacant]
    exact (hkeep _ _ _ _ _ _).inside
  | putOver door known given =>
    cases hq
    rw [if_pos door, Request.bucket, known]
    exact (((hlower _ _).butFirst (release_gaveBack given)).andThen (hkeep _ _ _ _ _ _)).inside
  | @strangerLeft client stamp sendWill bucket expiry _ door vacant =>
    cases hq
    have hc : Course .quiet serve (.disconnect client stamp sendWill bucket expiry) w _ _ :=
      .strangerLeft door vacant
    rw [if_pos door, Request.returns, ← Store.will?_payloadId]
    exact disconnect_gaveBack hc
  | @clientLeft client stamp sendWill bucket expiry _ _ _ _ _ _ _ _ door known will checked
      resolved =>
    cases hq
    have hc : Course .quiet serve (.disconnect client stamp sendWill bucket expiry) w _ _ :=
      .clientLeft door known will checked resolved
    rw [if_pos door, Request.returns, ← Store.will?_payloadId]
    exact disconnect_gaveBack hc
  | removedNone door vacant =>
    cases hq
    rw [if_pos door, Request.bucket, vacant]
    exact GaveBack.inside (.of_ownWork (.refl _))
  | @removed _ bucket old _ w₁ door known given =>
    cases hq
    have hbefore := (OwnWork.erase (w.enter bucket) bucket client).trans
      (.recount _ old.object.isLive false)
    have hafter := (OwnWork.lowerMemory w₁ old.weight).trans
      (.note _ (m := .forgotten bucket client old) rfl rfl)
    rw [if_pos door, Request.bucket, known]
    exact (((GaveBack.of_ownWork hbefore).butFirst (release_gaveBack given)).andThen
      (.of_ownWork hafter)).inside
  | purged => cases hq
  | noSession door =>
    rw [if_pos door]
    exact GaveBack.inside (.of_ownWork (.refl _))
  | expirySet door =>
    rw [if_pos door]
    exact GaveBack.inside (.of_ownWork
      (((OwnWork.recount _ _ _).trans (.lowerMemory _ _)).trans (.keep _ _ _ _)))
  | @willStays _ bucket _ door stays =>
    cases hq
    have hnone : (Request.cancelWill client bucket).returns (w.store.record? bucket client) =
        none := by
      cases known : w.store.record? bucket client with
      | none => rfl
      | some old => simp [Request.returns, stays old known]
    rw [if_pos door, Request.bucket, hnone]
    exact GaveBack.inside (.of_ownWork (.refl _))
  | @willCancelled _ bucket old _ w₁ door known away given =>
    cases hq
    have hback : (Request.cancelWill client bucket).returns (some old) = old.object.payloadId? := by
      simp [Request.returns, away]
    rw [if_pos door, Request.bucket, known, hback]
    exact (((hlower _ _).butFirst (release_gaveBack given)).andThen
      (.of_ownWork (.keep _ _ _ _))).inside
  | notFound door =>
    rw [if_pos door]
    exact .of_ownWork (.refl w)
  | foundBare door =>
    rw [if_pos door]
    exact .of_ownWork (.refl w)
  | foundWhole door _ _ resolved =>
    obtain ⟨x, hresolved, -⟩ := Act.bind_pure_some.1 resolved
    rw [if_pos door]
    exact .of_ownWork (resolve_ownWork hresolved)

/-- The same of a request from its call to its answer. -/
theorem perform_gaveBack {q : Request} {client : ClientId} {reply : q.Reply} {depth : Nat}
    (hq : q.client? = some client)
    (h : (perform .quiet (depth + 1) q).run w = some (reply, w')) :
    GaveBack (if w.store.objection q = none then q.returns (w.store.record? q.bucket client)
      else none) w w' := by
  obtain ⟨w₁, hc, rfl⟩ := Collaborators.passive_quiet.perform_course h
  exact ((GaveBack.note w rfl).butFirst (course_gaveBack hq hc)).andThen (.note w₁ rfl)

/-- Who asks about one client and is let in gets its answer, changes the record of the client, and
has a reference given back, or none. -/
theorem perform_granted {q : Request} {bucket : Nat} {client : ClientId}
    (hq : q.client? = some client) (hown : q.addresses bucket client = true)
    (hdoor : w.store.objection q = none) (depth : Nat) :
    ∃ v, (perform .quiet (depth + 1) q).run w = some ((Outlook.quiet.setting w).answer client q
        (w.store.record? bucket client), v) ∧
      Verdict .quiet q w ((Outlook.quiet.setting w).answer client q
        (w.store.record? bucket client)) v ∧
      v.store.record? bucket client =
        (Outlook.quiet.setting w).leaves q (w.store.record? bucket client) ∧
      GaveBack (q.returns (w.store.record? bucket client)) w v := by
  obtain ⟨reply, v, hrun, hverdict⟩ := Collaborators.impassive_quiet.perform_verdict depth q w
  obtain ⟨hrecord, hreply⟩ := hverdict.granted hdoor hown
  obtain ⟨-, rfl⟩ := Request.isAbout_of_addresses hown
  have hback := perform_gaveBack hq hrun
  rw [if_pos hdoor] at hback
  obtain rfl := hreply.eq (by simp [hq])
  exact ⟨v, hrun, hverdict, hrecord, hback⟩

end

end BrokerSessions
