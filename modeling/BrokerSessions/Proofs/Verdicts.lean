-- What a request comes to. While nobody talks back, and those outside show the same whatever
-- they are told, the answer to a request about a client follows from the record of that client,
-- and so does the record that it leaves. All other records of the store are left alone, and
-- none of them has a say in it.
import BrokerSessions.Proofs.Delivery
import BrokerSessions.Proofs.Refusals

namespace BrokerSessions

variable {σ : Type}

/-! ## Collaborators that nothing moves -/

/-- What can be seen of those outside: the bytes of the payloads, and the time. There may be
more to a view than that, such as which id a payload store gives out next. -/
structure Outlook (σ : Type) where
  View : Type
  view : σ → View
  bytes? : View → PayloadId → Option Bytes
  now : View → Timestamp

/-- Collaborators that never ask. They hand out and tell what the view shows, and it stays as
it is whatever they are told. -/
structure Collaborators.Impassive (env : Collaborators σ) (o : Outlook σ) : Prop
    extends env.Passive where
  released : ∀ id s own, o.view ((env.release id).rebuffed s own).2 = o.view own
  fetched : ∀ id s own, ((env.fetch id).rebuffed s own).1 = o.bytes? (o.view own) id ∧
    o.view ((env.fetch id).rebuffed s own).2 = o.view own
  announced : ∀ instant client s own,
    o.view ((env.announce instant client).rebuffed s own).2 = o.view own
  clock : ∀ own, env.now own = o.now (o.view own)

/-- A ledger, whatever it counts, and a clock: the bytes of the payloads, the id that was given
out last, and the time. -/
def Outlook.quiet : Outlook Backdrop where
  View := (PayloadId → Option Bytes) × PayloadId × Timestamp
  view b := (b.ledger.bytes?, b.ledger.issued, b.clock)
  bytes? v := v.1
  now v := v.2.2

/-- A ledger only counts the references that are given back. A payload stays until it is
discarded. -/
theorem Collaborators.impassive_quiet : Collaborators.quiet.Impassive .quiet where
  toPassive := passive_quiet
  released id s own := by
    have hbytes : (own.ledger.release id).bytes? = own.ledger.bytes? := by
      funext k
      exact own.ledger.bytes?_release id k
    exact congrArg (fun bytes? => (bytes?, own.ledger.issued, own.clock)) hbytes
  fetched _ _ _ := ⟨rfl, rfl⟩
  announced _ _ _ _ := rfl
  clock _ := rfl

/-- Resolves a will against what is known of the payloads. -/
def Session.resolvedBy (s : Session) (bytes? : PayloadId → Option Bytes) (r : Resolution) :
    Session × Bool :=
  s.resolveM (m := Id) bytes? r

namespace Session

variable {s : Session}

theorem resolvedBy_of_none (h : s.awaited? = none) (bytes? : PayloadId → Option Bytes)
    (r : Resolution) : s.resolvedBy bytes? r = (s, true) := by
  unfold resolvedBy resolveM
  rw [h]
  rfl

/-- A will without bytes is as good as its payload. -/
theorem resolvedBy_of_awaited {id : PayloadId} (h : s.awaited? = some id)
    (bytes? : PayloadId → Option Bytes) (r : Resolution) :
    s.resolvedBy bytes? r =
      (bytes? id).elim (s.withoutWill, false) fun bytes => (r.found s bytes, true) := by
  unfold resolvedBy resolveM
  simp only [h, bind]
  cases bytes? id <;> rfl

end Session

namespace Collaborators.Impassive

open Operation

variable {env : Collaborators σ} {o : Outlook σ} {serve : Server σ} {w w' : World σ}
  (h : env.Impassive o)

include h

theorem release_view {s : Session} {u : Unit}
    (hr : (Operation.release env serve s).run w = some (u, w')) :
    o.view w'.outside = o.view w.outside := by
  unfold Operation.release at hr
  split at hr
  · rename_i id _
    simp only [Act.bind_some, Act.modify_some] at hr
    obtain ⟨_, _, rfl, hr⟩ := hr
    rw [(h.release id).run] at hr
    cases hr
    exact h.released id _ _
  · obtain ⟨_, rfl⟩ := Act.pure_some.1 hr
    rfl

theorem fetch_view {id : PayloadId} {bytes : Option Bytes}
    (hr : (Operation.fetch env serve id).run w = some (bytes, w')) :
    bytes = o.bytes? (o.view w.outside) id ∧ o.view w'.outside = o.view w.outside := by
  simp only [Operation.fetch, Act.bind_some, Act.modify_some] at hr
  obtain ⟨_, _, rfl, hr⟩ := hr
  rw [(h.fetch id).run] at hr
  cases hr
  exact h.fetched id _ _

theorem announcements_view {l : List (ClientId × Record)} {u : Unit}
    (hr : (l.forM fun (client, r) =>
      Operation.announce env serve (r.object.expiresAt r.stamp) client).run w = some (u, w')) :
    o.view w'.outside = o.view w.outside := by
  induction l generalizing w with
  | nil =>
    obtain ⟨_, rfl⟩ := Act.pure_some.1 hr
    rfl
  | cons x rest ih =>
    obtain ⟨w₁, h₁, h₂⟩ := forM_cons_some.1 hr
    simp only [Operation.announce, Act.bind_some, Act.modify_some] at h₁
    obtain ⟨_, _, rfl, h₁⟩ := h₁
    rw [(h.announce _ _).run] at h₁
    cases h₁
    exact (ih h₂).trans (h.announced _ _ _ _)

theorem dismissals_view {bucket : Nat} {l : List (ClientId × Record)} {u : Unit}
    (hr : (l.forM fun (client, r) => dismiss env serve bucket client r).run w = some (u, w')) :
    o.view w'.outside = o.view w.outside := by
  induction l generalizing w with
  | nil =>
    obtain ⟨_, rfl⟩ := Act.pure_some.1 hr
    rfl
  | cons x rest ih =>
    obtain ⟨w₁, h₁, h₂⟩ := forM_cons_some.1 hr
    obtain ⟨w₂, hg, rfl⟩ := dismiss_some h₁
    exact (ih h₂).trans ((h.release_view hg).trans (by rw [World.outside_recount]))

theorem resolve_view {s : Session} {r : Resolution} {x : Session × Bool}
    (hr : (s.resolveM (Operation.fetch env serve) r).run w = some (x, w')) :
    x = s.resolvedBy (o.bytes? (o.view w.outside)) r ∧ o.view w'.outside = o.view w.outside := by
  unfold Session.resolveM at hr
  cases hid : s.awaited? with
  | none =>
    rw [hid] at hr
    obtain ⟨rfl, rfl⟩ := Act.pure_some.1 hr
    exact ⟨(Session.resolvedBy_of_none hid _ r).symm, rfl⟩
  | some id =>
    rw [hid] at hr
    obtain ⟨bytes, w₁, hf, hr⟩ := Act.bind_some.1 hr
    obtain ⟨rfl, hview⟩ := h.fetch_view hf
    rw [Session.resolvedBy_of_awaited hid]
    cases hbytes : o.bytes? (o.view w.outside) id with
    | none =>
      rw [hbytes] at hr
      obtain ⟨rfl, rfl⟩ := Act.pure_some.1 hr
      exact ⟨rfl, hview⟩
    | some b =>
      rw [hbytes] at hr
      obtain ⟨rfl, rfl⟩ := Act.pure_some.1 hr
      exact ⟨rfl, hview⟩

theorem attachPayload_view {s s' : Session}
    (hr : (attachPayload env serve s).run w = some (s', w')) :
    s' = (s.resolvedBy (o.bytes? (o.view w.outside)) .attach).1 ∧
      o.view w'.outside = o.view w.outside := by
  obtain ⟨_, hresolved, rfl⟩ := Act.bind_pure_some.1 hr
  obtain ⟨rfl, hview⟩ := h.resolve_view hresolved
  exact ⟨rfl, hview⟩

theorem dropDangling_view {s away : Session}
    (hr : (dropDangling env serve s).run w = some (away, w')) :
    away = (s.resolvedBy (o.bytes? (o.view w.outside)) .check).1 ∧
      o.view w'.outside = o.view w.outside := by
  simp only [dropDangling, Act.bind_some, Act.pure_some] at hr
  obtain ⟨⟨kept, whole⟩, w₁, hr, _, v, hn, rfl, rfl⟩ := hr
  obtain ⟨hkept, hview⟩ := h.resolve_view hr
  refine ⟨congrArg Prod.fst hkept, ?_⟩
  rw [← hview]
  cases whole with
  | true =>
    obtain ⟨-, rfl⟩ := Act.pure_some.1 hn
    rfl
  | false =>
    rw [noteDangling, Act.modify_some] at hn
    rw [← hn]

theorem willOrNone_view {s kept : Session} {sendWill : Bool}
    (hr : (willOrNone env serve s sendWill).run w = some (kept, w')) :
    kept = (if sendWill then s else s.withoutWill) ∧ o.view w'.outside = o.view w.outside := by
  cases sendWill with
  | true =>
    obtain ⟨rfl, rfl⟩ := Act.pure_some.1 hr
    exact ⟨rfl, rfl⟩
  | false =>
    simp only [willOrNone, Act.bind_some, Act.pure_some] at hr
    obtain ⟨_, w₁, hr, rfl, rfl⟩ := hr
    exact ⟨rfl, h.release_view hr⟩

end Collaborators.Impassive

/-! ## What a request leaves, and what it answers -/

/-- The session of a client that goes away. A will that is not sent is lost, and so is one
whose payload is gone. -/
def Session.away (s : Session) (bytes? : PayloadId → Option Bytes) (sendWill : Bool)
    (expiry : Option Int64) : Session :=
  (((if sendWill then s else s.withoutWill).leaving expiry).resolvedBy bytes? .check).1

namespace Request

/-- The client that a request is about. A purge is about a whole bucket. -/
def client? : Request → Option ClientId
  | put c .. => some c
  | disconnect c .. => some c
  | remove c _ => some c
  | purge _ => none
  | setExpiry c .. => some c
  | cancelWill c _ => some c
  | find c .. => some c

/-- Whether a request is about a client, alone or among others. -/
def isAbout (client : ClientId) (q : Request) : Bool := q.client?.all fun c => c = client

/-- Two answers to a request are the same for a client. For those who ask about a client this
means that they are equal. A purge answers with the clients that it took away, and all that
one of them can tell is whether it was among them. -/
def SameFor (client : ClientId) : (q : Request) → q.Reply → q.Reply → Prop
  | purge _, a, b =>
    Except.map (fun gone : List ClientId => decide (client ∈ gone)) a =
      Except.map (fun gone : List ClientId => decide (client ∈ gone)) b
  | put .., a, b => a = b
  | disconnect .., a, b => a = b
  | remove .., a, b => a = b
  | setExpiry .., a, b => a = b
  | cancelWill .., a, b => a = b
  | find .., a, b => a = b

theorem SameFor.refl {q : Request} (client : ClientId) (a : q.Reply) : q.SameFor client a a := by
  cases q <;> rfl

theorem SameFor.symm {q : Request} {client : ClientId} {a b : q.Reply}
    (h : q.SameFor client a b) : q.SameFor client b a := by
  cases q <;> exact Eq.symm h

theorem SameFor.trans {q : Request} {client : ClientId} {a b d : q.Reply}
    (h₁ : q.SameFor client a b) (h₂ : q.SameFor client b d) : q.SameFor client a d := by
  cases q <;> exact Eq.trans h₁ h₂

/-- Who asks about one client can compare whole answers. -/
theorem SameFor.eq {q : Request} {client : ClientId} (hq : q.client? ≠ none) {a b : q.Reply}
    (h : q.SameFor client a b) : a = b := by
  cases q with
  | purge => exact absurd rfl hq
  | _ => exact h

/-- A refusal is the same for everybody. -/
theorem SameFor.eq_error {q : Request} {client : ClientId} {a : q.Reply} {why : Refusal}
    (h : q.SameFor client a (.error why)) : a = .error why := by
  cases q with
  | purge =>
    cases a with
    | error => exact congrArg Except.error (Except.error.inj h)
    | ok => cases h
  | _ => exact h

/-- A request that may change the record of a client is about the client. -/
theorem isAbout_of_addresses {q : Request} {i : Nat} {client : ClientId}
    (h : q.addresses i client = true) : q.isAbout client = true ∧ q.bucket = i := by
  cases q <;> simp_all [addresses, isAbout, client?, bucket]

end Request

/-- What a request depends on beside the record of its client: the bytes of the payloads, the
time, the session of a stranger, and who is turned away. -/
structure Setting where
  bytes? : PayloadId → Option Bytes
  now : Timestamp
  stranger : Session
  objection : Request → Option Refusal

/-- The setting in which a world answers. -/
def Outlook.setting (o : Outlook σ) (w : World σ) : Setting where
  bytes? := o.bytes? (o.view w.outside)
  now := o.now (o.view w.outside)
  stranger := w.store.stranger
  objection := w.store.objection

/-- Two worlds that no request can tell apart, unless by the records of the clients that it is
about. -/
structure Peers (o : Outlook σ) (w w' : World σ) : Prop where
  view : o.view w'.outside = o.view w.outside
  writing : w'.store.writing = w.store.writing
  count : w'.store.bucketCount = w.store.bucketCount
  defaultExpiry : w'.store.defaultExpiry = w.store.defaultExpiry
  walk : w'.store.walk = w.store.walk

namespace Peers

variable {o : Outlook σ} {w w' w'' : World σ}

theorem refl (w : World σ) : Peers o w w := ⟨rfl, rfl, rfl, rfl, rfl⟩

theorem symm (h : Peers o w w') : Peers o w' w :=
  ⟨h.view.symm, h.writing.symm, h.count.symm, h.defaultExpiry.symm, h.walk.symm⟩

theorem trans (h₁ : Peers o w w') (h₂ : Peers o w' w'') : Peers o w w'' :=
  ⟨h₂.view.trans h₁.view, h₂.writing.trans h₁.writing, h₂.count.trans h₁.count,
    h₂.defaultExpiry.trans h₁.defaultExpiry, h₂.walk.trans h₁.walk⟩

theorem of_frame (hframe : Frame w w') (hview : o.view w'.outside = o.view w.outside) :
    Peers o w w' :=
  ⟨hview, hframe.writing, hframe.count, hframe.defaultExpiry, hframe.walk⟩

theorem objection_eq (h : Peers o w w') : w'.store.objection = w.store.objection := by
  funext q
  unfold Store.objection Store.barrier Store.noSuchBucket
  rw [h.count, h.writing]

/-- Peers answer in the same setting. -/
theorem setting_eq (h : Peers o w w') : o.setting w' = o.setting w := by
  unfold Outlook.setting Store.stranger
  rw [h.view, h.defaultExpiry, h.objection_eq]

end Peers

namespace Setting

variable (x : Setting)

/-- What becomes of the record of a client that a request addresses. -/
def leaves : Request → Option Record → Option Record
  | .put _ session stamp _, _ => some (session.withoutPayload.keptAt stamp)
  | .disconnect _ stamp sendWill _ expiry, some old =>
    some ((old.object.away x.bytes? sendWill expiry).keptAt stamp)
  | .disconnect _ stamp _ _ _, none => some (x.stranger.keptAt stamp)
  | .remove _ _, _ => none
  | .purge _, r? => r?.filter fun r => !r.isExpiredAt x.now
  | .setExpiry _ expiry _, r? => r?.map fun old =>
    if old.object.isLive then { old.object with expiry }.keptAt x.now else old
  | .cancelWill _ _, r? => r?.map fun old =>
    if old.object.connected then old else old.object.withoutWill.keptAt old.stamp
  | .find .., r? => r?

/-- The answer to a request about a client. A purge answers for this one client only. -/
def answer (client : ClientId) : (q : Request) → Option Record → q.Reply
  | .put .., _ => .ok ()
  | .disconnect _ _ sendWill _ expiry, some old =>
    .ok ((old.object.away x.bytes? sendWill expiry).withoutPayload.resolvedBy x.bytes? .attach).1
  | .disconnect .., none => .ok x.stranger
  | .remove .., _ => .ok ()
  | .purge _, r? => .ok (if r?.any fun r => r.isExpiredAt x.now then [client] else [])
  | .setExpiry .., r? => if r?.any fun old => old.object.isLive then .ok () else .error .noSession
  | .cancelWill .., r? => .ok ((r?.filter fun old => !old.object.connected).map fun old =>
    { object := old.object.withoutWill.withoutPayload, stamp := old.stamp })
  | .find _ _ hideExpired withWill, r? =>
    .ok ((r?.filter fun r => !(hideExpired && r.isExpiredAt x.now)).map fun r =>
      if withWill then (r.object.withoutPayload.resolvedBy x.bytes? .attach).1
      else r.object.withoutPayload)

/-- What a request makes of a record. It changes none that it does not address, and none at
all if it is turned away. -/
def turns (q : Request) (i : Nat) (c : ClientId) (r? : Option Record) : Option Record :=
  if x.objection q = none ∧ q.addresses i c = true then x.leaves q r? else r?

/-- The answer to a request, as far as it is about a client. -/
def tells (client : ClientId) (q : Request) (r? : Option Record) : q.Reply :=
  match x.objection q with
  | some why => .error why
  | none => x.answer client q r?

end Setting

/-! ## The verdict on a request -/

/-- A request does as its setting tells, to each record by itself and in its answer. All else that
a request could depend on stays as it is. -/
structure Verdict (o : Outlook σ) (q : Request) (w : World σ) (reply : q.Reply) (w' : World σ) :
    Prop where
  peers : Peers o w w'
  records : ∀ i c, w'.store.record? i c = (o.setting w).turns q i c (w.store.record? i c)
  reply : ∀ c, q.isAbout c = true →
    q.SameFor c reply ((o.setting w).tells c q (w.store.record? q.bucket c))

namespace Fate

variable {s : Store} {now : Timestamp} {i : Nat} {c : ClientId} {q : Request}
  {refusal : Option Refusal} {r r' : Option Record}

theorem eq_of_spared (h : Fate s now i c q refusal r r') (hq : q.addresses i c = false) :
    r' = r := by
  cases h with
  | refused => rfl
  | spared => rfl
  | outlived => rfl
  | willStays => rfl
  | _ => simp [Request.addresses] at hq

/-- What becomes of a record that a request addresses follows from the record alone, unless a
known client goes away: whether its will is lost then depends on the payloads too. -/
theorem eq_leaves {x : Setting} (h : Fate s now i c q none r r') (hq : q.addresses i c = true)
    (hnow : x.now = now) (hstranger : x.stranger = s.stranger)
    (hleft : ∀ client stamp sendWill bucket expiry,
      q = .disconnect client stamp sendWill bucket expiry → r = none) :
    r' = x.leaves q r := by
  subst hnow
  cases h with
  | spared h =>
    rw [hq] at h
    cases h
  | put => rfl
  | strangerLeft => rw [← hstranger]; rfl
  | clientLeft => cases hleft _ _ _ _ _ rfl
  | removed => rfl
  | outlived h =>
    cases r with
    | none => rfl
    | some r => simp [Setting.leaves, Option.filter_some, h r rfl]
  | purged h => simp [Setting.leaves, Option.filter_some, h]
  | expirySet live => simp [Setting.leaves, live]
  | willStays h =>
    cases r with
    | none => rfl
    | some r => simp [Setting.leaves, h r rfl]
  | willCancelled away => simp [Setting.leaves, away]

end Fate

section

open Operation

variable {env : Collaborators σ} {o : Outlook σ} {serve : Server σ} {w w' : World σ}

/-- Whoever is let in gets its verdict from the fates of the records. -/
theorem Verdict.of_fates {q : Request} {reply : q.Reply} {now : Timestamp}
    (hdoor : w.store.objection q = none) (hframe : Frame w w')
    (hfate : ∀ i c, Fate w.store now i c q (refusalOf reply) (w.store.record? i c)
      (w'.store.record? i c))
    (hview : o.view w'.outside = o.view w.outside)
    (hleaves : ∀ i c, q.addresses i c = true →
      w'.store.record? i c = (o.setting w).leaves q (w.store.record? i c))
    (hreply : ∀ c, q.isAbout c = true →
      q.SameFor c reply ((o.setting w).answer c q (w.store.record? q.bucket c))) :
    Verdict o q w reply w' where
  peers := .of_frame hframe hview
  records i c := by
    cases haddress : q.addresses i c with
    | true => exact (hleaves i c haddress).trans (if_pos ⟨hdoor, haddress⟩).symm
    | false =>
      refine ((hfate i c).eq_of_spared haddress).trans (if_neg ?_).symm
      simp [haddress]
  reply c hc := by
    have hnone : (o.setting w).objection q = none := hdoor
    unfold Setting.tells
    rw [hnone]
    exact hreply c hc

/-- Whoever is turned away gets its verdict too. -/
theorem Verdict.of_objection {q : Request} {why : Refusal} (hwhy : w.store.objection q = some why) :
    Verdict o q w (.error why) ((w.note (.called q)).note (.answered q (some why))) where
  peers := ⟨rfl, rfl, rfl, rfl, rfl⟩
  records i c := (if_neg (by simp [Outlook.setting, hwhy])).symm
  reply c _ := by
    have hsome : (o.setting w).objection q = some why := hwhy
    unfold Setting.tells
    rw [hsome]
    exact .refl c _

namespace Verdict

variable {q : Request} {reply : q.Reply} {i : Nat} {c : ClientId}

/-- Whoever is let in changes the record that it addresses and gets its answer. -/
theorem granted (h : Verdict o q w reply w') (hdoor : w.store.objection q = none)
    (hq : q.addresses i c = true) :
    w'.store.record? i c = (o.setting w).leaves q (w.store.record? i c) ∧
      q.SameFor c reply ((o.setting w).answer c q (w.store.record? i c)) := by
  obtain ⟨habout, rfl⟩ := Request.isAbout_of_addresses hq
  have hreply := h.reply c habout
  have hnone : (o.setting w).objection q = none := hdoor
  rw [Setting.tells, hnone] at hreply
  exact ⟨(h.records _ c).trans (if_pos ⟨hnone, hq⟩), hreply⟩

/-- Others are left alone. -/
theorem spared (h : Verdict o q w reply w') (hq : q.addresses i c = false) :
    w'.store.record? i c = w.store.record? i c :=
  (h.records i c).trans (if_neg (by simp [hq]))

/-- Whoever is turned away changes nothing, and is told why. -/
theorem record?_of_objection (h : Verdict o q w reply w') {why : Refusal}
    (hdoor : w.store.objection q = some why) (i : Nat) (c : ClientId) :
    w'.store.record? i c = w.store.record? i c :=
  (h.records i c).trans (if_neg (by simp [Outlook.setting, hdoor]))

theorem reply_of_objection (h : Verdict o q w reply w') {why : Refusal}
    (hdoor : w.store.objection q = some why) (hq : q.addresses i c = true) :
    reply = .error why := by
  have hreply := h.reply c (Request.isAbout_of_addresses hq).1
  have hsome : (o.setting w).objection q = some why := hdoor
  rw [Setting.tells, hsome] at hreply
  exact hreply.eq_error

end Verdict

theorem Request.eq_of_isAbout {q : Request} {client c : ClientId} (hq : q.client? = some client)
    (h : q.isAbout c = true) : c = client := by
  simpa [isAbout, hq, eq_comm] using h

theorem Request.eq_of_addresses {q : Request} {client c : ClientId} {i : Nat}
    (hq : q.client? = some client) (h : q.addresses i c = true) : i = q.bucket ∧ c = client := by
  cases q <;> simp_all [addresses, client?, bucket]

namespace World

@[simp] theorem outside_enter (w : World σ) (bucket : Nat) :
    (w.enter bucket).outside = w.outside := rfl

@[simp] theorem outside_leave (w : World σ) (bucket : Nat) :
    (w.leave bucket).outside = w.outside := rfl

@[simp] theorem outside_lowerMemory (w : World σ) (n : UInt64) :
    (w.lowerMemory n).outside = w.outside := rfl

@[simp] theorem outside_keep (w : World σ) (bucket : Nat) (client : ClientId) (fresh : Record) :
    (w.keep bucket client fresh).outside = w.outside := rfl

end World

/-- A known client that goes away gets its verdict. -/
theorem clientLeft_verdict (h : env.Impassive o) (hs : serve.Keeps SameStore) {client : ClientId}
    {stamp : Timestamp} {sendWill : Bool} {bucket : Nat} {expiry : Option Int64} {old : Record}
    {kept away reply : Session} {w₁ w₂ w₃ : World σ}
    (door : w.store.objection (.disconnect client stamp sendWill bucket expiry) = none)
    (will : (willOrNone env serve old.object sendWill).run
      ((w.enter bucket).lowerMemory old.weight) = some (kept, w₁))
    (checked : (dropDangling env serve (kept.leaving expiry)).run w₁ = some (away, w₂))
    (resolved : (attachPayload env serve away.withoutPayload).run
      ((w₂.recount old.object.isLive away.isLive).keep bucket client (away.keptAt stamp)) =
        some (reply, w₃)) :
    o.view w₃.outside = o.view w.outside ∧
      (w₃.leave bucket).store.record? bucket client =
        some ((old.object.away (o.setting w).bytes? sendWill expiry).keptAt stamp) ∧
      reply = ((old.object.away (o.setting w).bytes? sendWill expiry).withoutPayload.resolvedBy
        (o.setting w).bytes? .attach).1 := by
  obtain ⟨rfl, hview₁⟩ := h.willOrNone_view will
  obtain ⟨haway, hview₂⟩ := h.dropDangling_view checked
  obtain ⟨hreply, hview₃⟩ := h.attachPayload_view resolved
  replace hview₁ : o.view w₁.outside = o.view w.outside := hview₁
  have hkeep : o.view ((w₂.recount old.object.isLive away.isLive).keep bucket client
      (away.keptAt stamp)).outside = o.view w.outside :=
    (congrArg o.view (World.outside_recount w₂ _ _)).trans (hview₂.trans hview₁)
  rw [hview₁] at haway
  rw [hkeep] at hreply hview₃
  replace haway : away = old.object.away (o.setting w).bytes? sendWill expiry := haway
  have hlt : bucket < w.store.bucketCount := (Store.open_of_objection rfl door).1
  have hstore₁ := willOrNone_sameStore hs will
  have hstore₂ := dropDangling_sameStore hs checked
  have hstore₃ := attachPayload_keeps SameStore.lasting hs resolved
  refine ⟨hview₃, ?_, by rw [hreply, haway]; rfl⟩
  rw [World.record?_leave, hstore₃, record?_kept (by simpa [hstore₂, hstore₁] using hlt),
    if_pos ⟨rfl, rfl⟩, haway]

/-- Every request that is let in gets its verdict. -/
theorem course_verdict (h : env.Impassive o) (hs : serve.Keeps SameStore) {q : Request}
    {reply : q.Reply} (hdoor : w.store.objection q = none) (hframe : Frame w w')
    (hc : Course env serve q w reply w') : Verdict o q w reply w' := by
  have hfate := course_fate hs hc
  have hnow : env.now w.outside = (o.setting w).now := h.clock w.outside
  rw [hnow] at hfate
  have hverdict := Verdict.of_fates (o := o) hdoor hframe hfate
  -- For those who ask about one client, the answer has to be the right one for that client.
  have hone : ∀ client, q.client? = some client →
      q.SameFor client reply ((o.setting w).answer client q (w.store.record? q.bucket client)) →
        ∀ c, q.isAbout c = true →
          q.SameFor c reply ((o.setting w).answer c q (w.store.record? q.bucket c)) := by
    intro client hclient hreply c hc
    rwa [Request.eq_of_isAbout hclient hc]
  cases hc with
  | turnedAway hwhy =>
    rw [hdoor] at hwhy
    cases hwhy
  | @putNew client session stamp bucket _ door vacant =>
    exact hverdict (by simp)
      (fun i c hq => (hfate i c).eq_leaves hq rfl rfl (by rintro _ _ _ _ _ ⟨⟩)) fun c _ => rfl
  | @putOver client session stamp bucket old _ w₁ door known given =>
    have hback := h.release_view given
    exact hverdict (by simpa using hback)
      (fun i c hq => (hfate i c).eq_leaves hq rfl rfl (by rintro _ _ _ _ _ ⟨⟩)) fun c _ => rfl
  | @strangerLeft client stamp sendWill bucket expiry _ door vacant =>
    refine hverdict (by simp)
      (fun i c hq => (hfate i c).eq_leaves hq rfl rfl ?_) (hone client rfl ?_)
    · rintro _ _ _ _ _ -
      obtain ⟨rfl, rfl⟩ := Request.eq_of_addresses rfl hq
      exact vacant
    · change _ = (o.setting w).answer client _ (w.store.record? bucket client)
      rw [vacant]
      rfl
  | @clientLeft client stamp sendWill bucket expiry old kept away _ _ w₁ w₂ w₃ door known will
      checked resolved =>
    obtain ⟨hview, hrecord, rfl⟩ := clientLeft_verdict h hs door will checked resolved
    refine hverdict hview (fun i c hq => ?_) (hone client rfl ?_)
    · obtain ⟨rfl, rfl⟩ := Request.eq_of_addresses rfl hq
      rw [known]
      exact hrecord
    · change _ = (o.setting w).answer client _ (w.store.record? bucket client)
      rw [known]
      rfl
  | @removedNone client bucket _ door vacant =>
    exact hverdict rfl (fun i c hq => (hfate i c).eq_leaves hq rfl rfl (by rintro _ _ _ _ _ ⟨⟩))
      fun c _ => rfl
  | @removed client bucket old _ w₁ door known given =>
    have hback := h.release_view given
    exact hverdict (hback.trans (by simp [World.erase]))
      (fun i c hq => (hfate i c).eq_leaves hq rfl rfl (by rintro _ _ _ _ _ ⟨⟩)) fun c _ => rfl
  | @purged bucket expired _ w₁ w₂ door ended dismissed announced =>
    have hgone := h.dismissals_view dismissed
    refine hverdict ((h.announcements_view announced).trans hgone)
      (fun i c hq => (hfate i c).eq_leaves hq rfl rfl (by rintro _ _ _ _ _ ⟨⟩)) fun c _ => ?_
    refine congrArg Except.ok (decide_eq_decide.2 ?_)
    rw [← ended, hnow, Store.mem_expired_clients, ← Option.any_eq_true]
    change _ ↔ c ∈ if (w.store.record? bucket c).any (fun r => r.isExpiredAt (o.setting w).now)
      then [c] else []
    split
    · simp [*]
    · simp [*]
  | @noSession client expiry bucket _ door hnone =>
    have hlive : ∀ old, w.store.record? bucket client = some old → old.object.isLive = false :=
      fun old known => by simpa [Session.isTombstone] using hnone old known
    refine hverdict rfl (fun i c hq => ?_) (hone client rfl ?_)
    · obtain ⟨rfl, rfl⟩ := Request.eq_of_addresses rfl hq
      change w.store.record? i c = (w.store.record? i c).map _
      cases known : w.store.record? i c with
      | none => rfl
      | some old => simp [hlive old known]
    · change _ = (o.setting w).answer client _ (w.store.record? bucket client)
      cases known : w.store.record? bucket client with
      | none => rfl
      | some old => simp [Setting.answer, hlive old known]
  | @expirySet client expiry bucket old _ door known live =>
    refine hverdict (by simp)
      (fun i c hq => (hfate i c).eq_leaves hq rfl rfl (by rintro _ _ _ _ _ ⟨⟩)) (hone client rfl ?_)
    change _ = (o.setting w).answer client _ (w.store.record? bucket client)
    rw [known]
    simp [Setting.answer, live]
  | @willStays client bucket _ door stays =>
    refine hverdict rfl (fun i c hq => (hfate i c).eq_leaves hq rfl rfl (by rintro _ _ _ _ _ ⟨⟩))
      (hone client rfl ?_)
    change _ = (o.setting w).answer client _ (w.store.record? bucket client)
    cases known : w.store.record? bucket client with
    | none => rfl
    | some old => simp [Setting.answer, Option.filter_some, stays old known]
  | @willCancelled client bucket old _ w₁ door known away given =>
    have hback := h.release_view given
    refine hverdict hback (fun i c hq => (hfate i c).eq_leaves hq rfl rfl (by rintro _ _ _ _ _ ⟨⟩))
      (hone client rfl ?_)
    change _ = (o.setting w).answer client _ (w.store.record? bucket client)
    rw [known]
    simp [Setting.answer, Option.filter_some, away]
  | @notFound client bucket hideExpired withWill _ door hidden =>
    refine hverdict rfl (by rintro _ _ ⟨⟩) (hone client rfl ?_)
    change _ = (o.setting w).answer client _ (w.store.record? bucket client)
    rw [hnow] at hidden
    cases known : w.store.record? bucket client with
    | none => rfl
    | some r => simp only [Setting.answer, Option.filter_some, hidden r known]; rfl
  | @foundBare client bucket hideExpired r _ door known shown =>
    refine hverdict rfl (by rintro _ _ ⟨⟩) (hone client rfl ?_)
    change _ = (o.setting w).answer client _ (w.store.record? bucket client)
    rw [hnow] at shown
    simp only [Setting.answer, Option.filter_some, known, shown]
    rfl
  | @foundWhole client bucket hideExpired r _ _ _ door known shown resolved =>
    obtain ⟨rfl, hview⟩ := h.attachPayload_view resolved
    refine hverdict hview (by rintro _ _ ⟨⟩) (hone client rfl ?_)
    change _ = (o.setting w).answer client _ (w.store.record? bucket client)
    rw [hnow] at shown
    simp only [Setting.answer, Option.filter_some, known, shown]
    rfl

/-- Every request is answered, and it gets its verdict. -/
theorem Collaborators.Impassive.perform_verdict (h : env.Impassive o) (depth : Nat) (q : Request)
    (w : World σ) :
    ∃ reply w', (perform env (depth + 1) q).run w = some (reply, w') ∧
      Verdict o q w reply w' := by
  cases hdoor : w.store.objection q with
  | some why => exact ⟨_, _, perform_turnedAway hdoor depth, .of_objection hdoor⟩
  | none =>
    obtain ⟨reply, w₁, hc, hr⟩ := h.perform_runs depth q w
    have hframe : Frame (w.note (.called q)) w₁ := course_frame (perform_zero_keeps env _) hc
    have hverdict := course_verdict h (perform_zero_keeps env _) (w := w.note (.called q)) hdoor
      hframe hc
    refine ⟨reply, _, hr, ⟨?_, hverdict.records, hverdict.reply⟩⟩
    have hpeers := hverdict.peers
    exact ⟨hpeers.view, hpeers.writing, hpeers.count, hpeers.defaultExpiry, hpeers.walk⟩

end

end BrokerSessions
