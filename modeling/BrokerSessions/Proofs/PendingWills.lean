-- The wills that wait to be published, told by what was asked. A will waits from the put that
-- brought it until something costs its client the will, and for as long as the client is away.
-- What happens to its payload meanwhile makes no difference, unless a disconnect finds it gone.
import BrokerSessions.Proofs.Departures

namespace BrokerSessions

variable {σ : Type}

/-! ## Chronicles -/

/-- A request that was answered, with the payloads that could be seen when it was asked. -/
structure Deed where
  q : Request
  reply : q.Reply
  bytes? : PayloadId → Option Bytes

/-- All that was asked since the start, the latest first. Anything may happen outside the store
in between. -/
inductive Chronicle (env : Collaborators σ) (o : Outlook σ) : List Deed → World σ → Prop where
  | start {c : Config} {walk : Walk} {s : Store} (own : σ) (h : Store.ofConfig c walk = .ok s) :
      Chronicle env o [] { store := s, outside := own }
  | meanwhile {l : List Deed} {w : World σ} (before : Chronicle env o l w) (own : σ) :
      Chronicle env o l { w with outside := own }
  | asked {l : List Deed} {w w' : World σ} {depth : Nat} {q : Request} {reply : q.Reply}
      (before : Chronicle env o l w) (h : (perform env depth q).run w = some (reply, w')) :
      Chronicle env o (⟨q, reply, o.bytes? (o.view w.outside)⟩ :: l) w'

section

variable {env : Collaborators σ} {o : Outlook σ} {l : List Deed} {w : World σ}

theorem Chronicle.reached (h : Chronicle env o l w) : Reached env w := by
  induction h with
  | start own h => exact .start own h
  | @meanwhile _ v _ own ih =>
    have hrun : (converse env 0 (Dialogue.keep own (.done ()))).run v =
        some ((), { v with outside := own }) := rfl
    exact ih.conversed hrun
  | asked _ h ih => exact ih.asked h

/-- Every run has its chronicle. -/
theorem Reached.chronicle (h : Reached env w) : ∃ l, Chronicle env o l w := by
  have hR : Chatty fun v v' : World σ => (∃ l, Chronicle env o l v) → ∃ l, Chronicle env o l v' :=
    ⟨fun _ => id, fun h₁ h₂ h => h₂ (h₁ h), fun _ own ⟨l, h⟩ => ⟨l, h.meanwhile own⟩⟩
  obtain ⟨c, walk, s, own, hc, hstep⟩ := h.since hR fun depth q v reply v' hr ⟨l, hl⟩ => ⟨_, hl.asked hr⟩
  exact hstep ⟨[], .start own hc⟩

end

/-! ## What a request does to the will of a client -/

namespace Deed

variable (b : Nat) (c : ClientId)

/-- The session that was put for a client. -/
def puts? : Deed → Option Session
  | ⟨.put client session _ bucket, .ok _, _⟩ =>
    if b = bucket ∧ c = client then some session else none
  | _ => none

/-- The interval that a client brought when it disconnected, or that was set for it. -/
def sets? : Deed → Option Int64
  | ⟨.disconnect client _ _ bucket expiry, .ok _, _⟩ =>
    if b = bucket ∧ c = client then expiry else none
  | ⟨.setExpiry client expiry bucket, .ok _, _⟩ =>
    if b = bucket ∧ c = client then some expiry else none
  | _ => none

/-- Whether a client lost a will that names the payload `id`: nobody wanted it sent or its payload
was gone when the client disconnected, it was cancelled while the client was away, or the client
was forgotten. -/
def costs (id : PayloadId) : Deed → Bool
  | ⟨.disconnect client _ sendWill bucket _, .ok _, bytes?⟩ =>
    (b = bucket ∧ c = client) && (!sendWill || (bytes? id).isNone)
  | ⟨.cancelWill client bucket, .ok (some _), _⟩ => b = bucket ∧ c = client
  | ⟨.remove client bucket, .ok _, _⟩ => b = bucket ∧ c = client
  | ⟨.purge bucket, .ok gone, _⟩ => b = bucket ∧ List.contains gone c
  | _ => false

/-- What a request makes of the will of a client and of the interval beside it. -/
def turns (d : Deed) (x? : Option (Will × Int64)) : Option (Will × Int64) :=
  match d.puts? b c with
  | some session => session.will.map fun will => (will.withoutPayload, session.expiry)
  | none => (x?.filter fun x => !d.costs b c x.1.payloadId).map fun x =>
    (x.1, (d.sets? b c).getD x.2)

variable {b c} {x? : Option (Will × Int64)}

/-- A will that nothing costs its client stays, and the interval may be another one. -/
theorem turns_of_kept {d : Deed} (hputs : d.puts? b c = none)
    (hcosts : ∀ id, d.costs b c id = false) :
    d.turns b c x? = x?.map fun x => (x.1, (d.sets? b c).getD x.2) := by
  unfold turns
  rw [hputs]
  cases x? <;> simp [hcosts, Option.filter_some]

theorem turns_of_idle {d : Deed} (hputs : d.puts? b c = none)
    (hcosts : ∀ id, d.costs b c id = false) (hsets : d.sets? b c = none) : d.turns b c x? = x? := by
  rw [turns_of_kept hputs hcosts, hsets]
  exact Option.map_id'

theorem turns_of_costly {d : Deed} (hputs : d.puts? b c = none)
    (hcosts : ∀ id, d.costs b c id = true) : d.turns b c x? = none := by
  unfold turns
  rw [hputs]
  cases x? <;> simp [hcosts, Option.filter_some]

theorem turns_of_refused (q : Request) (why : Refusal) (bytes? : PayloadId → Option Bytes) :
    (⟨q, .error why, bytes?⟩ : Deed).turns b c x? = x? := by
  cases q <;> exact turns_of_idle rfl (fun _ => rfl) rfl

/-- What is asked about others makes nothing of it. -/
theorem turns_of_spared {q : Request} (h : q.addresses b c = false) (reply : q.Reply)
    (bytes? : PayloadId → Option Bytes) : (⟨q, reply, bytes?⟩ : Deed).turns b c x? = x? := by
  cases reply with
  | error why => exact turns_of_refused q why bytes?
  | ok result =>
    cases q with
    | put => exact turns_of_idle (if_neg (of_decide_eq_false h)) (fun _ => rfl) rfl
    | disconnect =>
      refine turns_of_idle rfl (fun _ => ?_) (if_neg (of_decide_eq_false h))
      exact (congrArg (· && _) h).trans (Bool.false_and _)
    | remove => exact turns_of_idle rfl (fun _ => h) rfl
    | purge bucket =>
      have hne : ¬ b = bucket := of_decide_eq_false h
      exact turns_of_idle rfl (fun _ => decide_eq_false fun hgone => hne hgone.1) rfl
    | setExpiry => exact turns_of_idle rfl (fun _ => rfl) (if_neg (of_decide_eq_false h))
    | cancelWill =>
      cases result with
      | none => exact turns_of_idle rfl (fun _ => rfl) rfl
      | some => exact turns_of_idle rfl (fun _ => h) rfl
    | find => exact turns_of_idle rfl (fun _ => rfl) rfl

end Deed

/-- The will of a record, and its interval. -/
def Entry.standing? (r : Record) : Option (Will × Int64) :=
  r.object.will.map fun will => (will, r.object.expiry)

section

variable {x : Setting} {b : Nat} {c : ClientId} {old r : Record}

/-- A client that goes away keeps its will unless that costs it the will. -/
theorem standing_away (hbare : old.object.withoutPayload = old.object) {stamp : Timestamp}
    {sendWill : Bool} {expiry : Option Int64} {reply : Session} :
    ((old.object.away x.bytes? sendWill expiry).keptAt stamp).standing? =
      (⟨.disconnect c stamp sendWill b expiry, .ok reply, x.bytes?⟩ : Deed).turns b c
        old.standing? := by
  have hsets : (⟨.disconnect c stamp sendWill b expiry, .ok reply, x.bytes?⟩ : Deed).sets? b c =
      expiry := if_pos ⟨rfl, rfl⟩
  unfold Entry.standing? Deed.turns
  rw [hsets]
  change (old.object.away x.bytes? sendWill expiry).will.map _ = _
  rw [Session.away_eq hbare]
  cases hw : old.object.will with
  | none => rfl
  | some will =>
    cases sendWill <;> cases hb : x.bytes? will.payloadId <;>
      simp [Deed.puts?, Deed.costs, Session.leaving, Entry.weighed, Option.filter_some, hb]

theorem standing_put (session : Session) (stamp : Timestamp) (x? : Option (Will × Int64)) :
    (session.withoutPayload.keptAt stamp).standing? =
      (⟨.put c session stamp b, .ok (), x.bytes?⟩ : Deed).turns b c x? := by
  have hputs : (⟨.put c session stamp b, .ok (), x.bytes?⟩ : Deed).puts? b c = some session :=
    if_pos ⟨rfl, rfl⟩
  unfold Deed.turns
  rw [hputs]
  exact Option.map_map ..

theorem standing_purge {r? : Option Record} {gone : List ClientId}
    (hgone : decide (c ∈ gone) = r?.any fun r => r.isExpiredAt x.now) :
    (r?.filter fun r => !r.isExpiredAt x.now).bind Entry.standing? =
      (⟨.purge b, .ok gone, x.bytes?⟩ : Deed).turns b c (r?.bind Entry.standing?) := by
  have hcosts : ∀ id, (⟨.purge b, .ok gone, x.bytes?⟩ : Deed).costs b c id =
      r?.any fun r => r.isExpiredAt x.now := by
    intro id
    rw [← hgone]
    simp [Deed.costs]
  cases r? with
  | none => rw [Deed.turns_of_idle rfl hcosts rfl]; rfl
  | some old =>
    cases hover : old.isExpiredAt x.now with
    | true =>
      rw [Deed.turns_of_costly rfl fun id => (hcosts id).trans hover]
      simp [hover]
    | false =>
      rw [Deed.turns_of_idle rfl (fun id => (hcosts id).trans hover) rfl]
      simp [Option.filter_some, hover]

theorem standing_setExpiry {expiry : Int64} {r? : Option Record} :
    (x.leaves (.setExpiry c expiry b) r?).bind Entry.standing? =
      (⟨.setExpiry c expiry b, x.answer c (.setExpiry c expiry b) r?, x.bytes?⟩ : Deed).turns b c
        (r?.bind Entry.standing?) := by
  cases r? with
  | none => exact Eq.symm (Deed.turns_of_refused ..)
  | some old =>
    cases hlive : old.object.isLive with
    | true =>
      have hleaves : x.leaves (.setExpiry c expiry b) (some old) =
          some ({ old.object with expiry }.keptAt x.now) := by
        simp [Setting.leaves, hlive]
      have hanswer : x.answer c (.setExpiry c expiry b) (some old) = .ok () := by
        simp [Setting.answer, hlive]
      have hsets : (⟨.setExpiry c expiry b, .ok (), x.bytes?⟩ : Deed).sets? b c = some expiry :=
        if_pos ⟨rfl, rfl⟩
      rw [hleaves, hanswer, Deed.turns_of_kept rfl fun _ => rfl, hsets]
      cases hw : old.object.will <;> simp [Entry.standing?, Entry.weighed, hw]
    | false =>
      have hleaves : x.leaves (.setExpiry c expiry b) (some old) = some old := by
        simp [Setting.leaves, hlive]
      have hanswer : x.answer c (.setExpiry c expiry b) (some old) = .error .noSession := by
        simp [Setting.answer, hlive]
      rw [hleaves, hanswer]
      exact Eq.symm (Deed.turns_of_refused ..)

theorem standing_cancelWill {r? : Option Record} :
    (x.leaves (.cancelWill c b) r?).bind Entry.standing? =
      (⟨.cancelWill c b, x.answer c (.cancelWill c b) r?, x.bytes?⟩ : Deed).turns b c
        (r?.bind Entry.standing?) := by
  cases r? with
  | none => exact Eq.symm (Deed.turns_of_idle rfl (fun _ => rfl) rfl)
  | some old =>
    cases hcon : old.object.connected with
    | true =>
      have hleaves : x.leaves (.cancelWill c b) (some old) = some old := by
        simp [Setting.leaves, hcon]
      have hanswer : x.answer c (.cancelWill c b) (some old) = .ok none := by
        simp [Setting.answer, Option.filter_some, hcon]
      rw [hleaves, hanswer]
      exact Eq.symm (Deed.turns_of_idle rfl (fun _ => rfl) rfl)
    | false =>
      have hleaves : x.leaves (.cancelWill c b) (some old) =
          some (old.object.withoutWill.keptAt old.stamp) := by
        simp [Setting.leaves, hcon]
      have hanswer : x.answer c (.cancelWill c b) (some old) =
          .ok (some { object := old.object.withoutWill.withoutPayload, stamp := old.stamp }) := by
        simp [Setting.answer, Option.filter_some, hcon]
      rw [hleaves, hanswer]
      exact Eq.symm (Deed.turns_of_costly rfl fun _ => decide_eq_true ⟨rfl, rfl⟩)

/-- A request makes of the will that is stored what its answer tells. -/
theorem Setting.leaves_standing (hstranger : x.stranger.will = none) {q : Request}
    (hq : q.addresses b c = true) {r? : Option Record}
    (hbare : ∀ r, r? = some r → r.object.withoutPayload = r.object) {reply : q.Reply}
    (hreply : q.SameFor c reply (x.answer c q r?)) :
    (x.leaves q r?).bind Entry.standing? =
      (⟨q, reply, x.bytes?⟩ : Deed).turns b c (r?.bind Entry.standing?) := by
  cases q with
  | put client session stamp bucket =>
    obtain ⟨rfl, rfl⟩ : b = bucket ∧ c = client := of_decide_eq_true hq
    obtain rfl := hreply
    exact standing_put session stamp _
  | disconnect client stamp sendWill bucket expiry =>
    obtain ⟨rfl, rfl⟩ : b = bucket ∧ c = client := of_decide_eq_true hq
    obtain rfl := hreply
    cases r? with
    | none =>
      change x.stranger.will.map _ = none
      rw [hstranger]
      rfl
    | some old => exact standing_away (hbare old rfl)
  | remove client bucket =>
    obtain rfl := hreply
    exact Eq.symm (Deed.turns_of_costly rfl fun _ => hq)
  | purge bucket =>
    obtain rfl : b = bucket := of_decide_eq_true hq
    cases reply with
    | error why =>
      have hgone : Except.error why = Except.ok _ := hreply
      cases hgone
    | ok gone =>
      refine standing_purge ((Except.ok.inj hreply).trans ?_)
      cases r?.any fun r => r.isExpiredAt x.now <;> simp
  | setExpiry client expiry bucket =>
    obtain ⟨rfl, rfl⟩ : b = bucket ∧ c = client := of_decide_eq_true hq
    obtain rfl := hreply
    exact standing_setExpiry
  | cancelWill client bucket =>
    obtain ⟨rfl, rfl⟩ : b = bucket ∧ c = client := of_decide_eq_true hq
    obtain rfl := hreply
    exact standing_cancelWill
  | find => cases hq

end

/-! ## What a chronicle tells -/

/-- The will of a client and the interval beside it, as a chronicle tells. -/
def standing (b : Nat) (c : ClientId) : List Deed → Option (Will × Int64)
  | [] => none
  | d :: before => d.turns b c (standing b c before)

/-- The last put of a client brought a will, and nothing that was asked since has cost the client
this will. The interval is the one that was written last, with the put or since then. -/
def LastWill (b : Nat) (c : ClientId) (l : List Deed) (will : Will) (interval : Int64) : Prop :=
  ∃ since put before session, l = since ++ put :: before ∧
    put.puts? b c = some session ∧ session.will = some will ∧
    (∀ d ∈ since, d.puts? b c = none ∧ d.costs b c will.payloadId = false) ∧
    interval = (since.findSome? fun d => d.sets? b c).getD session.expiry

section

variable {b : Nat} {c : ClientId}

theorem LastWill.cons_iff {d : Deed} {l : List Deed} {will : Will} {interval : Int64} :
    LastWill b c (d :: l) will interval ↔
      (∃ session, d.puts? b c = some session ∧ session.will = some will ∧
        interval = session.expiry) ∨
      (d.puts? b c = none ∧ d.costs b c will.payloadId = false ∧
        ∃ n, LastWill b c l will n ∧ interval = (d.sets? b c).getD n) := by
  constructor
  · rintro ⟨since, put, before, session, hl, hput, hwill, hspared, rfl⟩
    cases since with
    | nil =>
      obtain ⟨rfl, rfl⟩ := List.cons.inj hl
      exact .inl ⟨session, hput, hwill, rfl⟩
    | cons d' since =>
      obtain ⟨rfl, rfl⟩ := List.cons.inj hl
      obtain ⟨hnone, hcost⟩ := hspared d List.mem_cons_self
      refine .inr ⟨hnone, hcost, _, ⟨since, put, before, session, rfl, hput, hwill,
        fun x hx => hspared x (List.mem_cons_of_mem _ hx), rfl⟩, ?_⟩
      rw [List.findSome?_cons]
      cases d.sets? b c <;> rfl
  · rintro (⟨session, hput, hwill, rfl⟩ |
      ⟨hnone, hcost, _, ⟨since, put, before, session, rfl, hput, hwill, hspared, rfl⟩, rfl⟩)
    · exact ⟨[], d, l, session, rfl, hput, hwill, by simp, rfl⟩
    · refine ⟨d :: since, put, before, session, rfl, hput, hwill, ?_, ?_⟩
      · exact List.forall_mem_cons.2 ⟨⟨hnone, hcost⟩, hspared⟩
      · rw [List.findSome?_cons]
        cases d.sets? b c <;> rfl

/-- Request by request, a chronicle tells of the last will. -/
theorem standing_eq_some_iff (l : List Deed) (kept : Will) (interval : Int64) :
    standing b c l = some (kept, interval) ↔
      ∃ will, will.withoutPayload = kept ∧ LastWill b c l will interval := by
  induction l generalizing kept interval with
  | nil =>
    constructor
    · intro h
      cases h
    · rintro ⟨will, -, since, put, before, session, hl, -⟩
      simp at hl
  | cons d l ih =>
    simp only [LastWill.cons_iff]
    change d.turns b c (standing b c l) = _ ↔ _
    unfold Deed.turns
    -- A put starts anew, and what lies before it does not count any more.
    cases hput : d.puts? b c with
    | some session =>
      simp only [Option.map_eq_some_iff, Prod.mk.injEq]
      constructor
      · rintro ⟨will, hwill, rfl, rfl⟩
        exact ⟨will, rfl, .inl ⟨session, rfl, hwill, rfl⟩⟩
      · rintro ⟨will, rfl, ⟨_, ⟨⟩, hwill, rfl⟩ | ⟨hnone, -⟩⟩
        · exact ⟨will, hwill, rfl, rfl⟩
        · cases hnone
    | none =>
      simp only [Option.map_eq_some_iff, Option.filter_eq_some_iff, Prod.mk.injEq,
        Bool.not_eq_true']
      constructor
      · rintro ⟨⟨_, n⟩, ⟨hstands, hcost⟩, rfl, rfl⟩
        obtain ⟨will, rfl, hlast⟩ := (ih _ _).1 hstands
        exact ⟨will, rfl, .inr ⟨trivial, hcost, n, hlast, rfl⟩⟩
      · rintro ⟨will, rfl, ⟨_, ⟨⟩, -⟩ | ⟨-, hcost, n, hlast, rfl⟩⟩
        exact ⟨(will.withoutPayload, n), ⟨(ih _ _).2 ⟨will, rfl, hlast⟩, hcost⟩, rfl, rfl⟩

end

/-! ## Every run goes by its chronicle -/

section

variable {env : Collaborators σ} {o : Outlook σ} {l : List Deed} {w w' : World σ} {b : Nat}
  {c : ClientId}

/-- With its verdict a request makes of a stored will what its answer tells. -/
theorem Verdict.standing {q : Request} {reply : q.Reply} (h : Verdict o q w reply w')
    (hbare : ∀ r, w.store.record? b c = some r → r.object.withoutPayload = r.object) :
    (w'.store.record? b c).bind Entry.standing? =
      (⟨q, reply, o.bytes? (o.view w.outside)⟩ : Deed).turns b c
        ((w.store.record? b c).bind Entry.standing?) := by
  cases hq : q.addresses b c with
  | false =>
    rw [h.spared hq, Deed.turns_of_spared hq]
  | true =>
    cases hdoor : w.store.objection q with
    | some why =>
      rw [h.record?_of_objection hdoor, h.reply_of_objection hdoor hq, Deed.turns_of_refused]
    | none =>
      obtain ⟨hrecord, hreply⟩ := h.granted hdoor hq
      rw [hrecord]
      exact Setting.leaves_standing rfl hq hbare hreply

/-- The will that is stored is the one of which the chronicle tells. -/
theorem Chronicle.standing_eq (henv : env.Impassive o) (h : Chronicle env o l w) (b : Nat)
    (c : ClientId) : (w.store.record? b c).bind Entry.standing? = standing b c l := by
  induction h with
  | start own h =>
    rw [Store.record?_of_ofConfig h]
    rfl
  | meanwhile _ own ih => exact ih
  | @asked l v v' depth q reply before h ih =>
    cases depth with
    | zero => cases h
    | succ depth =>
      obtain ⟨reply', v'', hrun, hverdict⟩ := henv.perform_verdict depth q v
      obtain ⟨rfl, rfl⟩ := Prod.mk.inj (Option.some.inj (h.symm.trans hrun))
      -- A will that is stored has no bytes, so the payload alone decides at a disconnect.
      have hregistered := before.reached.registered henv.toPassive b c
      rw [hverdict.standing fun r hr => (hr ▸ hregistered).withoutPayload_eq, ih]
      rfl

theorem Entry.pendingWill?_eq_some_iff {r : Record} {p : PendingWill} :
    r.pendingWill? = some p ↔ r.object.connected = false ∧
      ∃ will n, r.standing? = some (will, n) ∧
        p = { delay := min will.publication.delay n,
              requestedDelay := will.publication.delay } := by
  unfold pendingWill? standing?
  cases r.object.connected with
  | true => simp
  | false =>
    simp only [Bool.false_eq_true, if_false, Option.map_eq_some_iff, Prod.mk.injEq, true_and]
    constructor
    · rintro ⟨will, hwill, rfl⟩
      exact ⟨will, _, ⟨will, hwill, rfl, rfl⟩, rfl⟩
    · rintro ⟨_, _, ⟨will, hwill, rfl, rfl⟩, rfl⟩
      exact ⟨will, hwill, rfl⟩

/-- The wills of a bucket that wait are those of the clients that are away and were not cost their
last will. A will waits for as long as it asks, but no longer than the interval of its session. -/
theorem pending_wills_by_history (henv : env.Impassive o) (hw : Reached env w)
    (hlt : b < w.store.bucketCount) :
    (∃ l, Chronicle env o l w) ∧
    ∃ pending, w.store.pendingWills b = .ok pending ∧ ∀ l, Chronicle env o l w → ∀ c p,
      (c, p) ∈ pending ↔ (∃ r, w.store.record? b c = some r ∧ r.object.connected = false) ∧
        ∃ will interval, LastWill b c l will interval ∧
          p = { delay := min will.publication.delay interval,
                requestedDelay := will.publication.delay } := by
  obtain ⟨pending, hpending, hmem⟩ := Store.pendingWills_ok hlt
  refine ⟨hw.chronicle, pending, hpending, fun l hl c p => ?_⟩
  have hstands := hl.standing_eq henv b c
  rw [hmem]
  constructor
  · intro hp
    obtain ⟨r, known, hwaits⟩ := Option.bind_eq_some_iff.1 hp
    obtain ⟨haway, kept, interval, hkept, rfl⟩ := Entry.pendingWill?_eq_some_iff.1 hwaits
    rw [known] at hstands
    obtain ⟨will, rfl, hlast⟩ := (standing_eq_some_iff l kept interval).1 (hstands.symm.trans hkept)
    exact ⟨⟨r, known, haway⟩, will, interval, hlast, rfl⟩
  · rintro ⟨⟨r, known, haway⟩, will, interval, hlast, rfl⟩
    rw [known] at hstands ⊢
    have hkept : r.standing? = some (will.withoutPayload, interval) :=
      hstands.trans ((standing_eq_some_iff l _ _).2 ⟨will, rfl, hlast⟩)
    exact Entry.pendingWill?_eq_some_iff.2 ⟨haway, _, interval, hkept, rfl⟩

end

/-- Two clients go away with a will. The payload of the first one is discarded after that, and
for the second one there was none. -/
def tooLate : Dialogue Backdrop Unit := do
  let first : Will := { publication := { topic := "t", delay := 7 }, payloadId := 1 }
  let second : Will := { publication := { topic := "t", delay := 7 }, payloadId := 5 }
  let _ ← Dialogue.request (.put "a" { connected := true, expiry := 9, will := first } ⟨1⟩ 0)
  let _ ← Dialogue.request (.put "b" { connected := true, expiry := 9, will := second } ⟨1⟩ 0)
  let _ ← Dialogue.request (.setExpiry "a" 5 0)
  let _ ← Dialogue.request (.disconnect "a" ⟨2⟩ true 0 none)
  let _ ← Dialogue.request (.disconnect "b" ⟨2⟩ true 0 none)
  Dialogue.change fun outside => { outside with ledger := outside.ledger.discard 1 }

/-- The first will still waits, until the session of its client ends. The second client lost its
will. -/
theorem pending_wills_by_history_tooLate :
    ∃ w l, Reached .quiet w ∧ Chronicle .quiet .quiet l w ∧ w.outside.ledger.bytes? 1 = none ∧
      w.store.pendingWills 0 = .ok [("a", { delay := 5, requestedDelay := 7 })] ∧
      (∃ will interval, LastWill 0 "a" l will interval ∧ will.publication.delay = 7 ∧
        min will.publication.delay interval = 5) ∧
      ∀ will interval, ¬ LastWill 0 "b" l will interval := by
  have hend : ((converse .quiet 1 tooLate).run
      { store := { defaultExpiry := 9, buckets := Array.replicate 2 ∅ },
        outside := { ledger := (PayloadLedger.add {} [7]).2, clock := ⟨3⟩ } }).map (fun (_, w) =>
          [decide (w.outside.ledger.bytes? 1 = none),
            decide ((w.store.pendingWills 0).toOption =
              some [("a", { delay := 5, requestedDelay := 7 })]),
            decide ((w.store.record? 0 "b").map (fun r => r.object.connected) = some false),
            decide (w.store.bucketCount = 2)]) =
      some [true, true, true, true] := by
    decide +kernel
  obtain ⟨⟨_, w⟩, hrun, hfacts⟩ := Option.map_eq_some_iff.1 hend
  obtain ⟨hgone, hwaits, haway, hcount⟩ : w.outside.ledger.bytes? 1 = none ∧
      (w.store.pendingWills 0).toOption = some [("a", { delay := 5, requestedDelay := 7 })] ∧
      (w.store.record? 0 "b").map (fun r => r.object.connected) = some false ∧
      w.store.bucketCount = 2 := by
    simpa using hfacts
  have hreached : Reached .quiet w :=
    .conversed (.start _ (c := { bucketCount := 2, defaultExpiry := 9 }) rfl) hrun
  obtain ⟨⟨l, hl⟩, pending, hpending, hmem⟩ :=
    pending_wills_by_history (b := 0) Collaborators.impassive_quiet hreached (by omega)
  rw [hpending] at hwaits
  obtain rfl : pending = [("a", { delay := 5, requestedDelay := 7 })] := Option.some.inj hwaits
  obtain ⟨-, will, interval, hlast, hp⟩ := (hmem l hl "a" _).1 List.mem_cons_self
  obtain ⟨hdelay, hasked⟩ := PendingWill.mk.inj hp
  refine ⟨w, l, hreached, hl, hgone, hpending, ⟨will, interval, hlast, hasked.symm, hdelay.symm⟩,
    fun will interval hlast => ?_⟩
  obtain ⟨r, known, hr⟩ := Option.map_eq_some_iff.1 haway
  have hb := (hmem l hl "b" _).2 ⟨⟨r, known, hr⟩, will, interval, hlast, rfl⟩
  simp at hb

end BrokerSessions
