-- What a client leaves behind when it goes away, and what is answered. The payload of its will
-- is looked up twice: for the record that is stored, and again for the session that is answered.
-- Nothing happens to the payloads between the two, so both tell the same. A reference is given
-- back for a will that nobody wants sent, and for no other.
import BrokerSessions.Proofs.Domains
import BrokerSessions.Proofs.Verdicts

namespace BrokerSessions

/-! ## A will that is looked up -/

namespace Session

variable {s : Session}

theorem resolvedBy_bare {will : Will} (hbare : s.withoutPayload = s) (hw : s.will = some will)
    (bytes? : PayloadId → Option Bytes) (r : Resolution) :
    s.resolvedBy bytes? r = (bytes? will.payloadId).elim (s.withoutWill, false)
      fun bytes => (r.found s bytes, true) := by
  refine resolvedBy_of_awaited ?_ bytes? r
  rw [awaited?_of_bare hbare, payloadId?, hw]
  rfl

theorem resolvedBy_willless (hw : s.will = none) (bytes? : PayloadId → Option Bytes)
    (r : Resolution) : s.resolvedBy bytes? r = (s, true) :=
  resolvedBy_of_none (by rw [awaited?, hw]) bytes? r

/-- The session that is handed out has the bytes of its will, and no will without them. -/
theorem resolvedBy_attach (hbare : s.withoutPayload = s) (l : PayloadLedger) :
    (s.resolvedBy l.bytes? .attach).1 = s.delivered l := by
  cases hw : s.will with
  | none => rw [resolvedBy_willless hw, delivered_of_none hw]
  | some will =>
    rw [resolvedBy_bare hbare hw, delivered, hw]
    cases hb : l.bytes? will.payloadId with
    | none => simp [hb, withoutWill]
    | some bytes => simp [hb, hw, Resolution.found]

/-- A will that goes away stays if it is to be sent and has a payload. -/
theorem away_eq (hbare : s.withoutPayload = s) (bytes? : PayloadId → Option Bytes)
    (sendWill : Bool) (expiry : Option Int64) :
    s.away bytes? sendWill expiry =
      { s.leaving expiry with
        will := s.will.filter fun will => sendWill && (bytes? will.payloadId).isSome } := by
  unfold away
  cases sendWill with
  | false =>
    rw [if_neg Bool.false_ne_true, resolvedBy_willless rfl]
    simp [withoutWill, leaving]
  | true =>
    have hleaving : (s.leaving expiry).withoutPayload = s.leaving expiry :=
      withoutPayload_eq_iff.2 fun will hw => withoutPayload_eq_iff.1 hbare will hw
    have hsame : (s.leaving expiry).will = s.will := rfl
    rw [if_pos rfl]
    cases hw : s.will with
    | none => rw [resolvedBy_willless (hsame.trans hw)]; simp [leaving, hw]
    | some will =>
      rw [resolvedBy_bare hleaving (hsame.trans hw)]
      cases hb : bytes? will.payloadId with
      | none => simp [hb, Option.filter_some, withoutWill, leaving]
      | some bytes => simp [hb, Option.filter_some, Resolution.found, leaving, hw]

theorem away_will (hbare : s.withoutPayload = s) {bytes? : PayloadId → Option Bytes}
    {sendWill : Bool} {expiry : Option Int64} {will : Will} :
    (s.away bytes? sendWill expiry).will = some will ↔
      sendWill = true ∧ s.will = some will ∧ (bytes? will.payloadId).isSome = true := by
  rw [away_eq hbare, Option.filter_eq_some_iff, Bool.and_eq_true]
  exact and_left_comm

theorem away_withoutPayload (hbare : s.withoutPayload = s) (bytes? : PayloadId → Option Bytes)
    (sendWill : Bool) (expiry : Option Int64) :
    (s.away bytes? sendWill expiry).withoutPayload = s.away bytes? sendWill expiry :=
  withoutPayload_eq_iff.2 fun will hw =>
    withoutPayload_eq_iff.1 hbare will ((away_will hbare).1 hw).2.1

/-- A session that is handed out with its will says of it what is stored, -/
theorem delivered_withoutPayload {l : PayloadLedger} (hbare : s.withoutPayload = s)
    (hthere : ∀ will, s.will = some will → (l.bytes? will.payloadId).isSome = true) :
    (s.delivered l).withoutPayload = s := by
  rw [← hbare]
  unfold delivered withoutPayload
  cases hw : s.will with
  | none => simp
  | some will =>
    obtain ⟨bytes, hbytes⟩ := Option.isSome_iff_exists.1 (hthere will hw)
    simp [hbytes]

/-- and the bytes of it are those of the payload. -/
theorem payload_of_delivered {l : PayloadLedger} {will : Will}
    (h : (s.delivered l).will = some will) :
    ∃ bytes, l.bytes? will.payloadId = some bytes ∧ will.payload = some bytes := by
  obtain ⟨stored, -, hdelivered⟩ := Option.bind_eq_some_iff.1 h
  obtain ⟨bytes, hbytes, rfl⟩ := Option.map_eq_some_iff.1 hdelivered
  exact ⟨bytes, hbytes, rfl⟩

end Session

/-! ## References that are given back on the way -/

/-- The will that is stored for a client. -/
def Store.will? (s : Store) (bucket : Nat) (client : ClientId) : Option Will :=
  (s.record? bucket client).bind fun r => r.object.will

/-- Between two worlds one reference was given back, or none. The ledger took it, the journal
tells of no other, and nothing else happened outside. -/
structure GaveBack (id? : Option PayloadId) (w v : World Backdrop) : Prop where
  outside : v.outside =
    { w.outside with ledger := id?.elim w.outside.ledger w.outside.ledger.release }
  noted : v.journal.filter Mark.isRelease =
    id?.toList.map .released ++ w.journal.filter Mark.isRelease

namespace GaveBack

variable {id? : Option PayloadId} {w v u : World Backdrop}

theorem of_ownWork (h : OwnWork w v) : GaveBack none w v where
  outside := h.outside
  noted := by
    obtain ⟨since, hjournal, hsince⟩ := h.marks
    have hnone : since.filter Mark.isRelease = [] :=
      List.filter_eq_nil_iff.2 fun m hm => by simp [(hsince m hm).2]
    rw [hjournal, List.filter_append, hnone]
    rfl

theorem enter (w : World Backdrop) (bucket : Nat) : GaveBack none w (w.enter bucket) := ⟨rfl, rfl⟩

theorem leave (w : World Backdrop) (bucket : Nat) : GaveBack none w (w.leave bucket) := ⟨rfl, rfl⟩

theorem note (w : World Backdrop) {m : Mark} (hm : m.isRelease = false) :
    GaveBack none w (w.note m) := ⟨rfl, List.filter_cons_of_neg (by simp [hm])⟩

/-- It may be given back at the beginning, -/
theorem andThen (h : GaveBack id? w v) (h' : GaveBack none v u) : GaveBack id? w u :=
  ⟨h'.outside.trans h.outside, h'.noted.trans h.noted⟩

/-- or at the end. -/
theorem butFirst (h : GaveBack none w v) (h' : GaveBack id? v u) : GaveBack id? w u where
  outside := by
    rw [h'.outside, h.outside]
    rfl
  noted := by
    rw [h'.noted, h.noted]
    rfl

end GaveBack

section

open Operation

variable {serve : Server Backdrop} {w w' : World Backdrop}

/-- A look at the payloads changes nothing. -/
theorem resolve_ownWork {s : Session} {r : Resolution} {x : Session × Bool}
    (h : (s.resolveM (fetch .quiet serve) r).run w = some (x, w')) : OwnWork w w' := by
  rcases resolve_some h with ⟨-, -, rfl⟩ | ⟨id, bytes, -, hf, -⟩
  · exact .refl w'
  · cases hf
    exact .note w rfl rfl

theorem dropDangling_ownWork {s away : Session}
    (h : (dropDangling .quiet serve s).run w = some (away, w')) : OwnWork w w' := by
  simp only [dropDangling, Act.bind_some, Act.pure_some] at h
  obtain ⟨⟨kept, whole⟩, w₁, hr, _, v, hn, rfl, rfl⟩ := h
  have hlooked := resolve_ownWork hr
  cases whole with
  | true =>
    obtain ⟨-, rfl⟩ := Act.pure_some.1 hn
    exact hlooked
  | false =>
    rw [noteDangling, Act.modify_some] at hn
    subst hn
    refine hlooked.trans ⟨rfl, rfl, rfl, s.payloadId?.toList.map .dangled, rfl, ?_⟩
    simp [Mark.isBracket, Mark.isRelease]

theorem willOrNone_gaveBack {s kept : Session} {sendWill : Bool}
    (h : (willOrNone .quiet serve s sendWill).run w = some (kept, w')) :
    GaveBack (if sendWill then none else s.payloadId?) w w' := by
  cases sendWill with
  | true =>
    obtain ⟨-, rfl⟩ := Act.pure_some.1 h
    exact .of_ownWork (.refl w)
  | false =>
    simp only [willOrNone, Act.bind_some, Act.pure_some] at h
    obtain ⟨_, v, hr, -, rfl⟩ := h
    obtain ⟨v', hv', -, houtside, hjournal⟩ := release_quiet serve w s
    cases hr.symm.trans hv'
    refine ⟨?_, ?_⟩
    · rw [houtside]
      unfold Session.releaseTo
      cases s.payloadId? <;> rfl
    · rw [hjournal, List.filter_append]
      cases s.payloadId? <;> rfl

/-- A disconnect gives back the reference of a will that nobody wants sent, and no other. -/
theorem disconnect_gaveBack {client : ClientId} {stamp : Timestamp} {sendWill : Bool}
    {bucket : Nat} {expiry : Option Int64} {reply : Session}
    (h : Course .quiet serve (.disconnect client stamp sendWill bucket expiry) w
      (.ok reply) w') :
    GaveBack (if sendWill then none else (w.store.will? bucket client).map Will.payloadId) w w' := by
  unfold Store.will?
  cases h with
  | strangerLeft door vacant =>
    have hkept := (OwnWork.recount (w.enter bucket) false w.store.stranger.isLive).trans
      (.keep _ bucket client (w.store.stranger.keptAt stamp))
    rw [vacant]
    simpa using
      (GaveBack.enter w bucket).butFirst ((GaveBack.of_ownWork hkept).andThen (.leave _ _))
  | @clientLeft _ _ _ _ _ old kept away _ _ w₁ w₂ w₃ door known will checked resolved =>
    obtain ⟨x, hresolved, -⟩ := Act.bind_pure_some.1 resolved
    have hkept := (OwnWork.recount w₂ old.object.isLive away.isLive).trans
      (.keep _ bucket client (away.keptAt stamp))
    have hafter := (dropDangling_ownWork checked).trans (hkept.trans (resolve_ownWork hresolved))
    have hbefore := (GaveBack.enter w bucket).andThen (.of_ownWork (.lowerMemory _ old.weight))
    have hback := (willOrNone_gaveBack will).andThen (.of_ownWork hafter)
    rw [known]
    exact (hbefore.butFirst hback).andThen (.leave w₃ bucket)

end

/-! ## What is left and what is answered -/

/-- What a disconnect leaves of a client and of all others, and what it answers. -/
structure Departed (w : World Backdrop) (bucket : Nat) (client : ClientId) (stamp : Timestamp)
    (sendWill : Bool) (expiry : Option Int64) (r : Record) (reply : Session)
    (v : World Backdrop) : Prop where
  stored : v.store.record? bucket client = some r
  stamped : r.stamp = stamp
  away : r.object.connected = false
  bare : ∀ will, r.object.will = some will → will.payload = none
  interval : r.object.expiry = w.store.intervalAway bucket client expiry
  will : ∀ will, r.object.will = some will ↔ sendWill = true ∧
    w.store.will? bucket client = some will ∧ (w.outside.ledger.bytes? will.payloadId).isSome = true
  answered : reply.withoutPayload = r.object
  delivered : ∀ will, reply.will = some will → ∃ bytes,
    w.outside.ledger.bytes? will.payloadId = some bytes ∧ will.payload = some bytes
  gaveBack : GaveBack (if sendWill then none else (w.store.will? bucket client).map Will.payloadId)
    w v
  others : ∀ i c, (i, c) ≠ (bucket, client) → v.store.record? i c = w.store.record? i c

namespace Departed

variable {w v : World Backdrop} {bucket : Nat} {client : ClientId} {stamp : Timestamp}
  {sendWill : Bool} {expiry : Option Int64}
  (gaveBack : GaveBack
    (if sendWill then none else (w.store.will? bucket client).map Will.payloadId) w v)
  (others : ∀ i c, (i, c) ≠ (bucket, client) → v.store.record? i c = w.store.record? i c)

include gaveBack others

/-- A stranger goes away without a will, and its interval is not asked for. -/
theorem of_stranger (vacant : w.store.record? bucket client = none)
    (stored : v.store.record? bucket client = some (w.store.stranger.keptAt stamp)) :
    Departed w bucket client stamp sendWill expiry (w.store.stranger.keptAt stamp)
      w.store.stranger v where
  stored := stored
  stamped := rfl
  away := rfl
  bare _ hwill := by cases hwill
  interval := by
    rw [Store.intervalAway, vacant]
    rfl
  will will := by
    rw [Store.will?, vacant]
    constructor
    · intro hwill
      cases hwill
    · rintro ⟨-, hwill, -⟩
      cases hwill
  answered := rfl
  delivered _ hwill := by cases hwill
  gaveBack := gaveBack
  others := others

/-- A known client keeps its will if it can be sent, and what is answered says the same. -/
theorem of_known {old : Record} (known : w.store.record? bucket client = some old)
    (hbare : old.object.withoutPayload = old.object)
    (stored : v.store.record? bucket client =
      some ((old.object.away w.outside.ledger.bytes? sendWill expiry).keptAt stamp)) :
    Departed w bucket client stamp sendWill expiry
      ((old.object.away w.outside.ledger.bytes? sendWill expiry).keptAt stamp)
      ((old.object.away w.outside.ledger.bytes? sendWill expiry).delivered w.outside.ledger) v where
  stored := stored
  stamped := rfl
  away := congrArg Session.connected (Session.away_eq hbare _ _ _)
  bare := Session.withoutPayload_eq_iff.1 (Session.away_withoutPayload hbare _ _ _)
  interval := by
    rw [Store.intervalAway, known]
    exact congrArg Session.expiry (Session.away_eq hbare _ _ _)
  will will := by
    rw [Store.will?, known]
    exact Session.away_will hbare
  answered := Session.delivered_withoutPayload (Session.away_withoutPayload hbare _ _ _)
    fun will hw => ((Session.away_will hbare).1 hw).2.2
  delivered _ := Session.payload_of_delivered
  gaveBack := gaveBack
  others := others

end Departed

/-- Whoever disconnects is let in. What is stored for the client is what is answered, but for the
bytes of the will, and the other clients do not notice. -/
theorem departures_settled {w : World Backdrop} (hw : Reached .quiet w) {bucket : Nat}
    (hlt : bucket < w.store.bucketCount) (client : ClientId) (stamp : Timestamp) (sendWill : Bool)
    (expiry : Option Int64) (depth : Nat) :
    ∃ (reply : Session) (v : World Backdrop) (r : Record),
      (perform .quiet (depth + 1) (.disconnect client stamp sendWill bucket expiry)).run w =
        some (.ok reply, v) ∧
      Departed w bucket client stamp sendWill expiry r reply v := by
  let q : Request := .disconnect client stamp sendWill bucket expiry
  obtain ⟨reply, v, hrun, hverdict⟩ := Collaborators.impassive_quiet.perform_verdict depth q w
  have hdoor : w.store.objection q = none :=
    (w.store.barrier_eq_none_iff bucket).2 ⟨hlt, by simp [hw.writing]⟩
  obtain ⟨hrecord, hreply⟩ := hverdict.granted (i := bucket) (c := client) hdoor
    (by simp [q, Request.addresses])
  have hothers : ∀ i c, (i, c) ≠ (bucket, client) → v.store.record? i c = w.store.record? i c := by
    intro i c hne
    exact hverdict.spared (by simpa [q, Request.addresses, Prod.mk.injEq] using hne)
  -- The verdict tells nothing of the ledger, so this part follows the course once more.
  have hgaveBack : ∀ away : Session, reply = .ok away → GaveBack
      (if sendWill then none else (w.store.will? bucket client).map Will.payloadId) w v := by
    rintro away rfl
    obtain ⟨w₁, hc, rfl⟩ := Collaborators.passive_quiet.perform_course hrun
    exact ((GaveBack.note w rfl).butFirst (disconnect_gaveBack hc)).andThen (.note w₁ rfl)
  cases known : w.store.record? bucket client with
  | none =>
    rw [known] at hrecord hreply
    have hstranger : reply = .ok w.store.stranger := hreply
    exact ⟨_, v, _, hstranger ▸ hrun, .of_stranger (hgaveBack _ hreply) hothers known hrecord⟩
  | some old =>
    rw [known] at hrecord hreply
    have hregistered := hw.registered Collaborators.passive_quiet bucket client
    rw [known] at hregistered
    have hbare := hregistered.withoutPayload_eq
    let away := old.object.away w.outside.ledger.bytes? sendWill expiry
    have hattached : (away.withoutPayload.resolvedBy w.outside.ledger.bytes? .attach).1 =
        away.delivered w.outside.ledger := by
      have haway : away.withoutPayload = away := Session.away_withoutPayload hbare _ _ _
      rw [haway, Session.resolvedBy_attach haway]
    have hdelivered : reply = .ok (away.delivered w.outside.ledger) :=
      hreply.trans (congrArg Except.ok hattached)
    exact ⟨_, v, _, hdelivered ▸ hrun,
      .of_known (hgaveBack _ hdelivered) hothers known hbare hrecord⟩

/-- Two clients come with a will. There is a payload for the first will, and none for the
second. -/
def farewellNotes : Dialogue Backdrop Unit := do
  let first : Will := { publication := { topic := "t" }, payloadId := 1 }
  let second : Will := { publication := { topic := "t" }, payloadId := 5 }
  let _ ← Dialogue.request (.put "a" { connected := true, expiry := 4, will := first } ⟨1⟩ 0)
  let _ ← Dialogue.request (.put "b" { connected := true, expiry := 4, will := second } ⟨1⟩ 0)

/-- The first will goes out with the bytes of its payload, or its reference is given back. The
second one is lost, and nothing is given back. A stranger gets the default interval. -/
theorem departures_settled_farewellNotes :
    ∃ w, Reached .quiet w ∧
      (∃ (reply : Session) (v : World Backdrop) (will : Will),
        (perform .quiet 1 (.disconnect "a" ⟨2⟩ true 0 none)).run w = some (.ok reply, v) ∧
          reply.will = some will ∧ will.payload = some [7] ∧ v.outside = w.outside) ∧
      (∃ (reply : Session) (v : World Backdrop) (r : Record),
        (perform .quiet 1 (.disconnect "a" ⟨2⟩ false 0 none)).run w = some (.ok reply, v) ∧
          v.store.record? 0 "a" = some r ∧ r.object.will = none ∧
          v.outside.ledger = w.outside.ledger.release 1) ∧
      (∃ (reply : Session) (v : World Backdrop) (r : Record),
        (perform .quiet 1 (.disconnect "b" ⟨2⟩ true 0 none)).run w = some (.ok reply, v) ∧
          v.store.record? 0 "b" = some r ∧ r.object.will = none ∧ v.outside = w.outside) ∧
      ∃ (reply : Session) (v : World Backdrop) (r : Record),
        (perform .quiet 1 (.disconnect "c" ⟨2⟩ true 1 (some 3))).run w = some (.ok reply, v) ∧
          v.store.record? 1 "c" = some r ∧ r.object.expiry = 9 := by
  let first : Will := { publication := { topic := "t" }, payloadId := 1 }
  let second : Will := { publication := { topic := "t" }, payloadId := 5 }
  have hend : ((converse .quiet 1 farewellNotes).run
      { store := { defaultExpiry := 9, buckets := Array.replicate 2 ∅ },
        outside := { ledger := (PayloadLedger.add {} [7]).2, clock := ⟨3⟩ } }).map (fun (_, w) =>
          [decide (w.store.will? 0 "a" = some first), decide (w.store.will? 0 "b" = some second),
            decide (w.outside.ledger.bytes? 1 = some [7]), decide (w.outside.ledger.bytes? 5 = none),
            decide (w.store.intervalAway 1 "c" (some 3) = 9),
            decide (w.store.bucketCount = 2)]) =
      some [true, true, true, true, true, true] := by
    decide +kernel
  obtain ⟨⟨_, w⟩, hrun, hfacts⟩ := Option.map_eq_some_iff.1 hend
  obtain ⟨ha, hb, hbytes, hgone, hstranger, hcount⟩ : w.store.will? 0 "a" = some first ∧
      w.store.will? 0 "b" = some second ∧ w.outside.ledger.bytes? 1 = some [7] ∧
      w.outside.ledger.bytes? 5 = none ∧ w.store.intervalAway 1 "c" (some 3) = 9 ∧
      w.store.bucketCount = 2 := by
    simpa using hfacts
  have hreached : Reached .quiet w :=
    .conversed (.start _ (c := { bucketCount := 2, defaultExpiry := 9 }) rfl) hrun
  have hfirst : 0 < w.store.bucketCount := by omega
  have hlast : 1 < w.store.bucketCount := by omega
  obtain ⟨reply, v, r, hv, hsent⟩ := departures_settled hreached hfirst "a" ⟨2⟩ true none 0
  obtain ⟨_, v', r', hv', hkept⟩ := departures_settled hreached hfirst "a" ⟨2⟩ false none 0
  obtain ⟨_, v'', r'', hv'', hlost⟩ := departures_settled hreached hfirst "b" ⟨2⟩ true none 0
  obtain ⟨_, u, r₃, hu, hcame⟩ := departures_settled hreached hlast "c" ⟨2⟩ true (some 3) 0
  have hwill : r.object.will = some first := (hsent.will first).2 ⟨rfl, ha, by rw [hbytes]; rfl⟩
  obtain ⟨will, hreply, hbare⟩ : ∃ will, reply.will = some will ∧ will.withoutPayload = first :=
    Option.map_eq_some_iff.1 ((congrArg Session.will hsent.answered).trans hwill)
  obtain ⟨bytes, hthere, hpayload⟩ := hsent.delivered will hreply
  have hid : will.payloadId = 1 := congrArg Will.payloadId hbare
  rw [hid, hbytes] at hthere
  have hback := hkept.gaveBack.outside
  rw [ha] at hback
  refine ⟨w, hreached, ⟨reply, v, will, hv, hreply, hpayload.trans hthere.symm,
    hsent.gaveBack.outside⟩, ⟨_, v', r', hv', hkept.stored, ?_, congrArg Backdrop.ledger hback⟩,
    ⟨_, v'', r'', hv'', hlost.stored, ?_, hlost.gaveBack.outside⟩,
    ⟨_, u, r₃, hu, hcame.stored, hcame.interval.trans hstranger⟩⟩
  · exact Option.eq_none_iff_forall_ne_some.2 fun will h => nomatch ((hkept.will will).1 h).1
  · refine Option.eq_none_iff_forall_ne_some.2 fun will h => ?_
    obtain ⟨-, hsome, hpresent⟩ := (hlost.will will).1 h
    obtain rfl : second = will := Option.some.inj (hb.symm.trans hsome)
    rw [hgone] at hpresent
    cases hpresent

end BrokerSessions
