-- What is delivered of a will. A stored will is the one that came with the last put of its
-- client, without the bytes. Who asks for it gets it with the bytes that the payload store
-- has at that moment, and no will if it has none. A look never costs a client its will.
import BrokerSessions.Proofs.Fates
import BrokerSessions.Proofs.References

namespace BrokerSessions

variable {σ τ : Type}

/-! ## Wills as they were registered -/

/-- The session of a client that was last put, if any was. -/
def lastPut (bucket : Nat) (client : ClientId) : List Mark → Option Session
  | .answered (.put c session _ b) none :: before =>
    if bucket = b ∧ client = c then some session else lastPut bucket client before
  | _ :: before => lastPut bucket client before
  | [] => none

/-- A will of the record is the will of the session that was last put, without its bytes. -/
def Registered (last : Option Session) (r? : Option Record) : Prop :=
  ∀ r will, r? = some r → r.object.will = some will →
    ∃ session put, last = some session ∧ session.will = some put ∧ will = put.withoutPayload

/-- A session is the same without the bytes of its will if there are none. -/
theorem Session.withoutPayload_eq_iff {s : Session} :
    s.withoutPayload = s ↔ ∀ will, s.will = some will → will.payload = none := by
  obtain ⟨connected, expiry, will?⟩ := s
  cases will? with
  | none => exact ⟨fun _ _ hw => (by cases hw), fun _ => rfl⟩
  | some will =>
    obtain ⟨p, id⟩ := will
    constructor
    · rintro hbare _ ⟨⟩
      have hwill := congrArg Session.will hbare
      exact (congrArg Will.payload (Option.some.inj hwill)).symm
    · intro hnone
      have hpayload : p.payload = none := hnone _ rfl
      obtain ⟨topic, payload⟩ := p
      cases hpayload
      rfl

/-- The payload of a will without bytes has to be looked up. -/
theorem Session.awaited?_of_bare {s : Session} (hbare : s.withoutPayload = s) :
    s.awaited? = s.payloadId? := by
  unfold awaited? payloadId?
  cases hw : s.will with
  | none => rfl
  | some will => simp [withoutPayload_eq_iff.1 hbare will hw]

/-- A stored will carries no bytes. -/
theorem Registered.withoutPayload_eq {last : Option Session} {r : Record}
    (h : Registered last (some r)) : r.object.withoutPayload = r.object := by
  refine Session.withoutPayload_eq_iff.2 fun will hw => ?_
  obtain ⟨session, put, -, -, rfl⟩ := h r will rfl hw
  rfl

section

variable {bucket : Nat} {client : ClientId}

theorem lastPut_note_of_ne {m : Mark} (h : m.isBracket = false) (journal : List Mark) :
    lastPut bucket client (m :: journal) = lastPut bucket client journal := by
  cases m with
  | called => cases h
  | answered => cases h
  | _ => rfl

theorem lastPut_cons_congr (m : Mark) {journal journal' : List Mark}
    (h : lastPut bucket client journal' = lastPut bucket client journal) :
    lastPut bucket client (m :: journal') = lastPut bucket client (m :: journal) := by
  cases m with
  | answered q refusal =>
    cases q with
    | put c session stamp b =>
      cases refusal with
      | none => simp only [lastPut, h]
      | some why => exact h
    | _ => exact h
  | _ => exact h

/-- What a request makes of a record is what its put and the one before registered. -/
theorem Fate.registered {s : Store} {now : Timestamp} {q : Request} {refusal : Option Refusal}
    {r? r?' : Option Record} {journal : List Mark}
    (h : Fate s now bucket client q refusal r? r?')
    (hr : Registered (lastPut bucket client journal) r?) :
    Registered (lastPut bucket client (.answered q refusal :: journal)) r?' := by
  cases h with
  | @refused _ why =>
    cases q <;> exact hr
  | spared hq =>
    cases q with
    | put c session stamp b =>
      have hne : ¬ (bucket = b ∧ client = c) := by simpa [Request.addresses] using hq
      rw [lastPut, if_neg hne]
      exact hr
    | _ => exact hr
  | put =>
    rintro r will hnew hw
    cases hnew
    obtain ⟨put, hput, rfl⟩ := Option.map_eq_some_iff.1 hw
    exact ⟨_, put, by rw [lastPut, if_pos ⟨rfl, rfl⟩], hput, rfl⟩
  | strangerLeft =>
    rintro r will hnew hw
    cases hnew
    cases hw
  | @clientLeft _ _ _ old kept hkept =>
    rintro r will hnew hw
    cases hnew
    rcases hkept with rfl | rfl
    · exact hr old will rfl hw
    · cases hw
  | removed =>
    rintro r will hnone
    cases hnone
  | outlived => exact hr
  | purged =>
    rintro r will hnone
    cases hnone
  | @expirySet old =>
    rintro r will hnew hw
    cases hnew
    exact hr old will rfl hw
  | willStays => exact hr
  | willCancelled =>
    rintro r will hnew hw
    cases hnew
    cases hw

/-- While nobody talks back, a request answers nothing but itself. -/
theorem Collaborators.Passive.lastPut_perform {env : Collaborators σ} (h : env.Passive)
    {depth : Nat} {q : Request} {reply : q.Reply} {w w' : World σ}
    (hr : (perform env depth q).run w = some (reply, w')) :
    lastPut bucket client w'.journal =
      lastPut bucket client (.answered q (refusalOf reply) :: w.journal) := by
  let R (v v' : World σ) : Prop :=
    lastPut bucket client v'.journal = lastPut bucket client v.journal
  have hR : Bears R := by
    refine ⟨⟨fun _ => rfl, fun h₁ h₂ => h₂.trans h₁, fun _ _ => rfl⟩, fun _ _ => rfl, ?_⟩
    exact fun v m hm _ => lastPut_note_of_ne hm v.journal
  obtain ⟨w₁, hc, rfl⟩ := h.perform_course hr
  have hsame : R (w.note (.called q)) w₁ :=
    hR.course (perform_zero_keeps env R) hc fun _ _ _ _ => rfl
  exact lastPut_cons_congr _ hsame

/-- In a run every stored will is the one that was registered last. -/
theorem Reached.registered {env : Collaborators σ} (h : env.Passive) {w : World σ}
    (hw : Reached env w) (bucket : Nat) (client : ClientId) :
    Registered (lastPut bucket client w.journal) (w.store.record? bucket client) := by
  let P (v : World σ) : Prop :=
    Registered (lastPut bucket client v.journal) (v.store.record? bucket client)
  have hR : Chatty fun v v' => P v → P v' :=
    ⟨fun _ => id, fun h₁ h₂ hv => h₂ (h₁ hv), fun _ _ => id⟩
  have hkeeps : ∀ depth, (perform env depth).Keeps fun v v' => P v → P v' := by
    intro depth q v reply v' hr hv
    have hnext := (h.perform_fate hr bucket client).registered hv
    rwa [← h.lastPut_perform hr] at hnext
  obtain ⟨c, walk, s, own, hc, hstep⟩ := hw.since hR hkeeps
  apply hstep
  rintro r will hr -
  rw [Store.record?_of_ofConfig hc] at hr
  cases hr

end

/-! ## Wills as they are handed out -/

/-- The session as it is handed out: its will carries the bytes that the ledger has for it,
and without them there is no will. -/
def Session.delivered (s : Session) (l : PayloadLedger) : Session :=
  { s with will := s.will.bind fun will => (l.bytes? will.payloadId).map will.withPayload }

theorem Session.delivered_of_none {s : Session} (h : s.will = none) (l : PayloadLedger) :
    s.delivered l = s := by
  obtain ⟨_, _, _⟩ := s
  cases h
  rfl

section

open Operation

variable {lost : PayloadLedger × τ → List PayloadId}
  {announce : Timestamp → ClientId → Dialogue (PayloadLedger × τ) Unit} {now : τ → Timestamp}

theorem Collaborators.passive_ledgered
    (silent : ∀ instant client, (announce instant client).Silent) :
    (Collaborators.ledgered lost announce now).Passive :=
  ⟨fun _ => Dialogue.silent_change _, fun _ => Dialogue.silent_own.bind fun _ => trivial, silent⟩

variable {serve : Server (PayloadLedger × τ)} {w w' : World (PayloadLedger × τ)}

/-- A session without bytes has no will, and nothing happens, or its payload is looked up. -/
theorem resolve_ledgered {s s' : Session} {r : Resolution} {whole : Bool}
    (hbare : s.withoutPayload = s)
    (h : (s.resolveM (fetch (.ledgered lost announce now) serve) r).run w =
      some ((s', whole), w')) :
    (s.will = none ∧ s' = s ∧ whole = true ∧ w' = w) ∨
      ∃ will, s.will = some will ∧
        ((∃ bytes, w'.outside.1.bytes? will.payloadId = some bytes ∧ s' = r.found s bytes ∧
          whole = true) ∨
        (w'.outside.1.bytes? will.payloadId = none ∧ s' = s.withoutWill ∧ whole = false)) := by
  cases hw : s.will with
  | none =>
    simp only [Session.resolveM, Session.awaited?, hw] at h
    obtain ⟨he, rfl⟩ := Act.pure_some.1 h
    cases he
    exact .inl ⟨rfl, rfl, rfl, rfl⟩
  | some will =>
    have hawaited : s.awaited? = some will.payloadId := by
      rw [Session.awaited?_of_bare hbare, Session.payloadId?, hw]
      rfl
    simp only [Session.resolveM, hawaited] at h
    obtain ⟨bytes, w₁, hf, h⟩ := Act.bind_some.1 h
    obtain ⟨hbytes, -⟩ := fetch_ledgered hf
    refine .inr ⟨will, rfl, ?_⟩
    cases bytes with
    | some b =>
      obtain ⟨he, rfl⟩ := Act.pure_some.1 h
      cases he
      exact .inl ⟨b, hbytes.symm, rfl, rfl⟩
    | none =>
      obtain ⟨he, rfl⟩ := Act.pure_some.1 h
      cases he
      exact .inr ⟨hbytes.symm, rfl, rfl⟩

theorem attachPayload_ledgered {s s' : Session} (hbare : s.withoutPayload = s)
    (h : (attachPayload (.ledgered lost announce now) serve s).run w = some (s', w')) :
    s' = s.delivered w'.outside.1 ∧ (s.will = none → w' = w) := by
  obtain ⟨⟨_, whole⟩, hr, rfl⟩ := Act.bind_pure_some.1 h
  rcases resolve_ledgered hbare hr with ⟨hw, rfl, -, rfl⟩ |
      ⟨will, hw, ⟨bytes, hbytes, rfl, -⟩ | ⟨hbytes, rfl, -⟩⟩
  · exact ⟨(Session.delivered_of_none hw _).symm, fun _ => rfl⟩
  · simp [Session.delivered, Resolution.found, hw, hbytes]
  · simp [Session.delivered, Session.withoutWill, hw, hbytes]

/-- A will is dropped exactly if its payload is gone. -/
theorem dropDangling_ledgered {s away : Session} (hbare : s.withoutPayload = s)
    (h : (dropDangling (.ledgered lost announce now) serve s).run w = some (away, w')) :
    (away = s ∧ ∀ will, s.will = some will → (w'.outside.1.bytes? will.payloadId).isSome = true) ∨
      (away = s.withoutWill ∧
        ∃ will, s.will = some will ∧ w'.outside.1.bytes? will.payloadId = none) := by
  simp only [dropDangling, Act.bind_some, Act.pure_some] at h
  obtain ⟨⟨kept, whole⟩, w₁, hr, _, v, hn, rfl, rfl⟩ := h
  have hnote : v.outside = w₁.outside := by
    cases whole with
    | true =>
      obtain ⟨-, rfl⟩ := Act.pure_some.1 hn
      rfl
    | false =>
      rw [noteDangling, Act.modify_some] at hn
      rw [← hn]
  rw [hnote]
  rcases resolve_ledgered hbare hr with ⟨hw, rfl, -, -⟩ |
      ⟨will, hw, ⟨bytes, hbytes, rfl, -⟩ | ⟨hbytes, rfl, -⟩⟩
  · exact .inl ⟨rfl, fun will hwill => by rw [hw] at hwill; cases hwill⟩
  · refine .inl ⟨rfl, fun will' hwill => ?_⟩
    rw [hw] at hwill
    cases hwill
    simp [hbytes]
  · exact .inr ⟨rfl, will, hw, hbytes⟩

end

/-! ## Every request hands them out so -/

section

variable {lost : PayloadLedger × τ → List PayloadId}
  {announce : Timestamp → ClientId → Dialogue (PayloadLedger × τ) Unit} {now : τ → Timestamp}
  {w : World (PayloadLedger × τ)} {bucket : Nat} {client : ClientId} {r : Record}

/-- A look hands out what is stored, with the bytes that the ledger has if they are wanted,
and it changes no record. -/
theorem find_delivers (h : (Collaborators.ledgered lost announce now).Passive)
    (known : w.store.record? bucket client = some r) (hbare : r.object.withoutPayload = r.object)
    (depth : Nat) (hideExpired withWill : Bool) :
    ∃ (found : Option Session) (v : World (PayloadLedger × τ)),
      (perform (.ledgered lost announce now) (depth + 1)
        (.find client bucket hideExpired withWill)).run w = some (.ok found, v) ∧
      v.store = w.store ∧
      found = if hideExpired && r.isExpiredAt (now w.outside.2) then none
        else some (if withWill then r.object.delivered v.outside.1 else r.object) := by
  obtain ⟨reply, w₁, hc, hr⟩ := h.perform_runs depth (.find client bucket hideExpired withWill) w
  cases hc with
  | turnedAway hdoor => simp [Store.objection, Store.lt_of_record? known] at hdoor
  | notFound door hidden =>
    have hover : (hideExpired && r.isExpiredAt (now w.outside.2)) = true := hidden r known
    exact ⟨none, _, hr, rfl, (if_pos hover).symm⟩
  | foundBare door known' shown =>
    obtain rfl : r = _ := Option.some.inj (known.symm.trans known')
    have hshown : (hideExpired && r.isExpiredAt (now w.outside.2)) = false := shown
    exact ⟨some _, _, hr, rfl, by simp [hshown, hbare]⟩
  | @foundWhole _ _ _ _ reply _ _ door known' shown resolved =>
    obtain rfl : r = _ := Option.some.inj (known.symm.trans known')
    have hshown : (hideExpired && r.isExpiredAt (now w.outside.2)) = false := shown
    rw [hbare] at resolved
    obtain ⟨rfl, -⟩ := attachPayload_ledgered hbare resolved
    have hstore := attachPayload_keeps SameStore.lasting (perform_zero_keeps _ _) resolved
    exact ⟨some _, _, hr, hstore, by simp [hshown]⟩

/-- The session of a client as it goes away. -/
def Session.leaving (s : Session) (expiry : Option Int64) : Session :=
  { s with connected := false, expiry := expiry.getD s.expiry }

/-- Who goes away and wants the will sent gets it with the bytes that the ledger has. -/
theorem disconnect_delivers (h : (Collaborators.ledgered lost announce now).Passive)
    (known : w.store.record? bucket client = some r) (hbare : r.object.withoutPayload = r.object)
    (hfree : bucket ∉ w.store.writing) (depth : Nat) (stamp : Timestamp) (expiry : Option Int64) :
    ∃ (away : Session) (v : World (PayloadLedger × τ)),
      (perform (.ledgered lost announce now) (depth + 1)
        (.disconnect client stamp true bucket expiry)).run w = some (.ok away, v) ∧
      away = (r.object.leaving expiry).delivered v.outside.1 := by
  obtain ⟨reply, w₁, hc, hr⟩ :=
    h.perform_runs depth (.disconnect client stamp true bucket expiry) w
  cases hc with
  | turnedAway hdoor =>
    have hnone := (w.store.barrier_eq_none_iff bucket).2 ⟨Store.lt_of_record? known, hfree⟩
    have hsome : w.store.barrier bucket = some _ := hdoor
    rw [hnone] at hsome
    cases hsome
  | strangerLeft door vacant =>
    have hsome : w.store.record? bucket client = none := vacant
    rw [known] at hsome
    cases hsome
  | @clientLeft _ _ _ _ _ old kept away _ _ w₁ w₂ w₃ door known' will checked resolved =>
    obtain rfl : r = old := Option.some.inj (known.symm.trans known')
    obtain ⟨rfl, rfl⟩ := Act.pure_some.1 will
    have hbare' : (r.object.leaving expiry).withoutPayload = r.object.leaving expiry := by
      have hwill := congrArg Session.will hbare
      simpa [Session.withoutPayload, Session.leaving] using hwill
    rcases dropDangling_ledgered hbare' checked with ⟨haway, -⟩ | ⟨haway, gone, hgone, hbytes⟩
    · rw [haway, hbare'] at resolved
      obtain ⟨rfl, -⟩ := attachPayload_ledgered hbare' resolved
      exact ⟨_, _, hr, rfl⟩
    · rw [haway] at resolved
      obtain ⟨hreply, hsame⟩ := attachPayload_ledgered (s := (r.object.leaving expiry).withoutWill)
        rfl resolved
      refine ⟨_, _, hr, ?_⟩
      have houtside : w₃.outside = w₂.outside := by
        rw [hsame rfl]
        exact World.outside_recount _ _ _
      change _ = (r.object.leaving expiry).delivered w₃.outside.1
      rw [hreply, houtside]
      simp [Session.delivered, Session.withoutWill, hgone, hbytes]

/-- A will is delivered as it was registered. What is stored of it is the will of the last
put, without the bytes. A look shows that, or the same with the bytes that the ledger has now,
and it takes nothing away. So does a disconnect that sends the will. -/
theorem wills_delivered_as_registered
    (silent : ∀ instant client, (announce instant client).Silent)
    (hw : Reached (.ledgered lost announce now) w)
    (known : w.store.record? bucket client = some r) :
    (∀ will, r.object.will = some will → will.payload = none ∧
      ∃ session put, lastPut bucket client w.journal = some session ∧
        session.will = some put ∧ will = put.withoutPayload) ∧
    (∀ depth hideExpired withWill, ∃ (found : Option Session) (v : World (PayloadLedger × τ)),
      (perform (.ledgered lost announce now) (depth + 1)
        (.find client bucket hideExpired withWill)).run w = some (.ok found, v) ∧
      v.store = w.store ∧
      found = if hideExpired && r.isExpiredAt (now w.outside.2) then none
        else some (if withWill then r.object.delivered v.outside.1 else r.object)) ∧
    (∀ depth stamp expiry, ∃ (away : Session) (v : World (PayloadLedger × τ)),
      (perform (.ledgered lost announce now) (depth + 1)
        (.disconnect client stamp true bucket expiry)).run w = some (.ok away, v) ∧
      away = (r.object.leaving expiry).delivered v.outside.1) := by
  have h : (Collaborators.ledgered lost announce now).Passive :=
    Collaborators.passive_ledgered silent
  have hregistered := hw.registered h bucket client
  rw [known] at hregistered
  have hbare := hregistered.withoutPayload_eq
  refine ⟨?_, find_delivers h known hbare,
    disconnect_delivers h known hbare (by simp [hw.writing])⟩
  intro will hwill
  obtain ⟨session, put, hlast, hput, rfl⟩ := hregistered r will rfl hwill
  exact ⟨rfl, session, put, hlast, hput, rfl⟩

end

/-- The session of a client whose will carries other bytes than the ledger has for it. -/
def misled : Session where
  connected := true
  expiry := 9
  will := some { publication := { topic := "t", payload := some [9] }, payloadId := 1 }

theorem wills_delivered_as_registered_misled :
    ∃ (w : World (PayloadLedger × Timestamp)) (r : Record),
      Reached (.ledgered (fun _ => []) (fun _ _ => pure ()) id) w ∧
      w.store.record? 0 "a" = some r ∧ w.outside.1.bytes? 1 = some [7] ∧
      (∃ will, r.object.will = some will ∧ will.payload = none ∧
        misled.will.map Will.withoutPayload = some will) ∧
      (∃ v, (perform (.ledgered (fun _ => []) (fun _ _ => pure ()) id) 1
          (.find "a" 0 true true)).run w = some (.ok (some (r.object.delivered v.outside.1)), v) ∧
        v.store = w.store) ∧
      ∃ v, (perform (.ledgered (fun _ => []) (fun _ _ => pure ()) id) 1
          (.disconnect "a" ⟨2⟩ true 0 none)).run w =
        some (.ok ((r.object.leaving none).delivered v.outside.1), v) := by
  let r : Record := misled.withoutPayload.keptAt ⟨1⟩
  have hend : ((converse (.ledgered (fun _ => []) (fun _ _ => pure ()) id) 1
      (Dialogue.request (.put "a" misled ⟨1⟩ 0))).run
        { store := { defaultExpiry := 9, buckets := Array.replicate 2 ∅ },
          outside := ((PayloadLedger.add {} [7]).2, ⟨3⟩) }).map (fun (_, w) =>
            (w.store.record? 0 "a", lastPut 0 "a" w.journal, w.outside.1.bytes? 1)) =
        some (some r, some misled, some [7]) := by
    decide +kernel
  obtain ⟨⟨_, w⟩, hrun, hfacts⟩ := Option.map_eq_some_iff.1 hend
  obtain ⟨hr, hlast, hbytes⟩ : w.store.record? 0 "a" = some r ∧
      lastPut 0 "a" w.journal = some misled ∧ w.outside.1.bytes? 1 = some [7] := by
    simpa using hfacts
  have hreached : Reached (.ledgered (fun _ => []) (fun _ _ => pure ()) id) w :=
    .conversed (.start _ (c := { bucketCount := 2, defaultExpiry := 9 }) rfl) hrun
  obtain ⟨hwill, hfind, hleave⟩ := wills_delivered_as_registered
    (fun _ _ => Dialogue.silent_pure ()) hreached hr
  obtain ⟨hnone, session, put, hput, hsome, hsame⟩ := hwill _ rfl
  obtain ⟨found, v, hv, hstore, hfound⟩ := hfind 0 true true
  obtain ⟨away, u, hu, haway⟩ := hleave 0 ⟨2⟩ none
  have hshown : found = some (r.object.delivered v.outside.1) := hfound
  rw [hlast] at hput
  cases hput
  refine ⟨w, r, hreached, hr, hbytes, ⟨_, rfl, hnone, ?_⟩, ⟨v, hshown ▸ hv, hstore⟩, u, haway ▸ hu⟩
  rw [hsome, hsame]
  rfl

end BrokerSessions
