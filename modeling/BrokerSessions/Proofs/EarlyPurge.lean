-- The moment of a purge. A session that is over lies in its bucket until a purge comes by.
-- Nobody who reads with an eye on the clock can tell how long it lay there: the worlds with and
-- without one more purge differ by records that no such reader shows, and time only adds to them.
-- The payloads have to stay where they are, though. If they may go with the references that a
-- purge gives back, a reader can tell after all.
import BrokerSessions.Proofs.Deadlines
import BrokerSessions.Proofs.Histories
import BrokerSessions.Proofs.Readers

namespace BrokerSessions

variable {σ : Type} {env : Collaborators σ} {o : Outlook σ} {w w' v v' : World σ}

/-! ## Over is over -/

/-- A session that is over stays over. -/
theorem Entry.isExpiredAt_mono {r : Record} {now later : Timestamp} (hle : now ≤ later)
    (h : r.isExpiredAt now = true) : r.isExpiredAt later = true := by
  unfold isExpiredAt at h ⊢
  exact Session.isExpired_mono (Timestamp.millisSince_mono hle r.stamp) h

/-- What there was of a client is still there, or it was over and is gone. -/
inductive Fades (now : Timestamp) : Option Record → Option Record → Prop where
  | same (r? : Option Record) : Fades now r? r?
  | gone {r : Record} (ended : r.isExpiredAt now = true) : Fades now (some r) none

namespace Fades

variable {now : Timestamp} {r? r'? : Option Record}

theorem later {later : Timestamp} (h : Fades now r? r'?) (hle : now ≤ later) :
    Fades later r? r'? := by
  cases h with
  | same => exact .same _
  | gone ended => exact .gone (Entry.isExpiredAt_mono hle ended)

/-- Those who do not show what is over show the same. -/
theorem filter_eq (h : Fades now r? r'?) {p : Record → Bool}
    (hp : ∀ r, r.isExpiredAt now = true → p r = false) : r'?.filter p = r?.filter p := by
  cases h with
  | same => rfl
  | gone ended => rw [Option.filter_some, hp _ ended]; rfl

theorem purged (now : Timestamp) (r? : Option Record) :
    Fades now r? (r?.filter fun r => !r.isExpiredAt now) := by
  cases r? with
  | none => exact .same none
  | some r =>
    rw [Option.filter_some]
    cases ended : r.isExpiredAt now with
    | true => exact .gone ended
    | false => exact .same (some r)

end Fades

/-- The requests that could give a session that is over another life. -/
def Request.mayRevive : Request → Bool
  | disconnect .. => true
  | setExpiry .. => true
  | _ => false

/-- Whatever is asked, a session that was left over is replaced, taken away or still over, unless
it gets another life. -/
theorem Setting.turns_fades {x : Setting} {q : Request} {i : Nat} {c : ClientId}
    {r? r'? : Option Record} (h : Fades x.now r? r'?)
    (hq : q.mayRevive = true → q.addresses i c = true →
      ∀ r, r? = some r → r.isExpiredAt x.now = false) :
    Fades x.now (x.turns q i c r?) (x.turns q i c r'?) := by
  cases h with
  | same => exact .same _
  | @gone r ended =>
    unfold turns
    by_cases hturn : x.objection q = none ∧ q.addresses i c = true
    · rw [if_pos hturn, if_pos hturn]
      have hover : ¬ q.mayRevive = true := by
        intro hrevive
        rw [hq hrevive hturn.2 r rfl] at ended
        cases ended
      cases q with
      | put => exact .same _
      | disconnect => exact absurd rfl hover
      | remove => exact .same _
      | purge =>
        change Fades x.now ((some r).filter fun r => !r.isExpiredAt x.now) none
        rw [Option.filter_some, ended]
        exact .same none
      | setExpiry => exact absurd rfl hover
      | cancelWill =>
        have haway : r.object.connected = false := by
          by_contra hon
          rw [Entry.isExpiredAt_of_connected (by simpa using hon)] at ended
          cases ended
        change Fades x.now (some (if r.object.connected then r
          else r.object.withoutWill.keptAt r.stamp)) none
        rw [haway]
        exact .gone ended
      | find => cases hturn.2
    · rw [if_neg hturn, if_neg hturn]
      exact .gone ended

/-- A look that hides what is over does not tell whether it is there. -/
theorem Setting.tells_find {x : Setting} {i : Nat} {c : ClientId} {withWill : Bool}
    {r? r'? : Option Record} (h : Fades x.now r? r'?) :
    x.tells c (.find c i true withWill) r'? = x.tells c (.find c i true withWill) r? := by
  have hshown : r'?.filter (fun r => !(true && r.isExpiredAt x.now)) =
      r?.filter (fun r => !(true && r.isExpiredAt x.now)) :=
    h.filter_eq fun r ended => by rw [ended]; rfl
  unfold tells
  cases x.objection (.find c i true withWill) with
  | some why => rfl
  | none => simp only [answer, hshown]

/-! ## A world without some sessions that are over -/

/-- Two peers, one of which lost records that were over. -/
structure Thinned (o : Outlook σ) (w w' : World σ) : Prop extends Peers o w w' where
  records : ∀ i c, Fades (o.now (o.view w.outside)) (w.store.record? i c) (w'.store.record? i c)

/-- Whether a move may come next. The clock does not go back, and no session that is over gets
another life, unless it is a new one. -/
def Move.isGentle (env : Collaborators σ) (w : World σ) : Move o → Bool
  | ask q => !q.mayRevive ||
    (q.client?.bind (w.store.record? q.bucket)).all fun r => !r.isExpiredAt (env.now w.outside)
  | errand e => env.now w.outside ≤ env.now (e.act w.outside)

/-- Whether every move of a row may come when it comes. -/
def Move.gentle (env : Collaborators σ) (depth : Nat) : List (Move o) → World σ → Bool
  | [], _ => true
  | m :: rest, w =>
    m.isGentle env w && ((converse env depth m.talk).run w).all fun x => gentle env depth rest x.2

theorem Move.gentle_cons {depth : Nat} {m : Move o} {rest : List (Move o)}
    (h : Move.gentle env depth (m :: rest) w = true)
    (hm : (converse env depth m.talk).run w = some ((), v)) :
    m.isGentle env w = true ∧ Move.gentle env depth rest v = true := by
  unfold gentle at h
  rw [hm] at h
  exact Bool.and_eq_true_iff.1 h

theorem Move.not_expired_of_gentle {q : Request} {i : Nat} {c : ClientId} {r : Record}
    (hq : (Move.ask q : Move o).isGentle env w = true) (hrevive : q.mayRevive = true)
    (haddress : q.addresses i c = true) (hr : w.store.record? i c = some r) :
    r.isExpiredAt (env.now w.outside) = false := by
  obtain ⟨d, hd⟩ : ∃ d, q.client? = some d := by
    cases q with
    | purge => cases hrevive
    | _ => exact ⟨_, rfl⟩
  obtain ⟨rfl, rfl⟩ := Request.eq_of_addresses hd haddress
  simpa [isGentle, hrevive, hd, hr] using hq

namespace Thinned

/-- One more purge. -/
theorem purge {bucket : Nat} {reply : (Request.purge bucket).Reply}
    (hv : Verdict o (.purge bucket) w reply w') : Thinned o w w' where
  toPeers := hv.peers
  records i c := by
    rw [hv.records]
    unfold Setting.turns
    split
    · exact .purged _ _
    · exact .same _

theorem asked (henv : env.Impassive o) (h : Thinned o w w') {q : Request} {reply reply' : q.Reply}
    (hv : Verdict o q w reply v) (hv' : Verdict o q w' reply' v')
    (hq : (Move.ask q : Move o).isGentle env w = true) : Thinned o v v' where
  toPeers := hv.peers.symm.trans (h.toPeers.trans hv'.peers)
  records i c := by
    rw [hv.records, hv'.records, h.setting_eq, hv.peers.view]
    refine Setting.turns_fades (x := o.setting w) (h.records i c) fun hrevive haddress r hr => ?_
    have hover := Move.not_expired_of_gentle hq hrevive haddress hr
    rwa [henv.clock] at hover

theorem errand (henv : env.Impassive o) (h : Thinned o w w') {e : Errand o}
    (he : (Move.errand e).isGentle env w = true) :
    Thinned o { w with outside := e.act w.outside } { w' with outside := e.act w'.outside } where
  toPeers := h.toPeers.errand e
  records i c := by
    have hle : env.now w.outside ≤ env.now (e.act w.outside) := of_decide_eq_true he
    rw [henv.clock, henv.clock] at hle
    exact (h.records i c).later hle

/-- A look that hides what is over. -/
theorem find_eq (h : Thinned o w w') {c : ClientId} {i : Nat} {withWill : Bool}
    {reply reply' : (Request.find c i true withWill).Reply}
    (hv : Verdict o (.find c i true withWill) w reply v)
    (hv' : Verdict o (.find c i true withWill) w' reply' v') : reply' = reply := by
  have hfirst := hv.reply c (by simp [Request.isAbout, Request.client?])
  have hsecond := hv'.reply c (by simp [Request.isAbout, Request.client?])
  rw [h.setting_eq, Setting.tells_find (x := o.setting w) (h.records _ c)] at hsecond
  exact Eq.trans hsecond hfirst.symm

/-- A read that skips what is over lists the same. -/
theorem filter_toList_eq (h : Thinned o w w') {i : Nat} {b b' : Bucket}
    (hget : ∀ c, b[c]? = w.store.record? i c) (hget' : ∀ c, b'[c]? = w'.store.record? i c)
    {p : ClientId → Record → Bool}
    (hp : ∀ c r, r.isExpiredAt (o.now (o.view w.outside)) = true → p c r = false) :
    b'.toList.filter (fun x => p x.1 x.2) = b.toList.filter fun x => p x.1 x.2 := by
  have hshown : b'.filter p = b.filter p := by
    apply Std.ExtTreeMap.ext_getElem?
    intro c
    rw [Std.ExtTreeMap.getElem?_filter', Std.ExtTreeMap.getElem?_filter', hget, hget']
    exact (h.records i c).filter_eq (hp c)
  rw [← Std.ExtTreeMap.toList_filter, ← Std.ExtTreeMap.toList_filter, hshown]

theorem disconnectedClients_eq (h : Thinned o w w') (i : Nat) :
    w'.store.disconnectedClients (o.now (o.view w.outside)) i =
      w.store.disconnectedClients (o.now (o.view w.outside)) i := by
  refine h.toPeers.read_eq fun b b' hget hget' => congrArg (List.map Prod.fst) ?_
  refine h.filter_toList_eq hget hget' (p := fun _ r => r.isInGraceAt (o.now (o.view w.outside))) ?_
  intro _ r ended
  rw [Entry.isInGraceAt_eq, ended, Bool.not_true, Bool.and_false]

theorem chunk_eq (h : Thinned o w w') (accepts : ClientId → Bool) (i : Nat) :
    w'.store.chunk (o.now (o.view w.outside)) accepts i =
      w.store.chunk (o.now (o.view w.outside)) accepts i := by
  let whole (l : List (ClientId × Record)) : Chunk :=
    .whole (l.map fun x => (x.1, x.2.object.withoutWill)) i
  refine h.toPeers.read_eq fun b b' hget hget' => congrArg whole ?_
  refine h.filter_toList_eq hget hget'
    (p := fun c r => accepts c && !r.isExpiredAt (o.now (o.view w.outside))) ?_
  intro c r ended
  rw [ended, Bool.not_true, Bool.and_false]

end Thinned

/-! ## One purge more or less -/

/-- Two histories from here, the second one with a purge before all else. -/
theorem Collaborators.Impassive.thinned (henv : env.Impassive o) (depth : Nat) {l : List (Turn o)}
    (hl : Move.gentle env (depth + 1) (l.flatMap (Turn.moves w.store.bucketCount)) w = true)
    (bucket : Nat) :
    ∃ v v', (converse env (depth + 1) (Turn.row l)).run w = some ((), v) ∧
      (converse env (depth + 1) (Turn.row (.move (.ask (.purge bucket)) :: l))).run w =
        some ((), v') ∧ Thinned o v v' := by
  let R (rest : List (Move o)) (w w' : World σ) : Prop :=
    Thinned o w w' ∧ Move.gentle env (depth + 1) rest w = true
  have hkept : ∀ m rest w w', true = true → R (m :: rest) w w' →
      ∃ v v', (converse env (depth + 1) m.talk).run w = some ((), v) ∧
        (converse env (depth + 1) m.talk).run w' = some ((), v') ∧ R rest v v' := by
    rintro m rest w w' - ⟨h, hgentle⟩
    cases m with
    | ask q =>
      obtain ⟨reply, v, hr, hv⟩ := henv.perform_verdict depth q w
      obtain ⟨reply', v', hr', hv'⟩ := henv.perform_verdict depth q w'
      obtain ⟨hq, hrest⟩ := Move.gentle_cons hgentle (Move.run_ask hr)
      exact ⟨v, v', Move.run_ask hr, Move.run_ask hr', h.asked henv hv hv' hq, hrest⟩
    | errand e =>
      obtain ⟨he, hrest⟩ := Move.gentle_cons hgentle (Move.run_errand e w)
      exact ⟨_, _, Move.run_errand e w, Move.run_errand e w', h.errand henv he, hrest⟩
  obtain ⟨reply, u, hr, hu⟩ := henv.perform_verdict depth (.purge bucket) w
  have hstart : R (l.flatMap (Turn.moves w.store.bucketCount)) w u := ⟨.purge hu, hl⟩
  obtain ⟨v, v', hv, hv', hend, -⟩ := Move.rows_abreast hkept (fun _ _ _ _ h => by cases h) _ hstart
  rw [List.filter_true] at hv'
  refine ⟨v, v', ?_, ?_, hend⟩
  · rwa [Turn.run_row l rfl]
  · rw [Turn.run_row _ rfl, List.flatMap_cons]
    exact Move.row_cons (Move.run_ask hr) hv'

/-- Nobody who reads with an eye on the clock can tell when a purge took place, if the collaborators
answer the same whatever they are told. Take a run up to any world, and let it go on from there,
with one more purge of some bucket at this moment or without it. From here on the clock may not go
back, and nobody may disconnect a client whose session is over or give it another interval. Then a
look that hides what is over finds the same in both worlds, with the will or without, the same
clients are away but may come back, and every chunk is the same. This holds after every turn, since
the turns up to it are a history too. -/
theorem sweep_timing_invisible (henv : env.Impassive o) (depth : Nat) {start : World σ}
    {l : List (Turn o)} (hl : Move.gentle env (depth + 1)
      (l.flatMap (Turn.moves start.store.bucketCount)) start = true) (bucket : Nat) :
    ∃ w w', (converse env (depth + 1) (Turn.row l)).run start = some ((), w) ∧
      (converse env (depth + 1) (Turn.row (.move (.ask (.purge bucket)) :: l))).run start =
        some ((), w') ∧
      (∀ c i withWill, ∃ found v v',
        (perform env (depth + 1) (.find c i true withWill)).run w = some (found, v) ∧
          (perform env (depth + 1) (.find c i true withWill)).run w' = some (found, v')) ∧
      (∀ c, ∃ found v v', (converse env (depth + 1) (ById.find c).talk).run w = some (found, v) ∧
        (converse env (depth + 1) (ById.find c).talk).run w' = some (found, v')) ∧
      (∀ i, w'.store.disconnectedClients (env.now w'.outside) i =
        w.store.disconnectedClients (env.now w.outside) i) ∧
      ∀ accepts i, w'.store.chunk (env.now w'.outside) accepts i =
        w.store.chunk (env.now w.outside) accepts i := by
  obtain ⟨w, w', hrun, hrun', h⟩ := henv.thinned depth hl bucket
  have hfind : ∀ c i withWill, ∃ found v v',
      (perform env (depth + 1) (.find c i true withWill)).run w = some (found, v) ∧
        (perform env (depth + 1) (.find c i true withWill)).run w' = some (found, v') := by
    intro c i withWill
    obtain ⟨reply, v, hr, hv⟩ := henv.perform_verdict depth (.find c i true withWill) w
    obtain ⟨reply', v', hr', hv'⟩ := henv.perform_verdict depth (.find c i true withWill) w'
    obtain rfl := h.find_eq hv hv'
    exact ⟨_, v, v', hr, hr'⟩
  have hnow : env.now w'.outside = o.now (o.view w.outside) := by rw [henv.clock, h.view]
  refine ⟨w, w', hrun, hrun', hfind, fun c => ?_, fun i => ?_, fun accepts i => ?_⟩
  · obtain ⟨found, v, v', hv, hv'⟩ := hfind c (w.store.bucketOf c) true
    rw [← h.bucketOf_eq c] at hv'
    exact ⟨found, v, v', (ById.find c).run_talk_some rfl hv, (ById.find c).run_talk_some rfl hv'⟩
  · rw [hnow, henv.clock]
    exact h.disconnectedClients_eq i
  · rw [hnow, henv.clock]
    exact h.chunk_eq accepts i

/-- Three clients come, and the sessions of two of them are over after a while. -/
def lapsed : List (Turn .quiet) :=
  [ .move (.ask (.put "a" { connected := false, expiry := 1 } ⟨1000⟩ 0)),
    .move (.ask (.put "b" { connected := true, expiry := 60 } ⟨1000⟩ 0)),
    .move (.ask (.put "c" { connected := false, expiry := 2 } ⟨1000⟩ 0)),
    .move (.errand (.setClock fun _ => ⟨9000⟩)) ]

/-- One of the two comes back, and the third one goes away. -/
def comeback : List (Turn .quiet) :=
  [ .move (.ask (.put "a" { connected := false, expiry := 5 } ⟨9000⟩ 0)),
    .move (.ask (.disconnect "b" ⟨9000⟩ true 0 none)),
    .move (.errand (.setClock fun _ => ⟨9500⟩)),
    .move (.ask (.cancelWill "c" 0)) ]

/-- With a purge before it, the comeback leaves two records, and without one it leaves three. The
same two clients may come back all the same, and a look for the third one gives the same. -/
theorem sweep_timing_invisible_comeback :
    ∃ w w' : World Backdrop, Reached .quiet w ∧ Reached .quiet w' ∧
      w.store.totalEntries = 3 ∧ w'.store.totalEntries = 2 ∧
      w.store.disconnectedClients ⟨9500⟩ 0 = .ok ["a", "b"] ∧
      w'.store.disconnectedClients ⟨9500⟩ 0 = .ok ["a", "b"] ∧
      ∃ found v v', (converse .quiet 1 (ById.find "c").talk).run w = some (found, v) ∧
        (converse .quiet 1 (ById.find "c").talk).run w' = some (found, v') := by
  let empty : World Backdrop :=
    { store := { defaultExpiry := 9, buckets := Array.replicate 2 ∅ },
      outside := { clock := ⟨500⟩ } }
  have hlapsed : ((converse .quiet 1 (Turn.row lapsed)).run empty).map (fun (_, u) =>
      (Move.gentle .quiet 1 (comeback.flatMap (Turn.moves 2)) u, u.store.bucketCount)) =
        some (true, 2) := by
    decide +kernel
  have hlater : ((converse .quiet 1 (Turn.row lapsed)).run empty).bind (fun (_, u) =>
      ((converse .quiet 1 (Turn.row comeback)).run u).map fun (_, w) =>
        (w.store.totalEntries, w.outside.clock,
          (w.store.disconnectedClients ⟨9500⟩ 0).toOption)) =
      some (3, ⟨9500⟩, some ["a", "b"]) := by
    decide +kernel
  have hpurged : ((converse .quiet 1 (Turn.row lapsed)).run empty).bind (fun (_, u) =>
      ((converse .quiet 1 (Turn.row (.move (.ask (.purge 0)) :: comeback))).run u).map fun (_, w) =>
        (w.store.totalEntries, w.outside.clock)) = some (2, ⟨9500⟩) := by
    decide +kernel
  obtain ⟨⟨_, u⟩, hrun, hfacts⟩ := Option.map_eq_some_iff.1 hlapsed
  rw [hrun] at hlater hpurged
  obtain ⟨hgentle, hcount⟩ : Move.gentle .quiet 1 (comeback.flatMap (Turn.moves 2)) u = true ∧
      u.store.bucketCount = 2 := Prod.mk.inj hfacts
  have hu : Reached .quiet u :=
    .conversed (.start _ (c := { bucketCount := 2, defaultExpiry := 9 }) rfl) hrun
  rw [← hcount] at hgentle
  obtain ⟨w, w', hw, hw', -, hfind, haway, -⟩ :=
    sweep_timing_invisible Collaborators.impassive_quiet 0 hgentle 0
  simp only [Option.bind_some, hw, hw', Option.map_some, Option.some.injEq, Prod.mk.injEq]
    at hlater hpurged
  obtain ⟨hthree, hclock, hlist⟩ := hlater
  obtain ⟨htwo, hclock'⟩ := hpurged
  have hsame := haway 0
  change w'.store.disconnectedClients w'.outside.clock 0 =
    w.store.disconnectedClients w.outside.clock 0 at hsame
  rw [hclock, hclock'] at hsame
  have hwaiting : w.store.disconnectedClients ⟨9500⟩ 0 = .ok ["a", "b"] := by
    cases hread : w.store.disconnectedClients ⟨9500⟩ 0 with
    | error why => simp [hread, Except.toOption] at hlist
    | ok waiting => simpa [hread, Except.toOption] using hlist
  exact ⟨w, w', .conversed hu hw, .conversed hu hw', hthree, htwo, hwaiting,
    hsame.trans hwaiting, hfind "c"⟩

/-! ## Payloads that do not stay -/

/-- A ledger that is tidied up: a payload that nobody refers to is thrown away. -/
def Backdrop.tidied (b : Backdrop) : Backdrop :=
  { b with ledger.payloads := b.ledger.payloads.filter fun _ p => 0 < p.references }

/-- Collaborators that never ask, but one of them tidies the ledger up at each call: the payload
store when a reference comes back or when it is asked for bytes, or the event log. -/
def Collaborators.tidying (atRelease atFetch atAnnounce : Bool) : Collaborators Backdrop where
  release id := Dialogue.change fun b =>
    if atRelease then (b.release id).tidied else b.release id
  fetch id := do
    let bytes := (← Dialogue.own).ledger.bytes? id
    Dialogue.change fun b => if atFetch then b.tidied else b
    return bytes
  announce instant client := Dialogue.change fun b =>
    if atAnnounce then (b.announce instant client).tidied else b.announce instant client
  now b := b.clock

theorem Collaborators.passive_tidying (atRelease atFetch atAnnounce : Bool) :
    (tidying atRelease atFetch atAnnounce).Passive where
  release _ := Dialogue.silent_change _
  fetch _ := Dialogue.silent_own.bind fun _ =>
    (Dialogue.silent_change _).bind fun _ => Dialogue.silent_pure _
  announce _ _ := Dialogue.silent_change _

/-- A will that names a payload. -/
def Will.naming (id : PayloadId) : Will := { publication := { topic := "" }, payloadId := id }

/-- Two clients come with a will each, and the session of the first one is over after a while. -/
def bequests : List (Turn .quiet) :=
  [ .move (.errand (.add [1])),
    .move (.errand (.add [2])),
    .move (.ask (.put "a" { connected := false, expiry := 1, will := Will.naming 1 } ⟨1000⟩ 0)),
    .move (.ask (.put "b" { connected := true, expiry := 60, will := Will.naming 2 } ⟨1000⟩ 0)),
    .move (.errand (.setClock fun _ => ⟨9000⟩)) ]

/-- Somebody looks for the second client, and a third one takes over the payload of the first. -/
def heirs : List (Turn .quiet) :=
  [ .move (.ask (.find "b" 0 true true)),
    .move (.errand (.retain 1)),
    .move (.ask (.put "c" { connected := true, expiry := 60, will := Will.naming 1 } ⟨9000⟩ 0)) ]

/-- These collaborators never ask, and yet a look for the third client tells whether there was a
purge before the heirs came: without one its will is there, and with one it is not. -/
def Collaborators.TellsOfPurge (env : Collaborators Backdrop) : Prop :=
  env.Passive ∧ ∃ u w w' v v' : World Backdrop, Reached env u ∧
    Move.gentle env 1 (heirs.flatMap (Turn.moves u.store.bucketCount)) u = true ∧
    (converse env 1 (Turn.row heirs)).run u = some ((), w) ∧
    (converse env 1 (Turn.row (.move (.ask (.purge 0)) :: heirs))).run u = some ((), w') ∧
    ∃ found found' : Session, found.will.isSome = true ∧ found'.will = none ∧
      (perform env 1 (.find "c" 0 true true)).run w = some (.ok (some found), v) ∧
      (perform env 1 (.find "c" 0 true true)).run w' = some (.ok (some found'), v')

/-- Whether a look after some turns shows the third client with a will. -/
def Collaborators.showsHeir (env : Collaborators Backdrop) (l : List (Turn .quiet))
    (u : World Backdrop) : Option Bool :=
  ((converse env 1 (Turn.row l)).run u).bind fun x =>
    ((perform env 1 (.find "c" 0 true true)).run x.2).bind fun y =>
      match y.1 with
      | .ok (some found) => some found.will.isSome
      | _ => none

theorem Collaborators.showsHeir_eq_some {env : Collaborators Backdrop} {l : List (Turn .quiet)}
    {u : World Backdrop} {b : Bool} (h : env.showsHeir l u = some b) :
    ∃ w v found, (converse env 1 (Turn.row l)).run u = some ((), w) ∧
      (perform env 1 (.find "c" 0 true true)).run w = some (.ok (some found), v) ∧
      found.will.isSome = b := by
  unfold showsHeir at h
  obtain ⟨⟨_, w⟩, hw, h⟩ := Option.bind_eq_some_iff.1 h
  obtain ⟨⟨reply, v⟩, hv, h⟩ := Option.bind_eq_some_iff.1 h
  dsimp only at h hv
  split at h
  · rename_i found
    exact ⟨w, v, found, hw, hv, Option.some.inj h⟩
  · cases h

/-- Collaborators tell of the purge if they do so after the bequests. -/
theorem Collaborators.Passive.tellsOfPurge {env : Collaborators Backdrop} (henv : env.Passive)
    (h : ((converse env 1 (Turn.row bequests)).run
      { store := { defaultExpiry := 9, buckets := Array.replicate 2 ∅ },
        outside := { clock := ⟨500⟩ } }).map (fun x =>
          (Move.gentle env 1 (heirs.flatMap (Turn.moves x.2.store.bucketCount)) x.2,
            env.showsHeir heirs x.2, env.showsHeir (.move (.ask (.purge 0)) :: heirs) x.2)) =
              some (true, some true, some false)) : env.TellsOfPurge := by
  obtain ⟨⟨_, u⟩, hrun, hfacts⟩ := Option.map_eq_some_iff.1 h
  simp only [Prod.mk.injEq] at hfacts
  obtain ⟨hgentle, hshown, hhidden⟩ := hfacts
  obtain ⟨w, v, found, hw, hv, hwill⟩ := showsHeir_eq_some hshown
  obtain ⟨w', v', found', hw', hv', hnone⟩ := showsHeir_eq_some hhidden
  have hu : Reached env u :=
    .conversed (.start _ (c := { bucketCount := 2, defaultExpiry := 9 }) rfl) hrun
  exact ⟨henv, u, w, w', v, v', hu, hgentle, hw, hw', found, found', hwill, by simpa using hnone,
    hv, hv'⟩

/-- It is not enough that the collaborators never ask. A purge gives the reference of a will back,
and then whoever tidies the ledger up may throw the payload away before the next client takes it
over. -/
theorem purge_told_by_tidying :
    (Collaborators.tidying true false false).TellsOfPurge ∧
      (Collaborators.tidying false true false).TellsOfPurge ∧
      (Collaborators.tidying false false true).TellsOfPurge := by
  refine ⟨(Collaborators.passive_tidying _ _ _).tellsOfPurge ?_,
    (Collaborators.passive_tidying _ _ _).tellsOfPurge ?_,
    (Collaborators.passive_tidying _ _ _).tellsOfPurge ?_⟩
  all_goals decide +kernel

end BrokerSessions
