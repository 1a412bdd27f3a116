-- Keys are isolated. Take all that was asked about other clients and other buckets out of a
-- history, and whoever asks about the one client that is left gets the same answers as before.
-- Others may name the payload of its will, and the same client may lie in other buckets too.
import BrokerSessions.Proofs.Histories

namespace BrokerSessions

variable {σ : Type} {env : Collaborators σ} {o : Outlook σ} {b : Nat} {c : ClientId}
  {w w' v v' : World σ}

/-! ## Two worlds and one client -/

/-- Whether a move stays when all is left out that changes other clients or other buckets.
Looks and errands stay. -/
def Move.concerns (b : Nat) (c : ClientId) : Move o → Bool
  | ask q => !q.isMutation || q.addresses b c
  | errand _ => true

/-- The moves of a history in a store with `n` buckets, without those that change other clients
or other buckets. -/
def Turn.about (n b : Nat) (c : ClientId) (l : List (Turn o)) : List (Move o) :=
  (l.flatMap (Turn.moves n)).filter (Move.concerns b c)

/-- Two peers that hold the same record for a client. -/
structure AlikeAt (o : Outlook σ) (b : Nat) (c : ClientId) (w w' : World σ) : Prop
    extends Peers o w w' where
  record : w'.store.record? b c = w.store.record? b c

namespace AlikeAt

theorem refl (w : World σ) : AlikeAt o b c w w := ⟨.refl w, rfl⟩

/-- What is asked in both worlds makes the same of the record. -/
theorem asked (h : AlikeAt o b c w w') {q : Request} {reply reply' : q.Reply}
    (hv : Verdict o q w reply v) (hv' : Verdict o q w' reply' v') : AlikeAt o b c v v' where
  toPeers := hv.peers.symm.trans (h.toPeers.trans hv'.peers)
  record := by rw [hv'.records, hv.records, h.setting_eq, h.record]

/-- What is asked in one world only leaves the record as it is, if it is about others. -/
theorem skipped (h : AlikeAt o b c w w') {q : Request} {reply : q.Reply}
    (hv : Verdict o q w reply v) (hq : q.addresses b c = false) : AlikeAt o b c v w' where
  toPeers := hv.peers.symm.trans h.toPeers
  record := by rw [hv.spared hq, h.record]

theorem errand (h : AlikeAt o b c w w') (e : Errand o) :
    AlikeAt o b c { w with outside := e.act w.outside } { w' with outside := e.act w'.outside } :=
  ⟨h.toPeers.errand e, h.record⟩

/-- The answers to a request about the client are the same. -/
theorem replies (h : AlikeAt o b c w w') {q : Request} {reply reply' : q.Reply}
    (hv : Verdict o q w reply v) (hv' : Verdict o q w' reply' v') (hb : q.bucket = b)
    (hc : q.isAbout c = true) : q.SameFor c reply reply' := by
  subst hb
  have hfirst := hv.reply c hc
  have hsecond := hv'.reply c hc
  rw [h.setting_eq, h.record] at hsecond
  exact hfirst.trans hsecond.symm

theorem stamp?_eq (h : AlikeAt o b c w w') : w'.store.stamp? b c = w.store.stamp? b c :=
  h.toPeers.read_eq fun _ _ hget hget' => by rw [hget', hget, h.record]

end AlikeAt

/-! ## Histories with and without the others -/

/-- Both histories come to an end, and they leave the record of the client alike. -/
theorem Collaborators.Impassive.alikeAt (henv : env.Impassive o) (depth : Nat) (l : List (Turn o))
    (b : Nat) (c : ClientId) (w : World σ) :
    ∃ v v', (converse env (depth + 1) (Turn.row l)).run w = some ((), v) ∧
      (converse env (depth + 1) (Move.row (Turn.about w.store.bucketCount b c l))).run w =
        some ((), v') ∧ AlikeAt o b c v v' := by
  rw [Turn.run_row l rfl]
  refine Move.rows_abreast (R := fun _ => AlikeAt o b c) ?_ ?_ _ (.refl w)
  · intro m _ u u' _ h
    cases m with
    | ask q =>
      obtain ⟨reply, v, hr, hv⟩ := henv.perform_verdict depth q u
      obtain ⟨reply', v', hr', hv'⟩ := henv.perform_verdict depth q u'
      exact ⟨v, v', Move.run_ask hr, Move.run_ask hr', h.asked hv hv'⟩
    | errand e => exact ⟨_, _, Move.run_errand e u, Move.run_errand e u', h.errand e⟩
  · intro m _ u u' hm h
    cases m with
    | ask q =>
      have hq : q.addresses b c = false := (Bool.or_eq_false_iff.1 hm).2
      obtain ⟨reply, v, hr, hv⟩ := henv.perform_verdict depth q u
      exact ⟨v, Move.run_ask hr, h.skipped hv hq⟩
    | errand e => cases hm

theorem ById.client?_request? {q : ById} {n : Nat} {p : Request} (h : q.request? n = some p) :
    p.client? = some q.client := by
  cases q <;> cases h <;> rfl

/-- Who names a client and no bucket gets the same answer in two worlds, if those do who name the
bucket of the client. -/
theorem ById.answered_alike {depth : Nat} (q : ById) (hb : w.store.bucketOf q.client = b)
    (hb' : w'.store.bucketOf q.client = b)
    (hask : ∀ p : Request, p.client? = some q.client → p.bucket = b → ∃ reply v v',
      (perform env depth p).run w = some (reply, v) ∧
        (perform env depth p).run w' = some (reply, v'))
    (hstamp : w'.store.stamp? b q.client = w.store.stamp? b q.client) :
    ∃ reply v v', (converse env depth q.talk).run w = some (reply, v) ∧
      (converse env depth q.talk).run w' = some (reply, v') := by
  have hsame : q.request? w'.store.bucketCount = q.request? w.store.bucketCount := by
    have hbucket : Routing.bucketOf q.client w'.store.bucketCount =
        Routing.bucketOf q.client w.store.bucketCount := hb'.trans hb.symm
    cases q <;> simp only [request?, client] at hbucket ⊢ <;> rw [hbucket]
  cases hp : q.request? w.store.bucketCount with
  | none =>
    rw [q.eq_stampOf hp]
    refine ⟨_, w, w', run_stampOf env depth q.client w, ?_⟩
    rw [run_stampOf, hb, hb', hstamp]
    rfl
  | some p =>
    obtain ⟨reply, v, v', hv, hv'⟩ :=
      hask p (q.client?_request? hp) ((q.bucket_request? hp).trans hb)
    exact ⟨_, v, v', q.run_talk_some hp hv, q.run_talk_some (hsame.trans hp) hv'⟩

/-- Keys are isolated. Whatever happened, take out all that was asked to change other clients or
other buckets, and nobody who asks about the one client can tell. The histories leave the same
record of it. The next request about it, with the bucket or without, is answered in the same way,
and a purge of its bucket takes it away in both worlds or in none. This holds after every turn,
since the turns up to it are a history too. -/
theorem keys_are_isolated (henv : env.Impassive o) (depth : Nat) (l : List (Turn o)) (b : Nat)
    (c : ClientId) (start : World σ) :
    ∃ w w', (converse env (depth + 1) (Turn.row l)).run start = some ((), w) ∧
      (converse env (depth + 1) (Move.row (Turn.about start.store.bucketCount b c l))).run start =
        some ((), w') ∧
      w'.store.record? b c = w.store.record? b c ∧ w'.store.stamp? b c = w.store.stamp? b c ∧
      (∀ q : Request, q.client? = some c → q.bucket = b → ∃ reply v v',
        (perform env (depth + 1) q).run w = some (reply, v) ∧
          (perform env (depth + 1) q).run w' = some (reply, v')) ∧
      (∃ reply reply' v v', (perform env (depth + 1) (.purge b)).run w = some (reply, v) ∧
        (perform env (depth + 1) (.purge b)).run w' = some (reply', v') ∧
          (Request.purge b).SameFor c reply reply') ∧
      ∀ q : ById, q.client = c → start.store.bucketOf c = b → ∃ reply v v',
        (converse env (depth + 1) q.talk).run w = some (reply, v) ∧
          (converse env (depth + 1) q.talk).run w' = some (reply, v') := by
  obtain ⟨w, w', hrun, hrun', h⟩ := henv.alikeAt depth l b c start
  have hasked : ∀ q : Request, q.isAbout c = true → q.bucket = b → ∃ reply reply' v v',
      (perform env (depth + 1) q).run w = some (reply, v) ∧
        (perform env (depth + 1) q).run w' = some (reply', v') ∧ q.SameFor c reply reply' := by
    intro q hc hb
    obtain ⟨reply, v, hr, hv⟩ := henv.perform_verdict depth q w
    obtain ⟨reply', v', hr', hv'⟩ := henv.perform_verdict depth q w'
    exact ⟨reply, reply', v, v', hr, hr', h.replies hv hv' hb hc⟩
  have hone : ∀ q : Request, q.client? = some c → q.bucket = b → ∃ reply v v',
      (perform env (depth + 1) q).run w = some (reply, v) ∧
        (perform env (depth + 1) q).run w' = some (reply, v') := by
    intro q hc hb
    obtain ⟨reply, reply', v, v', hr, hr', hsame⟩ := hasked q (by simp [Request.isAbout, hc]) hb
    obtain rfl := hsame.eq (by simp [hc])
    exact ⟨reply, v, v', hr, hr'⟩
  refine ⟨w, w', hrun, hrun', h.record, h.stamp?_eq, hone, hasked (.purge b) rfl rfl, ?_⟩
  rintro q rfl hb
  have hframe := Dialogue.run_keeps Frame.lasting.toChatty (perform_frame env _) _ hrun
  have hcount : w.store.bucketOf q.client = b := by
    unfold Store.bucketOf at hb ⊢
    rw [hframe.count, hb]
  exact q.answered_alike hcount ((h.bucketOf_eq _).trans hcount) hone h.stamp?_eq

/-- A will on a topic, whose payload is the first one of the ledger. -/
def Will.first (topic : String) : Will := { publication := { topic }, payloadId := 1 }

/-- Three records share a payload: two clients of a bucket, and the first of them in another
bucket too. -/
def crowd : List (Turn .quiet) :=
  [ .move (.errand (.add [7])),
    .move (.ask (.put "a" { connected := true, expiry := 60, will := Will.first "x" } ⟨1000⟩ 1)),
    .move (.errand (.retain 1)),
    .move (.ask (.put "b" { connected := true, expiry := 9, will := Will.first "y" } ⟨2000⟩ 1)),
    .move (.ask (.put "a" { connected := true, expiry := 5, will := Will.first "z" } ⟨2000⟩ 0)),
    .move (.ask (.disconnect "b" ⟨3000⟩ false 1 (some 1))),
    .move (.ask (.disconnect "a" ⟨4000⟩ true 1 none)),
    .byId (.disconnect "b" ⟨5000⟩ true none),
    .move (.errand (.setClock fun _ => ⟨9000⟩)),
    .sweep ]

/-- The first client of the crowd alone is like in the crowd, although the payload has one
reference less there. -/
theorem keys_are_isolated_crowd :
    ∃ (w w' : World Backdrop) (r : Record),
      w.store.totalEntries = 3 ∧ w'.store.totalEntries = 1 ∧
      w.outside.ledger.references 1 = 1 ∧ w'.outside.ledger.references 1 = 2 ∧
      w.store.record? 1 "a" = some r ∧ w'.store.record? 1 "a" = some r ∧
      ∃ found v v', (converse .quiet 1 (ById.find "a").talk).run w = some (found, v) ∧
        (converse .quiet 1 (ById.find "a").talk).run w' = some (found, v') := by
  let start : World Backdrop :=
    { store := { defaultExpiry := 9, buckets := Array.replicate 2 ∅ },
      outside := { clock := ⟨500⟩ } }
  let session : Session := { connected := false, expiry := 60, will := Will.first "x" }
  let r : Record := session.keptAt ⟨4000⟩
  have hfull : ((converse .quiet 1 (Turn.row crowd)).run start).map (fun (_, w) =>
      (w.store.totalEntries, w.outside.ledger.references 1, w.store.record? 1 "a")) =
        some (3, 1, some r) := by
    decide +kernel
  have halone : ((converse .quiet 1 (Move.row (Turn.about 2 1 "a" crowd))).run start).map
      (fun (_, w) => (w.store.totalEntries, w.outside.ledger.references 1)) = some (1, 2) := by
    decide +kernel
  obtain ⟨w, w', hrun, hrun', hrecord, -, -, -, hbyId⟩ :=
    keys_are_isolated Collaborators.impassive_quiet 0 crowd 1 "a" start
  have hcount : start.store.bucketCount = 2 := rfl
  rw [hcount] at hrun'
  rw [hrun] at hfull
  rw [hrun'] at halone
  obtain ⟨hthree, hone, hknown⟩ : w.store.totalEntries = 3 ∧ w.outside.ledger.references 1 = 1 ∧
      w.store.record? 1 "a" = some r := by simpa using hfull
  obtain ⟨hsingle, htwo⟩ : w'.store.totalEntries = 1 ∧ w'.outside.ledger.references 1 = 2 := by
    simpa using halone
  exact ⟨w, w', r, hthree, hsingle, hone, htwo, hknown, hrecord.trans hknown,
    hbyId (.find "a") rfl (by decide +kernel)⟩

end BrokerSessions
