-- The same request once more. A record is left as it is by a request that left it so, and what
-- was given back is not there to be given back again. A session that is put twice is an
-- exception: the second one takes the place of the first, and gives back the will that it brings.
import BrokerSessions.Proofs.Clearance
import BrokerSessions.Proofs.Reckoning

namespace BrokerSessions

/-! ## What is left of what was left -/

namespace Session

variable {s : Session}

/-- Whoever went away does not change by going away again. -/
theorem away_away (hbare : s.withoutPayload = s) (bytes? : PayloadId → Option Bytes)
    (sendWill : Bool) (expiry : Option Int64) :
    (s.away bytes? sendWill expiry).away bytes? sendWill expiry =
      s.away bytes? sendWill expiry := by
  rw [away_eq (away_withoutPayload hbare bytes? sendWill expiry), away_eq hbare]
  have hinterval : expiry.getD (expiry.getD s.expiry) = expiry.getD s.expiry := by
    cases expiry <;> rfl
  simp [leaving, hinterval]

/-- Nothing of a will that is not sent stays. -/
theorem payloadId?_away_unsent (hbare : s.withoutPayload = s) (bytes? : PayloadId → Option Bytes)
    (expiry : Option Int64) : (s.away bytes? false expiry).payloadId? = none := by
  rw [away_eq hbare]
  simp [payloadId?]

/-- A stranger that went away is known, but it has nothing that it could lose. -/
theorem away_of_away (hoff : s.connected = false) (hnone : s.will = none)
    (bytes? : PayloadId → Option Bytes) (sendWill : Bool) : s.away bytes? sendWill none = s := by
  obtain ⟨connected, expiry, will⟩ := s
  cases hoff
  cases hnone
  rw [away_eq rfl]
  rfl

end Session

/-- Whether a request leaves nothing to do for the same request after it. A session that is put
again brings its will again. A stranger that goes away gets the default interval, and only when it
goes away again does it get the one that it asks for. -/
def Request.isRepeatable : Request → Option Record → Bool
  | put .., _ => false
  | disconnect _ _ _ _ expiry, r? => r?.isSome || expiry.isNone
  | _, _ => true

namespace Setting

variable {x : Setting} {q : Request} {client : ClientId} {r? : Option Record}

/-- What a request makes of the record of its own client. -/
theorem turns_own (hq : q.client? = some client) (hdoor : x.objection q = none) :
    x.turns q q.bucket client r? = x.leaves q r? := by
  cases q with
  | purge => cases hq
  | find => simp [turns, leaves]
  | _ => cases hq; simp [turns, hdoor, Request.addresses, Request.bucket]

theorem turns_turns {i : Nat} {c : ClientId}
    (hleaves : q.addresses i c = true → x.leaves q (x.leaves q r?) = x.leaves q r?) :
    x.turns q i c (x.turns q i c r?) = x.turns q i c r? := by
  unfold turns
  split
  · rename_i hlet
    exact hleaves hlet.2
  · rfl

section

variable (hbare : ∀ r, r? = some r → r.object.withoutPayload = r.object)
  (hagain : q.isRepeatable r? = true)

include hbare hagain

/-- A request leaves a record alone if it comes upon what it left itself, -/
theorem leaves_leaves (hoff : x.stranger.connected = false) (hnone : x.stranger.will = none) :
    x.leaves q (x.leaves q r?) = x.leaves q r? := by
  cases q with
  | put => cases hagain
  | disconnect client stamp sendWill bucket expiry =>
    cases r? with
    | some old =>
      exact congrArg (fun s : Session => some (s.keptAt stamp))
        (Session.away_away (hbare old rfl) _ _ _)
    | none =>
      obtain rfl : expiry = none := Option.isNone_iff_eq_none.1 hagain
      exact congrArg (fun s : Session => some (s.keptAt stamp))
        (Session.away_of_away hoff hnone _ _)
  | remove => rfl
  | purge => simp [leaves, Option.filter_filter]
  | setExpiry client expiry bucket =>
    cases r? with
    | none => rfl
    | some old =>
      simp only [leaves, Option.map_some]
      cases hlive : old.object.isLive with
      | false => simp [hlive]
      | true =>
        refine congrArg some ?_
        -- The record may not be live any more. It is left alone then, and else stamped again.
        simp only [if_true]
        split <;> rfl
  | cancelWill client bucket =>
    cases r? with
    | none => rfl
    | some old =>
      simp only [leaves, Option.map_some]
      cases hon : old.object.connected with
      | false =>
        refine congrArg some ?_
        simp only [Bool.false_eq_true, if_false]
        split <;> rfl
      | true => simp [hon]
  | find => rfl

/-- and it finds no will that it could give back. -/
theorem returns_leaves (hnone : x.stranger.will = none) : q.returns (x.leaves q r?) = none := by
  cases q with
  | put => cases hagain
  | disconnect client stamp sendWill bucket expiry =>
    cases sendWill with
    | true => rfl
    | false =>
      cases r? with
      | some old => exact Session.payloadId?_away_unsent (hbare old rfl) x.bytes? expiry
      | none => simp [Request.returns, leaves, Entry.weighed, Session.payloadId?, hnone]
  | remove => rfl
  | purge => rfl
  | setExpiry => rfl
  | cancelWill client bucket =>
    cases r? with
    | none => rfl
    | some old =>
      simp only [leaves, Option.map_some]
      cases hon : old.object.connected with
      | false => simp [Request.returns, Entry.weighed, Session.payloadId?, Session.withoutWill, hon]
      | true => simp [Request.returns, hon]
  | find => rfl

end

end Setting

/-! ## Two in a row -/

section

variable {w v u : World Backdrop}

/-- A request is made twice. The records tell what becomes of the store. -/
theorem Reached.asked_twice (hw : Reached .quiet w) (depth : Nat) (q : Request)
    (hleaves : ∀ i c, q.addresses i c = true →
      (Outlook.quiet.setting w).leaves q
        ((Outlook.quiet.setting w).leaves q (w.store.record? i c)) =
        (Outlook.quiet.setting w).leaves q (w.store.record? i c)) :
    ∃ first v second u, (perform .quiet (depth + 1) q).run w = some (first, v) ∧
      (perform .quiet (depth + 1) q).run v = some (second, u) ∧
      Verdict .quiet q w first v ∧ Verdict .quiet q v second u ∧ u.store = v.store := by
  obtain ⟨first, v, hrun, hfirst⟩ := Collaborators.impassive_quiet.perform_verdict depth q w
  obtain ⟨second, u, hagain, hsecond⟩ := Collaborators.impassive_quiet.perform_verdict depth q v
  have hv : Reached .quiet v := hw.asked hrun
  refine ⟨first, v, second, u, hrun, hagain, hfirst, hsecond, ?_⟩
  refine hv.store_eq (hv.asked hagain) hsecond.peers.count hsecond.peers.defaultExpiry
    hsecond.peers.walk ?_
  intro i c
  rw [hsecond.records, hfirst.peers.setting_eq, hfirst.records]
  exact Setting.turns_turns (hleaves i c)

namespace Cleared

variable {gone : List Row} {told : List (Timestamp × ClientId)}

/-- Nothing was cleared away. -/
theorem same_of_nil (h : Cleared [] [] w v) : v.store = w.store ∧ v.outside = w.outside :=
  ⟨h.store, Backdrop.mk.injEq .. |>.mpr ⟨h.ledger, h.clock, h.events⟩⟩

/-- What was over and cleared away is not found again. -/
theorem not_over (h : Cleared gone told w v) {i : Nat} {c : ClientId} {r : Record}
    (hgone : w.store.record? i c = some r → r.isExpiredAt w.outside.clock = true →
      (i, c, r) ∈ gone) :
    ¬ (v.store.record? i c = some r ∧ r.isExpiredAt v.outside.clock = true) := by
  rintro ⟨known, hover⟩
  rw [h.record?_eq] at known
  rw [h.clock] at hover
  split at known
  · cases known
  · rename_i hstays
    exact hstays (List.mem_map_of_mem (hgone known hover))

end Cleared

/-- A conversation that is held twice in a row changes nothing the second time, whatever it
hears then. -/
def World.Absorbs (w : World Backdrop) (depth : Nat) {α : Type} (d : Dialogue Backdrop α) : Prop :=
  ∃ first v second u, (converse .quiet depth d).run w = some (first, v) ∧
    (converse .quiet depth d).run v = some (second, u) ∧
    u.store = v.store ∧ u.outside = v.outside

namespace World

variable {depth : Nat} {q : Request} {first second : q.Reply}
  (hrun : (perform .quiet depth q).run w = some (first, v))
  (hagain : (perform .quiet depth q).run v = some (second, u))

include hrun hagain

theorem absorbs_request (hsame : u.store = v.store ∧ u.outside = v.outside) :
    w.Absorbs depth (Dialogue.request q) := by
  unfold Absorbs
  rw [converse_request]
  exact ⟨first, v, second, u, hrun, hagain, hsame⟩

theorem Absorbs.same (h : w.Absorbs depth (Dialogue.request q)) :
    u.store = v.store ∧ u.outside = v.outside := by
  unfold Absorbs at h
  rw [converse_request] at h
  obtain ⟨_, _, _, _, hrun', hagain', hsame⟩ := h
  cases hrun.symm.trans hrun'
  cases hagain.symm.trans hagain'
  exact hsame

end World

variable (depth : Nat)

/-- A second purge finds nothing that is over. -/
theorem absorbs_purge (bucket : Nat) :
    w.Absorbs (depth + 1) (Dialogue.request (.purge bucket)) := by
  cases hdoor : w.store.objection (.purge bucket) with
  | some why =>
    let v := (w.note (.called (.purge bucket))).note (.answered (.purge bucket) (some why))
    have hdoor' : v.store.objection (.purge bucket) = some why := hdoor
    exact World.absorbs_request (perform_turnedAway hdoor depth)
      (perform_turnedAway hdoor' depth) ⟨rfl, rfl⟩
  | none =>
    obtain ⟨hlt, hfree⟩ := (w.store.barrier_eq_none_iff bucket).1 hdoor
    obtain ⟨v, hv, hcleared⟩ := perform_purge_cleared w depth hlt hfree
    obtain ⟨u, hu, hcleared'⟩ := perform_purge_cleared v depth (hcleared.count ▸ hlt)
      (hcleared.writing ▸ hfree)
    have hnothing : v.store.expiredRows v.outside.clock bucket = [] := by
      refine List.eq_nil_iff_forall_not_mem.2 fun x hx => ?_
      obtain ⟨hin, hover⟩ := Store.mem_expiredRows.1 hx
      exact hcleared.not_over (fun known ended => Store.mem_expiredRows.2 ⟨hin, known, ended⟩) hover
    rw [hnothing] at hcleared'
    exact World.absorbs_request hv hu hcleared'.same_of_nil

/-- Neither does a second sweep. -/
theorem absorbs_sweep (hw : Reached .quiet w) : w.Absorbs (depth + 1) Dialogue.sweep := by
  obtain ⟨v, hv, hcleared⟩ := purgeAll_cleared depth w 0 (List.range w.store.bucketCount)
    List.nodup_range (fun b hb => List.mem_range.1 hb) hw.writing
  obtain ⟨u, hu, hcleared'⟩ := purgeAll_cleared depth v 0 (List.range v.store.bucketCount)
    List.nodup_range (fun b hb => List.mem_range.1 hb) (hcleared.writing.trans hw.writing)
  have hnothing : v.store.overdue v.outside.clock (List.range v.store.bucketCount) = [] := by
    refine List.eq_nil_iff_forall_not_mem.2 fun x hx => ?_
    exact hcleared.not_over (fun known ended => Store.mem_overdue.2 ⟨known, ended⟩)
      (Store.mem_overdue.1 hx)
  rw [hnothing] at hcleared'
  exact ⟨_, v, _, u, hv, hu, hcleared'.same_of_nil⟩

/-- Who asks about one client changes nothing by asking again. -/
theorem absorbs_of_isRepeatable (hw : Reached .quiet w) {q : Request} {client : ClientId}
    (hq : q.client? = some client)
    (hagain : q.isRepeatable (w.store.record? q.bucket client) = true) :
    w.Absorbs (depth + 1) (Dialogue.request q) := by
  have hbare : ∀ r, w.store.record? q.bucket client = some r →
      r.object.withoutPayload = r.object := fun r hr => hw.bare Collaborators.passive_quiet hr
  obtain ⟨first, v, second, u, hrun, hrun', hfirst, -, hstore⟩ :=
    hw.asked_twice depth q fun i c hic => by
      obtain ⟨rfl, rfl⟩ := Request.eq_of_addresses hq hic
      exact Setting.leaves_leaves hbare hagain rfl rfl
  refine World.absorbs_request hrun hrun' ⟨hstore, ?_⟩
  have hback := perform_gaveBack hq hrun'
  have hnone : (if v.store.objection q = none then q.returns (v.store.record? q.bucket client)
      else none) = none := by
    rw [hfirst.peers.objection_eq]
    split
    · rename_i hdoor
      have hown : v.store.record? q.bucket client = _ :=
        (hfirst.records q.bucket client).trans (Setting.turns_own hq hdoor)
      rw [hown]
      exact Setting.returns_leaves hbare hagain rfl
    · rfl
  rw [hnone] at hback
  exact hback.outside

/-- A session that is put again takes the place of itself, and gives back the will it brought. -/
theorem put_again (hw : Reached .quiet w) {client : ClientId} {session : Session}
    {stamp : Timestamp} {bucket : Nat}
    (hrun : (perform .quiet (depth + 1) (.put client session stamp bucket)).run w =
      some (.ok (), v)) :
    ∃ u, (perform .quiet (depth + 1) (.put client session stamp bucket)).run v =
        some (.ok (), u) ∧ u.store = v.store ∧ GaveBack session.payloadId? v u := by
  let q : Request := .put client session stamp bucket
  obtain ⟨_, v', second, u, hv', hrun', hfirst, hsecond, hstore⟩ :=
    hw.asked_twice depth q fun _ _ _ => rfl
  obtain ⟨rfl, rfl⟩ := Prod.mk.inj (Option.some.inj (hrun.symm.trans hv'))
  have hdoor : w.store.objection q = none := by
    cases hwhy : w.store.objection q with
    | none => rfl
    | some why => cases hrun.symm.trans (perform_turnedAway hwhy depth)
  have hdoor' : v.store.objection q = none :=
    (congrFun hfirst.peers.objection_eq q).trans hdoor
  have hown : q.addresses bucket client = true := by simp [q, Request.addresses]
  have hreply : second = .ok () := (hsecond.granted hdoor' hown).2
  have hback := perform_gaveBack (rfl : q.client? = some client) hrun'
  have hbrought : q.returns (v.store.record? bucket client) = session.payloadId? := by
    rw [(hfirst.granted hdoor hown).1]
    simp [q, Request.returns, Setting.leaves, Entry.weighed]
  rw [if_pos hdoor'] at hback
  exact ⟨u, hreply ▸ hrun', hstore, hbrought ▸ hback⟩

end

/-- A request that is made twice in a row changes nothing the second time, and neither does a
second sweep. Only a session that is put twice gives its will back: it takes the place of itself. -/
theorem repeats_change_nothing {w : World Backdrop} (hw : Reached .quiet w) (depth : Nat) :
    (∀ (q : Request) (client : ClientId), q.client? = some client →
      q.isRepeatable (w.store.record? q.bucket client) = true →
        w.Absorbs (depth + 1) (Dialogue.request q)) ∧
    (∀ bucket, w.Absorbs (depth + 1) (Dialogue.request (.purge bucket))) ∧
    w.Absorbs (depth + 1) Dialogue.sweep ∧
    ∀ (client : ClientId) (session : Session) (stamp : Timestamp) (bucket : Nat)
      (v : World Backdrop),
      (perform .quiet (depth + 1) (.put client session stamp bucket)).run w = some (.ok (), v) →
        ∃ u, (perform .quiet (depth + 1) (.put client session stamp bucket)).run v =
            some (.ok (), u) ∧ u.store = v.store ∧ GaveBack session.payloadId? v u :=
  ⟨fun _ _ hq hagain => absorbs_of_isRepeatable depth hw hq hagain, absorbs_purge depth,
    absorbs_sweep depth hw, fun _ _ _ _ _ hrun => put_again depth hw hrun⟩

/-- A client is away with a will. -/
def leftBehind : Dialogue Backdrop Unit := do
  let will : Will := { publication := { topic := "t" }, payloadId := 1 }
  let _ ← Dialogue.request (.put "a" { connected := false, expiry := 4, will } ⟨1⟩ 0)

/-- Its session can be given up once, and then there is none. A stranger may go away twice. The
same will that is put again and again is given back each time. -/
theorem repeats_change_nothing_leftBehind :
    let will : Will := { publication := { topic := "t" }, payloadId := 1 }
    let session : Session := { connected := true, expiry := 4, will }
    ∃ w, Reached .quiet w ∧
      (∃ v u, (perform .quiet 1 (.setExpiry "a" 0 0)).run w = some (.ok (), v) ∧
        (perform .quiet 1 (.setExpiry "a" 0 0)).run v = some (.error .noSession, u) ∧
        u.store = v.store ∧ u.outside = v.outside) ∧
      w.Absorbs 1 (Dialogue.request (.disconnect "c" ⟨2⟩ true 1 none)) ∧
      ∃ v u, (perform .quiet 1 (.put "a" session ⟨2⟩ 0)).run w = some (.ok (), v) ∧
        (perform .quiet 1 (.put "a" session ⟨2⟩ 0)).run v = some (.ok (), u) ∧
        u.store = v.store ∧ v.outside.ledger.references 1 = 0 ∧
        u.outside.ledger.references 1 = -1 := by
  intro will session
  have hend : ((converse .quiet 1 leftBehind).run
      { store := { defaultExpiry := 9, buckets := Array.replicate 2 ∅ },
        outside := { ledger := (PayloadLedger.add {} [7]).2, clock := ⟨3⟩ } }).bind (fun (_, w) =>
          ((perform .quiet 1 (.setExpiry "a" 0 0)).run w).bind
            fun ((reply, v) : Except Refusal Unit × World Backdrop) =>
            ((perform .quiet 1 (.setExpiry "a" 0 0)).run v).bind
              fun ((again, _) : Except Refusal Unit × World Backdrop) =>
              ((perform .quiet 1 (.put "a" session ⟨2⟩ 0)).run w).map
                fun ((kept, u) : Except Refusal Unit × World Backdrop) =>
                [decide (refusalOf reply = none), decide (refusalOf again = some .noSession),
                  decide (refusalOf kept = none), decide (u.outside.ledger.references 1 = 0),
                  decide (u.outside.ledger.bytes? 1 = some [7])]) =
      some [true, true, true, true, true] := by
    decide +kernel
  obtain ⟨⟨_, w⟩, hrun, hend⟩ := Option.bind_eq_some_iff.1 hend
  obtain ⟨⟨(reply : Except Refusal Unit), v⟩, hset, hend⟩ := Option.bind_eq_some_iff.1 hend
  obtain ⟨⟨(again : Except Refusal Unit), u⟩, hsetAgain, hend⟩ := Option.bind_eq_some_iff.1 hend
  obtain ⟨⟨(kept : Except Refusal Unit), v'⟩, hput, hfacts⟩ := Option.map_eq_some_iff.1 hend
  obtain ⟨hreply, hagain, hkept, hbefore, hbytes⟩ : refusalOf reply = none ∧
      refusalOf again = some .noSession ∧ refusalOf kept = none ∧
        v'.outside.ledger.references 1 = 0 ∧ v'.outside.ledger.bytes? 1 = some [7] := by
    simpa using hfacts
  have hreached : Reached .quiet w :=
    .conversed (.start _ (c := { bucketCount := 2, defaultExpiry := 9 }) rfl) hrun
  obtain ⟨hone, -, -, hputs⟩ := repeats_change_nothing hreached 0
  obtain rfl : reply = .ok () := by
    cases reply with
    | ok => rfl
    | error => cases hreply
  obtain rfl : again = .error .noSession := by
    cases again with
    | ok => cases hagain
    | error why => exact congrArg Except.error (Option.some.inj hagain)
  obtain rfl : kept = .ok () := by
    cases kept with
    | ok => rfl
    | error => cases hkept
  obtain ⟨u', hputAgain, hstore, hback⟩ := hputs _ _ _ _ v' hput
  refine ⟨w, hreached, ⟨v, u, hset, hsetAgain, ?_⟩, hone _ "c" rfl (Bool.or_true _), v', u', hput,
    hputAgain, hstore, hbefore, ?_⟩
  · exact (hone (.setExpiry "a" 0 0) "a" rfl rfl).same hset hsetAgain
  · have hledger : u'.outside.ledger = v'.outside.ledger.release 1 :=
      congrArg Backdrop.ledger hback.outside
    rw [hledger, PayloadLedger.references_release, if_pos ⟨rfl, by rw [hbytes]; rfl⟩, hbefore]
    rfl

end BrokerSessions
