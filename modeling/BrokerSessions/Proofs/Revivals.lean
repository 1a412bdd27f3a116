-- Who can get a new interval. A look hides a session that is over, but its record lingers until a
-- purge takes it away, and so long it can be given a new interval. The record is stamped anew
-- with that, so the session is not over any more, unless the new interval is none. Where no record
-- lingers, an interval can be set exactly for the clients that a look shows.
import BrokerSessions.Proofs.Deadlines
import BrokerSessions.Proofs.Fates
import BrokerSessions.Proofs.Readers
import BrokerSessions.Proofs.Refusals

namespace BrokerSessions

variable {σ : Type}

/-! ## Records that linger -/

/-- No time goes by between an instant and itself. -/
theorem Timestamp.millisSince_self (t : Timestamp) : (t.millisSince t).toInt = 0 := by
  rw [toInt_millisSince, sub_self]
  decide

theorem Session.isLive_eq_false_iff {s : Session} :
    s.isLive = false ↔ s.connected = false ∧ s.expiry.toInt ≤ 0 := by
  have hzero : (0 : Int64).toInt = 0 := rfl
  simp only [isLive, isPersistent, Bool.or_eq_false_iff, decide_eq_false_iff_not,
    Int64.lt_iff_toInt_lt, hzero, Int.not_lt]

namespace Entry

variable {r : Record} {now : Timestamp}

/-- A tombstone is over, whatever the time is. -/
theorem isExpiredAt_of_not_isLive (h : r.object.isLive = false) : r.isExpiredAt now = true := by
  obtain ⟨haway, hnone⟩ := Session.isLive_eq_false_iff.1 h
  exact Session.isExpired_iff.2 ⟨haway, .inl hnone⟩

/-- A record that is stamped at this moment is over if it is a tombstone. -/
theorem isExpiredAt_keptAt_self (s : Session) (now : Timestamp) :
    (s.keptAt now).isExpiredAt now = !s.isLive := by
  have hover : (s.keptAt now).isExpiredAt now = true ↔ s.isLive = false := by
    change s.isExpired (now.millisSince now) = true ↔ _
    rw [Session.isExpired_iff, Timestamp.millisSince_self, Session.isLive_eq_false_iff]
    refine and_congr_right fun _ => ?_
    unfold Saturating.clamp Saturating.lowest Saturating.highest
    omega
  rw [Bool.eq_iff_iff, hover, Bool.not_eq_true']

end Entry

/-- A client is away, its session is over, and its record is still there. A tombstone is no record
of a session. -/
def Store.Lingers (s : Store) (now : Timestamp) (bucket : Nat) (client : ClientId) : Prop :=
  ∃ r, s.record? bucket client = some r ∧ r.object.connected = false ∧ 0 < r.object.expiry ∧
    r.isExpiredAt now = true

namespace Store

variable {s : Store} {now : Timestamp} {bucket : Nat} {client : ClientId}

/-- The record of a live session lingers as soon as the session is over, -/
theorem lingers_iff_of_live {r : Record} (known : s.record? bucket client = some r)
    (live : r.object.isLive = true) :
    s.Lingers now bucket client ↔ r.isExpiredAt now = true := by
  unfold Lingers
  rw [known]
  constructor
  · rintro ⟨_, hr, -, -, hover⟩
    cases hr
    exact hover
  · intro hover
    have haway : r.object.connected = false := (Session.isExpired_iff.1 hover).1
    exact ⟨r, rfl, haway, by simpa [Session.isLive, Session.isPersistent, haway] using live, hover⟩

/-- and a look shows it until then. -/
theorem shown?_of_known {r : Record} (known : s.record? bucket client = some r) :
    s.shown? now true bucket client = if r.isExpiredAt now = true then none else some r := by
  rw [shown?, known, Option.filter_some]
  cases r.isExpiredAt now <;> rfl

section

variable (hnone : ∀ r, s.record? bucket client = some r → r.object.isTombstone = true)

include hnone

theorem not_lingers_of_isTombstone : ¬ s.Lingers now bucket client := by
  rintro ⟨r, known, -, hlasting, -⟩
  have hlive : r.object.isLive = false := by
    simpa [Session.isTombstone] using hnone r known
  simp [Session.isLive, Session.isPersistent, hlasting] at hlive

theorem shown?_of_isTombstone : s.shown? now true bucket client = none := by
  rw [shown?, Option.filter_eq_none_iff]
  intro r known
  have hover : r.isExpiredAt now = true :=
    Entry.isExpiredAt_of_not_isLive (by simpa [Session.isTombstone] using hnone r known)
  simp [hover]

end

/-- A session whose record is stamped at this moment is shown if it is one. -/
theorem isSome_shown?_keptAt_self {session : Session}
    (h : s.record? bucket client = some (session.keptAt now)) :
    (s.shown? now true bucket client).isSome = session.isLive := by
  rw [shown?, h, Option.filter_some, Entry.isExpiredAt_keptAt_self]
  cases session.isLive <;> rfl

end Store

/-! ## A look and a new interval -/

section

open Operation

variable {env : Collaborators σ} {serve : Server σ} {w : World σ} {bucket : Nat}
  {client : ClientId}

/-- A live session gets its new interval, and its record is stamped by the clock. -/
theorem setExpiry_live {interval : Int64} {old : Record}
    (door : w.store.objection (.setExpiry client interval bucket) = none)
    (known : w.store.record? bucket client = some old) (live : old.object.isLive = true) :
    ∃ v, (carryOut env serve (.setExpiry client interval bucket)).run w = some (.ok (), v) ∧
      v.outside = w.outside ∧ v.store.bucketCount = w.store.bucketCount ∧
      v.store.record? bucket client =
        some (Session.keptAt { old.object with expiry := interval } (env.now w.outside)) := by
  let fresh : Record := Session.keptAt { old.object with expiry := interval } (env.now w.outside)
  let v : World σ :=
    (((w.enter bucket).recount true fresh.object.isLive).lowerMemory old.weight).keep bucket client
      fresh
  have hneg : ¬ interval < 0 := by
    intro hneg
    simp [Store.objection, hneg] at door
  have hdoor : w.store.barrier bucket = none := by simpa [Store.objection, hneg] using door
  have hlt : bucket < w.store.bucketCount := ((w.store.barrier_eq_none_iff bucket).1 hdoor).1
  refine ⟨v.leave bucket, ?_, ?_, ?_, ?_⟩
  · simp only [carryOut, setExpiry]
    rw [if_neg hneg]
    apply writing_run hdoor
    refine Act.bind_some.2 ⟨_, _, Act.get_some.2 ⟨rfl, rfl⟩, ?_⟩
    rw [World.record?_enter, known]
    dsimp only
    rw [if_neg (by simp [Session.isTombstone, live])]
    rfl
  · exact World.outside_recount (w.enter bucket) true fresh.object.isLive
  · exact (OwnWork.keep _ bucket client fresh).count.trans (by simp)
  · rw [World.record?_leave, record?_kept (by simpa using hlt), if_pos ⟨rfl, rfl⟩]

/-- A look that does not want the bytes of the will talks to nobody. -/
theorem find_bare (hlt : bucket < w.store.bucketCount) (hideExpired : Bool) :
    (carryOut env serve (.find client bucket hideExpired false)).run w =
      some (.ok ((w.store.shown? (env.now w.outside) hideExpired bucket client).map
        fun r => r.object.withoutPayload), w) := by
  simp only [carryOut, find]
  refine Act.bind_some.2 ⟨w, w, Act.get_some.2 ⟨rfl, rfl⟩, ?_⟩
  rw [if_pos hlt, Store.shown?]
  cases w.store.record? bucket client with
  | none => rfl
  | some r =>
    cases hover : hideExpired && r.isExpiredAt (env.now w.outside) with
    | true =>
      simp only [Option.filter_some, hover]
      rfl
    | false =>
      simp only [Option.filter_some, hover]
      rfl

variable (env : Collaborators σ) (depth : Nat)

theorem perform_setExpiry_live {interval : Int64} {old : Record}
    (door : w.store.objection (.setExpiry client interval bucket) = none)
    (known : w.store.record? bucket client = some old) (live : old.object.isLive = true) :
    ∃ v, (perform env (depth + 1) (.setExpiry client interval bucket)).run w =
        some (.ok (), v) ∧
      v.outside = w.outside ∧ v.store.bucketCount = w.store.bucketCount ∧
      v.store.record? bucket client =
        some (Session.keptAt { old.object with expiry := interval } (env.now w.outside)) := by
  obtain ⟨v, hset, hafter⟩ := setExpiry_live (w := w.note _) door known live
  exact ⟨_, attend_run hset, hafter⟩

theorem perform_find_bare (hlt : bucket < w.store.bucketCount) (client : ClientId)
    (hideExpired : Bool) :
    ∃ v, (perform env (depth + 1) (.find client bucket hideExpired false)).run w =
      some (.ok ((w.store.shown? (env.now w.outside) hideExpired bucket client).map
        fun r => r.object.withoutPayload), v) :=
  ⟨_, attend_run (w := w) (find_bare (w := w.note _) hlt hideExpired)⟩

end

/-- A client gets a new interval exactly if a look shows it at this moment, or if its record
lingers. A session whose record lingers comes back with that: its record is stamped anew, and a
look at the same moment shows it, unless the new interval is none. -/
theorem revivals_by_lingering {env : Collaborators σ} {w : World σ} (hw : Reached env w)
    {bucket : Nat} (hlt : bucket < w.store.bucketCount) (client : ClientId) {interval : Int64}
    (hinterval : 0 ≤ interval) (depth : Nat) :
    ∃ (reply : Except Refusal Unit) (found : Option Session) (v v' : World σ),
      (perform env (depth + 1) (.setExpiry client interval bucket)).run w = some (reply, v) ∧
      (perform env (depth + 1) (.find client bucket true false)).run w = some (.ok found, v') ∧
      (reply = .error .noSession ↔
        found = none ∧ ¬ w.store.Lingers (env.now w.outside) bucket client) ∧
      (reply = .ok () ↔
        found.isSome = true ∨ w.store.Lingers (env.now w.outside) bucket client) ∧
      (w.store.Lingers (env.now w.outside) bucket client → found = none ∧
        env.now v.outside = env.now w.outside ∧
        (∃ r, v.store.record? bucket client = some r ∧ r.stamp = env.now w.outside ∧
          r.object.expiry = interval) ∧
        ∃ (again : Option Session) (u : World σ),
          (perform env (depth + 1) (.find client bucket true false)).run v =
            some (.ok again, u) ∧ (again.isSome = true ↔ 0 < interval)) := by
  have hdoor : w.store.objection (.setExpiry client interval bucket) = none := by
    rw [Store.objection, if_neg (Int64.not_lt.2 hinterval)]
    exact (w.store.barrier_eq_none_iff bucket).2 ⟨hlt, by simp [hw.writing]⟩
  obtain ⟨v', hfind⟩ := perform_find_bare env depth hlt client true
  by_cases hlive : ∃ old, w.store.record? bucket client = some old ∧ old.object.isLive = true
  · obtain ⟨old, known, live⟩ := hlive
    have hlingers : w.store.Lingers (env.now w.outside) bucket client ↔
        old.isExpiredAt (env.now w.outside) = true := Store.lingers_iff_of_live known live
    rw [Store.shown?_of_known known] at hfind
    obtain ⟨v, hset, houtside, hcount, hrecord⟩ :=
      perform_setExpiry_live env depth hdoor known live
    have hlt' : bucket < v.store.bucketCount := hcount ▸ hlt
    obtain ⟨u, hagain⟩ := perform_find_bare env depth hlt' client true
    refine ⟨.ok (), _, v, v', hset, hfind, ?_, ?_, ?_⟩
    · rw [hlingers]
      cases old.isExpiredAt (env.now w.outside) <;> simp
    · rw [hlingers]
      cases old.isExpiredAt (env.now w.outside) <;> simp
    · intro hover
      have hnow : env.now v.outside = env.now w.outside := congrArg env.now houtside
      refine ⟨?_, hnow, ⟨_, hrecord, rfl, rfl⟩, _, u, hagain, ?_⟩
      · rw [if_pos (hlingers.1 hover)]
        rfl
      · have haway : old.object.connected = false :=
          (Session.isExpired_iff.1 (hlingers.1 hover)).1
        have hseen : (v.store.shown? (env.now w.outside) true bucket client).isSome = _ :=
          Store.isSome_shown?_keptAt_self hrecord
        rw [Option.isSome_map, hnow, hseen]
        simp [Session.isLive, Session.isPersistent, haway]
  · have hnone : ∀ old, w.store.record? bucket client = some old →
        old.object.isTombstone = true := by
      intro old known
      simpa [Session.isTombstone] using fun live => hlive ⟨old, known, live⟩
    have hlingers : ¬ w.store.Lingers (env.now w.outside) bucket client :=
      Store.not_lingers_of_isTombstone hnone
    obtain ⟨v, hset⟩ : ∃ v, (perform env (depth + 1) (.setExpiry client interval bucket)).run w =
        some (.error .noSession, v) :=
      ⟨_, attend_run (setExpiry_noSession (w := w.note _) hdoor hnone)⟩
    rw [Store.shown?_of_isTombstone hnone] at hfind
    exact ⟨.error .noSession, none, v, v', hset, hfind, by simp [hlingers], by simp [hlingers],
      fun hover => absurd hover hlingers⟩

/-- Two clients are away, one for five seconds and one for good, and no purge comes by. -/
def unswept : Dialogue Backdrop Unit := do
  let _ ← Dialogue.request (.put "c" { connected := false, expiry := 5 } ⟨1000⟩ 0)
  let _ ← Dialogue.request (.put "d" { connected := false, expiry := 0 } ⟨1000⟩ 0)

/-- The session of the first one is over, and a look does not show it. It gets a new interval all
the same, and then the look shows it. -/
theorem unswept_session_revived :
    ∃ (w v u u' : World Backdrop) (s : Session), Reached .quiet w ∧
      (perform .quiet 1 (.find "c" 0 true false)).run w = some (.ok none, u) ∧
      (perform .quiet 1 (.setExpiry "c" 9 0)).run w = some (.ok (), v) ∧
      (perform .quiet 1 (.find "c" 0 true false)).run v = some (.ok (some s), u') := by
  have hend : ((converse .quiet 1 unswept).run
      { store := { defaultExpiry := 9, buckets := Array.replicate 2 ∅ },
        outside := { clock := ⟨6000⟩ } }).bind (fun (_, w) =>
          ((perform .quiet 1 (.find "c" 0 true false)).run w).bind
            fun ((hidden, _) : Except Refusal (Option Session) × World Backdrop) =>
            ((perform .quiet 1 (.setExpiry "c" 9 0)).run w).bind
              fun ((reply, v) : Except Refusal Unit × World Backdrop) =>
              ((perform .quiet 1 (.find "c" 0 true false)).run v).map
                fun ((shown, _) : Except Refusal (Option Session) × World Backdrop) =>
                (hidden.toOption, reply.toOption, shown.toOption)) =
      some (some none, some (), some (some { connected := false, expiry := 9 })) := by
    decide +kernel
  obtain ⟨⟨_, w⟩, hrun, hend⟩ := Option.bind_eq_some_iff.1 hend
  obtain ⟨⟨(hidden : Except Refusal (Option Session)), u⟩, hlook, hend⟩ :=
    Option.bind_eq_some_iff.1 hend
  obtain ⟨⟨(reply : Except Refusal Unit), v⟩, hset, hend⟩ := Option.bind_eq_some_iff.1 hend
  obtain ⟨⟨(shown : Except Refusal (Option Session)), u'⟩, hagain, hfacts⟩ :=
    Option.map_eq_some_iff.1 hend
  obtain ⟨hhidden, hreply, hshown⟩ : hidden.toOption = some none ∧ reply.toOption = some () ∧
      shown.toOption = some (some { connected := false, expiry := 9 }) := by
    simpa using hfacts
  have hreached : Reached .quiet w :=
    .conversed (.start _ (c := { bucketCount := 2, defaultExpiry := 9 }) rfl) hrun
  cases hidden with
  | error => cases hhidden
  | ok => cases reply with
    | error => cases hreply
    | ok => cases shown with
      | error => cases hshown
      | ok =>
        cases hhidden
        cases hshown
        exact ⟨w, v, u, u', _, hreached, hlook, hset, hagain⟩

/-- The new interval brings the first one back. There is none to be set for the second one, which
the look does not show either. -/
theorem revivals_by_lingering_unswept :
    ∃ w, Reached .quiet w ∧
      (∃ v u s, (perform .quiet 1 (.setExpiry "c" 9 0)).run w = some (.ok (), v) ∧
        (perform .quiet 1 (.find "c" 0 true false)).run v = some (.ok (some s), u)) ∧
      ∃ v u, (perform .quiet 1 (.setExpiry "d" 9 0)).run w = some (.error .noSession, v) ∧
        (perform .quiet 1 (.find "d" 0 true false)).run w = some (.ok none, u) := by
  let gone : Record := Session.keptAt { connected := false, expiry := 5 } ⟨1000⟩
  let ended : Record := Session.keptAt { connected := false, expiry := 0 } ⟨1000⟩
  have hend : ((converse .quiet 1 unswept).run
      { store := { defaultExpiry := 9, buckets := Array.replicate 2 ∅ },
        outside := { clock := ⟨6000⟩ } }).bind (fun (_, w) =>
          ((perform .quiet 1 (.find "d" 0 true false)).run w).map
            fun ((hidden, _) : Except Refusal (Option Session) × World Backdrop) =>
            (["c", "d"].map (w.store.record? 0), hidden.toOption, w.outside.clock,
              w.store.bucketCount)) =
      some ([some gone, some ended], some none, ⟨6000⟩, 2) := by
    decide +kernel
  obtain ⟨⟨_, w⟩, hrun, hend⟩ := Option.bind_eq_some_iff.1 hend
  obtain ⟨⟨(hidden : Except Refusal (Option Session)), u⟩, hlook, hfacts⟩ :=
    Option.map_eq_some_iff.1 hend
  obtain ⟨⟨hc, hd⟩, hhidden, hclock, hcount⟩ : (w.store.record? 0 "c" = some gone ∧
      w.store.record? 0 "d" = some ended) ∧ hidden.toOption = some none ∧
        w.outside.clock = ⟨6000⟩ ∧ w.store.bucketCount = 2 := by
    simpa using hfacts
  have hreached : Reached .quiet w :=
    .conversed (.start _ (c := { bucketCount := 2, defaultExpiry := 9 }) rfl) hrun
  have hnow : Collaborators.quiet.now w.outside = ⟨6000⟩ := hclock
  have hlt : 0 < w.store.bucketCount := by omega
  have hinterval : (0 : Int64) ≤ 9 := by decide
  obtain ⟨_, _, v, _, hset, -, -, hok, hback⟩ :=
    revivals_by_lingering hreached hlt "c" hinterval 0
  obtain ⟨_, found, v', u', hset', hlook', hrefused, -, -⟩ :=
    revivals_by_lingering hreached hlt "d" hinterval 0
  rw [hnow] at hok hback hrefused
  have hlingers : w.store.Lingers ⟨6000⟩ 0 "c" := ⟨gone, hc, rfl, by decide, by decide⟩
  have htombstone : ¬ w.store.Lingers ⟨6000⟩ 0 "d" := by
    rintro ⟨r, hr, -, hlasting, -⟩
    obtain rfl : ended = r := Option.some.inj (hd.symm.trans hr)
    revert hlasting
    decide
  obtain rfl := hok.2 (.inr hlingers)
  obtain ⟨-, -, -, again, u₁, hagain, hshown⟩ := hback hlingers
  obtain ⟨s, rfl⟩ := Option.isSome_iff_exists.1 (hshown.2 (by decide))
  obtain rfl : hidden = .ok found :=
    congrArg Prod.fst (Option.some.inj (hlook.symm.trans hlook'))
  obtain rfl : found = none := Option.some.inj hhidden
  obtain rfl := hrefused.2 ⟨rfl, htombstone⟩
  exact ⟨w, hreached, ⟨v, u₁, s, hset, hagain⟩, v', u', hset', hlook'⟩

end BrokerSessions
