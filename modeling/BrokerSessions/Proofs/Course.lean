-- The course that a request can take. There are not many: it is turned away at
-- the door, or it holds its bucket and goes one of the ways listed in `Course`.
-- All laws of runs go through this list, so that no other proof opens an operation.
import BrokerSessions.Operation

namespace BrokerSessions

variable {σ α β : Type}

/-! ## Steps of a world, opened -/

namespace Act

theorem bind_some {m : Act σ α} {f : α → Act σ β} {w w' : World σ} {b : β} :
    (m >>= f).run w = some (b, w') ↔
      ∃ a w₁, m.run w = some (a, w₁) ∧ (f a).run w₁ = some (b, w') := by
  simp [StateT.run_bind, Option.bind_eq_some_iff]

theorem pure_some {a b : α} {w w' : World σ} :
    (pure a : Act σ α).run w = some (b, w') ↔ a = b ∧ w = w' := by
  simp [StateT.run_pure]

theorem modify_some {f : World σ → World σ} {u : PUnit} {w w' : World σ} :
    (modify f : Act σ PUnit).run w = some (u, w') ↔ f w = w' := by
  simp

theorem get_some {w v w' : World σ} :
    (get : Act σ (World σ)).run w = some (v, w') ↔ w = v ∧ w = w' := by
  simp [StateT.run_get]

/-- The value of a step under a function that cannot fail. -/
theorem bind_pure_some {m : Act σ α} {f : α → β} {w w' : World σ} {b : β} :
    (m >>= fun a => pure (f a)).run w = some (b, w') ↔ ∃ a, m.run w = some (a, w') ∧ f a = b := by
  simp only [bind_some, pure_some]
  constructor
  · rintro ⟨a, _, ha, hb, rfl⟩
    exact ⟨a, ha, hb⟩
  · rintro ⟨a, ha, hb⟩
    exact ⟨a, w', ha, hb, rfl⟩

end Act

/-! ## What is turned away -/

namespace Store

/-- Why a bucket cannot get a writer now, if it cannot. -/
def barrier (s : Store) (bucket : Nat) : Option Refusal :=
  if bucket < s.bucketCount then
    if bucket ∈ s.writing then some (.preconditionViolated (.alreadyWriting bucket)) else none
  else some (s.noSuchBucket bucket)

/-- Why a request is turned away before anything is done for it, if it is. Its own
arguments come first, then the bucket, then the writer of the bucket. -/
def objection (s : Store) : Request → Option Refusal
  | .put _ _ stamp bucket =>
    if stamp.isPositive then s.barrier bucket else some (.invalidArgument .stampNotPositive)
  | .setExpiry _ expiry bucket =>
    if expiry < 0 then some (.invalidArgument (.negativeExpiry expiry)) else s.barrier bucket
  | .find _ bucket _ _ =>
    if bucket < s.bucketCount then none else some (s.noSuchBucket bucket)
  | q => s.barrier q.bucket

theorem barrier_eq_none_iff (s : Store) (bucket : Nat) :
    s.barrier bucket = none ↔ bucket < s.bucketCount ∧ bucket ∉ s.writing := by
  unfold barrier
  split
  · rename_i hlt
    simp [hlt]
  · rename_i hlt
    simp [hlt]

end Store

/-! ## Records as the operations make them -/

/-- The record that an operation makes of a session: its weight is worked out at once. -/
abbrev Session.keptAt (s : Session) (stamp : Timestamp) : Record :=
  Entry.weighed { object := s, stamp }

/-- A record goes into its bucket, and its weight onto the counter. -/
def World.keep (w : World σ) (bucket : Nat) (client : ClientId) (fresh : Record) : World σ :=
  (w.raiseMemory fresh.weight).file bucket client fresh

/-- The session of a client that nobody knew. -/
abbrev Store.stranger (s : Store) : Session := { connected := false, expiry := s.defaultExpiry }

/-! ## The courses -/

section

open Operation

variable (env : Collaborators σ) (serve : Server σ)

/-- The ways in which a request can end, with the answer and the world after it. -/
inductive Course : (q : Request) → World σ → q.Reply → World σ → Prop where
  /-- The request is turned away, and nothing happens. -/
  | turnedAway {q : Request} {w : World σ} {why : Refusal} (h : w.store.objection q = some why) :
      Course q w (.error why) w
  /-- A session for a client that had none. -/
  | putNew {client session stamp bucket} {w : World σ}
      (door : w.store.objection (.put client session stamp bucket) = none)
      (vacant : w.store.record? bucket client = none) :
      Course (.put client session stamp bucket) w (.ok ())
        ((((w.enter bucket).recount false session.withoutPayload.isLive).keep bucket client
          (session.withoutPayload.keptAt stamp)).leave bucket)
  /-- A session in place of another one, whose will is given back. -/
  | putOver {client session stamp bucket old} {w w₁ : World σ}
      (door : w.store.objection (.put client session stamp bucket) = none)
      (known : w.store.record? bucket client = some old)
      (given : (release env serve old.object).run ((w.enter bucket).lowerMemory old.weight) =
        some ((), w₁)) :
      Course (.put client session stamp bucket) w (.ok ())
        (((w₁.recount old.object.isLive session.withoutPayload.isLive).keep bucket client
          (session.withoutPayload.keptAt stamp)).leave bucket)
  /-- A stranger goes away. -/
  | strangerLeft {client stamp sendWill bucket expiry} {w : World σ}
      (door : w.store.objection (.disconnect client stamp sendWill bucket expiry) = none)
      (vacant : w.store.record? bucket client = none) :
      Course (.disconnect client stamp sendWill bucket expiry) w (.ok w.store.stranger)
        ((((w.enter bucket).recount false w.store.stranger.isLive).keep bucket client
          (w.store.stranger.keptAt stamp)).leave bucket)
  /-- A known client goes away, with its will or without. -/
  | clientLeft {client stamp sendWill bucket expiry old kept away reply} {w w₁ w₂ w₃ : World σ}
      (door : w.store.objection (.disconnect client stamp sendWill bucket expiry) = none)
      (known : w.store.record? bucket client = some old)
      (will : (willOrNone env serve old.object sendWill).run
        ((w.enter bucket).lowerMemory old.weight) = some (kept, w₁))
      (checked : (dropDangling env serve
        { kept with connected := false, expiry := expiry.getD kept.expiry }).run w₁ =
          some (away, w₂))
      (resolved : (attachPayload env serve away.withoutPayload).run
        ((w₂.recount old.object.isLive away.isLive).keep bucket client (away.keptAt stamp)) =
          some (reply, w₃)) :
      Course (.disconnect client stamp sendWill bucket expiry) w (.ok reply) (w₃.leave bucket)
  /-- An unknown client is gone already. -/
  | removedNone {client bucket} {w : World σ}
      (door : w.store.objection (.remove client bucket) = none)
      (vacant : w.store.record? bucket client = none) :
      Course (.remove client bucket) w (.ok ()) ((w.enter bucket).leave bucket)
  /-- A record is taken out, and then its will is given back. -/
  | removed {client bucket old} {w w₁ : World σ}
      (door : w.store.objection (.remove client bucket) = none)
      (known : w.store.record? bucket client = some old)
      (given : (release env serve old.object).run
        (((w.enter bucket).erase bucket client).recount old.object.isLive false) = some ((), w₁)) :
      Course (.remove client bucket) w (.ok ())
        (((w₁.lowerMemory old.weight).note (.forgotten bucket client old)).leave bucket)
  /-- All sessions of a bucket that are over are dismissed, and then announced. -/
  | purged {bucket expired} {w w₁ w₂ : World σ}
      (door : w.store.objection (.purge bucket) = none)
      (ended : w.store.expired bucket (env.now w.outside) = expired)
      (dismissed : (expired.forM fun (client, r) => dismiss env serve bucket client r).run
        (w.enter bucket) = some ((), w₁))
      (announced : (expired.forM fun (client, r) =>
        announce env serve (r.object.expiresAt r.stamp) client).run w₁ = some ((), w₂)) :
      Course (.purge bucket) w (.ok (expired.map Prod.fst)) (w₂.leave bucket)
  /-- There is no session whose interval could be changed. -/
  | noSession {client expiry bucket} {w : World σ}
      (door : w.store.objection (.setExpiry client expiry bucket) = none)
      (none : ∀ old, w.store.record? bucket client = some old → old.object.isTombstone = true) :
      Course (.setExpiry client expiry bucket) w (.error .noSession)
        ((w.enter bucket).leave bucket)
  /-- The interval of a session is changed. -/
  | expirySet {client expiry bucket old} {w : World σ}
      (door : w.store.objection (.setExpiry client expiry bucket) = none)
      (known : w.store.record? bucket client = some old)
      (live : old.object.isLive = true) :
      Course (.setExpiry client expiry bucket) w (.ok ())
        (((((w.enter bucket).recount true { old.object with expiry }.isLive).lowerMemory
          old.weight).keep bucket client
            ({ old.object with expiry }.keptAt (env.now w.outside))).leave bucket)
  /-- The client is unknown, or it is connected and keeps its will. -/
  | willStays {client bucket} {w : World σ}
      (door : w.store.objection (.cancelWill client bucket) = none)
      (stays : ∀ old, w.store.record? bucket client = some old → old.object.connected = true) :
      Course (.cancelWill client bucket) w (.ok none) ((w.enter bucket).leave bucket)
  /-- The will of a client that is away is given back. -/
  | willCancelled {client bucket old} {w w₁ : World σ}
      (door : w.store.objection (.cancelWill client bucket) = none)
      (known : w.store.record? bucket client = some old)
      (away : old.object.connected = false)
      (given : (release env serve old.object).run ((w.enter bucket).lowerMemory old.weight) =
        some ((), w₁)) :
      Course (.cancelWill client bucket) w
        (.ok (some { object := old.object.withoutWill.withoutPayload, stamp := old.stamp }))
        ((w₁.keep bucket client (old.object.withoutWill.keptAt old.stamp)).leave bucket)
  /-- There is nothing to be found, or it is over and hidden. -/
  | notFound {client bucket hideExpired withWill} {w : World σ}
      (door : w.store.objection (.find client bucket hideExpired withWill) = none)
      (hidden : ∀ r, w.store.record? bucket client = some r →
        (hideExpired && r.isExpiredAt (env.now w.outside)) = true) :
      Course (.find client bucket hideExpired withWill) w (.ok none) w
  /-- A session is found, and nobody wants the bytes of its will. -/
  | foundBare {client bucket hideExpired r} {w : World σ}
      (door : w.store.objection (.find client bucket hideExpired false) = none)
      (known : w.store.record? bucket client = some r)
      (shown : (hideExpired && r.isExpiredAt (env.now w.outside)) = false) :
      Course (.find client bucket hideExpired false) w (.ok (some r.object.withoutPayload)) w
  /-- A session is found, and its will is completed. -/
  | foundWhole {client bucket hideExpired r reply} {w w₁ : World σ}
      (door : w.store.objection (.find client bucket hideExpired true) = none)
      (known : w.store.record? bucket client = some r)
      (shown : (hideExpired && r.isExpiredAt (env.now w.outside)) = false)
      (resolved : (attachPayload env serve r.object.withoutPayload).run w = some (reply, w₁)) :
      Course (.find client bucket hideExpired true) w (.ok (some reply)) w₁

/-! ## Every request takes one of them -/

/-- Who wants to write a bucket is turned away, or works inside it and leaves it. -/
theorem writing_some {bucket : Nat} {body : Act σ (Except Refusal α)} {w w' : World σ}
    {r : Except Refusal α} (h : (writing bucket body).run w = some (r, w')) :
    (∃ why, w.store.barrier bucket = some why ∧ r = .error why ∧ w' = w) ∨
      (w.store.barrier bucket = none ∧
        ∃ w₁, body.run (w.enter bucket) = some (r, w₁) ∧ w' = w₁.leave bucket) := by
  simp only [writing, Act.bind_some, Act.get_some] at h
  obtain ⟨_, _, ⟨rfl, rfl⟩, h⟩ := h
  unfold Store.barrier
  split at h
  · rename_i hlt
    rw [if_pos hlt]
    split at h
    · rename_i hmem
      rw [if_pos hmem]
      obtain ⟨rfl, rfl⟩ := Act.pure_some.1 h
      exact .inl ⟨_, rfl, rfl, rfl⟩
    · rename_i hmem
      rw [if_neg hmem]
      simp only [Act.bind_some, Act.modify_some, Act.pure_some] at h
      obtain ⟨_, _, rfl, _, w₁, hb, _, _, rfl, rfl, rfl⟩ := h
      exact .inr ⟨rfl, w₁, hb, rfl⟩
  · rename_i hlt
    rw [if_neg hlt]
    obtain ⟨rfl, rfl⟩ := Act.pure_some.1 h
    exact .inl ⟨_, rfl, rfl, rfl⟩

/-- Who is let in works inside the bucket and leaves it. -/
theorem writing_run {bucket : Nat} {body : Act σ (Except Refusal α)} {w w₁ : World σ}
    {r : Except Refusal α} (hdoor : w.store.barrier bucket = none)
    (h : body.run (w.enter bucket) = some (r, w₁)) :
    (writing bucket body).run w = some (r, w₁.leave bucket) := by
  obtain ⟨hlt, hfree⟩ := (w.store.barrier_eq_none_iff bucket).1 hdoor
  unfold writing
  refine Act.bind_some.2 ⟨w, w, Act.get_some.2 ⟨rfl, rfl⟩, ?_⟩
  rw [if_pos hlt, if_neg hfree]
  refine Act.bind_some.2 ⟨⟨⟩, w.enter bucket, Act.modify_some.2 rfl, ?_⟩
  refine Act.bind_some.2 ⟨r, w₁, h, ?_⟩
  exact Act.bind_some.2 ⟨⟨⟩, w₁.leave bucket, Act.modify_some.2 rfl, Act.pure_some.2 ⟨rfl, rfl⟩⟩

/-- Who is not let in is refused. -/
theorem writing_turnedAway {bucket : Nat} {body : Act σ (Except Refusal α)} {why : Refusal}
    (h : w.store.barrier bucket = some why) :
    (writing bucket body).run w = some (.error why, w) := by
  unfold writing
  refine Act.bind_some.2 ⟨w, w, Act.get_some.2 ⟨rfl, rfl⟩, ?_⟩
  unfold Store.barrier at h
  split at h
  · rename_i hlt
    split at h
    · rename_i hmem
      cases h
      rw [if_pos hlt, if_pos hmem]
      rfl
    · cases h
  · rename_i hlt
    cases h
    rw [if_neg hlt]
    rfl

variable {env serve}

theorem put_course {client session stamp bucket} {w w' : World σ} {reply}
    (h : (put env serve client session stamp bucket).run w = some (reply, w')) :
    Course env serve (.put client session stamp bucket) w reply w' := by
  unfold put at h
  split at h
  · rename_i hpos
    have hdoor : w.store.objection (.put client session stamp bucket) =
        w.store.barrier bucket := by simp [Store.objection, hpos]
    rcases writing_some h with ⟨why, hb, rfl, rfl⟩ | ⟨hb, w₁, hw, rfl⟩
    · exact .turnedAway (hdoor.trans hb)
    · simp only [Act.bind_some, Act.pure_some, replace, keep, Act.get_some] at hw
      obtain ⟨_, w₂, ⟨_, _, ⟨rfl, rfl⟩, hr⟩, _, _, ⟨_, _, hk, hf⟩, rfl, rfl⟩ := hw
      rw [Act.modify_some] at hk hf
      subst hk hf
      split at hr
      · rename_i old hold
        simp only [Act.bind_some, Act.modify_some] at hr
        obtain ⟨_, _, rfl, _, w₁, hg, rfl⟩ := hr
        exact .putOver (hdoor.trans hb) hold hg
      · rename_i hnone
        rw [Act.modify_some] at hr
        subst hr
        exact .putNew (hdoor.trans hb) hnone
  · rename_i hpos
    obtain ⟨rfl, rfl⟩ := Act.pure_some.1 h
    exact .turnedAway (by simp [Store.objection, hpos])

theorem disconnect_course {client stamp sendWill bucket expiry} {w w' : World σ} {reply}
    (h : (disconnect env serve client stamp sendWill bucket expiry).run w = some (reply, w')) :
    Course env serve (.disconnect client stamp sendWill bucket expiry) w reply w' := by
  rcases writing_some h with ⟨why, hb, rfl, rfl⟩ | ⟨hb, w₁, hw, rfl⟩
  · exact .turnedAway hb
  · simp only [Act.bind_some, Act.pure_some, fileDisconnect, Act.get_some] at hw
    obtain ⟨filed, w₂, ⟨_, _, ⟨rfl, rfl⟩, hf⟩, reply', _, hr, rfl, rfl⟩ := hw
    split at hf
    · rename_i old hold
      simp only [fileKnown, keep, Act.bind_some, Act.modify_some, Act.pure_some] at hf
      obtain ⟨_, _, rfl, kept, w₃, hk, away, w₄, ha, _, _, rfl, _, _, ⟨_, _, rfl, rfl⟩, rfl,
        rfl⟩ := hf
      exact .clientLeft hb hold hk ha hr
    · rename_i hnone
      simp only [fileStranger, keep, Act.bind_some, Act.modify_some, Act.pure_some,
        Act.get_some] at hf
      obtain ⟨_, _, ⟨rfl, rfl⟩, _, _, rfl, _, _, ⟨_, _, rfl, rfl⟩, rfl, rfl⟩ := hf
      -- A stranger has no will, so nothing is fetched.
      obtain ⟨rfl, rfl⟩ := Act.pure_some.1 hr
      exact .strangerLeft hb hnone

theorem remove_course {client bucket} {w w' : World σ} {reply}
    (h : (remove env serve client bucket).run w = some (reply, w')) :
    Course env serve (.remove client bucket) w reply w' := by
  rcases writing_some h with ⟨why, hb, rfl, rfl⟩ | ⟨hb, w₁, hw, rfl⟩
  · exact .turnedAway hb
  · simp only [forget, Act.bind_some, Act.pure_some, Act.get_some] at hw
    obtain ⟨_, _, ⟨_, _, ⟨rfl, rfl⟩, hf⟩, rfl, rfl⟩ := hw
    split at hf
    · rename_i old hold
      simp only [Act.bind_some, Act.modify_some] at hf
      obtain ⟨_, _, rfl, _, _, rfl, _, w₂, hg, _, _, rfl, rfl⟩ := hf
      exact .removed hb hold hg
    · rename_i hnone
      obtain ⟨_, rfl⟩ := Act.pure_some.1 hf
      exact .removedNone hb hnone

theorem purge_course {bucket} {w w' : World σ} {reply}
    (h : (purge env serve bucket).run w = some (reply, w')) :
    Course env serve (.purge bucket) w reply w' := by
  rcases writing_some h with ⟨why, hb, rfl, rfl⟩ | ⟨hb, w₁, hw, rfl⟩
  · exact .turnedAway hb
  · simp only [Act.bind_some, Act.pure_some, Act.get_some] at hw
    obtain ⟨_, _, ⟨rfl, rfl⟩, _, w₂, hd, _, w₃, ha, rfl, rfl⟩ := hw
    exact .purged hb rfl hd ha

theorem setExpiry_course {client expiry bucket} {w w' : World σ} {reply}
    (h : (setExpiry env client expiry bucket).run w = some (reply, w')) :
    Course env serve (.setExpiry client expiry bucket) w reply w' := by
  unfold setExpiry at h
  split at h
  · rename_i hneg
    obtain ⟨rfl, rfl⟩ := Act.pure_some.1 h
    exact .turnedAway (by simp [Store.objection, hneg])
  · rename_i hneg
    have hdoor : w.store.objection (.setExpiry client expiry bucket) =
        w.store.barrier bucket := by simp [Store.objection, hneg]
    rcases writing_some h with ⟨why, hb, rfl, rfl⟩ | ⟨hb, w₁, hw, rfl⟩
    · exact .turnedAway (hdoor.trans hb)
    · simp only [Act.bind_some, Act.get_some] at hw
      obtain ⟨_, _, ⟨rfl, rfl⟩, hw⟩ := hw
      split at hw
      · rename_i old hold
        replace hold : w.store.record? bucket client = some old := hold
        split at hw
        · rename_i htomb
          obtain ⟨rfl, rfl⟩ := Act.pure_some.1 hw
          refine .noSession (hdoor.trans hb) ?_
          intro r hr
          rw [hold] at hr
          cases hr
          exact htomb
        · rename_i htomb
          simp only [keep, Act.bind_some, Act.modify_some, Act.pure_some] at hw
          obtain ⟨_, _, rfl, _, _, rfl, _, _, ⟨_, _, rfl, rfl⟩, rfl, rfl⟩ := hw
          exact .expirySet (hdoor.trans hb) hold (by simpa [Session.isTombstone] using htomb)
      · rename_i hnone
        replace hnone : w.store.record? bucket client = none := hnone
        obtain ⟨rfl, rfl⟩ := Act.pure_some.1 hw
        exact .noSession (hdoor.trans hb) (fun r hr => by simp [hnone] at hr)

theorem cancelWill_course {client bucket} {w w' : World σ} {reply}
    (h : (cancelWill env serve client bucket).run w = some (reply, w')) :
    Course env serve (.cancelWill client bucket) w reply w' := by
  rcases writing_some h with ⟨why, hb, rfl, rfl⟩ | ⟨hb, w₁, hw, rfl⟩
  · exact .turnedAway hb
  · simp only [Act.bind_some, Act.get_some] at hw
    obtain ⟨_, _, ⟨rfl, rfl⟩, hw⟩ := hw
    split at hw
    · rename_i old hold
      replace hold : w.store.record? bucket client = some old := hold
      split at hw
      · rename_i hcon
        obtain ⟨rfl, rfl⟩ := Act.pure_some.1 hw
        refine .willStays hb ?_
        intro r hr
        rw [hold] at hr
        cases hr
        exact hcon
      · rename_i hcon
        simp only [keep, Act.bind_some, Act.modify_some, Act.pure_some] at hw
        obtain ⟨_, _, rfl, _, w₂, hg, _, _, ⟨_, _, rfl, rfl⟩, rfl, rfl⟩ := hw
        exact .willCancelled hb hold (by simpa using hcon) hg
    · rename_i hnone
      replace hnone : w.store.record? bucket client = none := hnone
      obtain ⟨rfl, rfl⟩ := Act.pure_some.1 hw
      exact .willStays hb (fun r hr => by simp [hnone] at hr)

theorem find_course {client bucket hideExpired withWill} {w w' : World σ} {reply}
    (h : (find env serve client bucket hideExpired withWill).run w = some (reply, w')) :
    Course env serve (.find client bucket hideExpired withWill) w reply w' := by
  simp only [find, Act.bind_some, Act.get_some] at h
  obtain ⟨_, _, ⟨rfl, rfl⟩, h⟩ := h
  split at h
  · rename_i hlt
    have hdoor : w.store.objection (.find client bucket hideExpired withWill) = none := by
      simp [Store.objection, hlt]
    split at h
    · rename_i r hr
      split at h
      · rename_i hover
        obtain ⟨rfl, rfl⟩ := Act.pure_some.1 h
        refine .notFound hdoor ?_
        intro r' hr'
        rw [hr] at hr'
        cases hr'
        exact hover
      · rename_i hover
        split at h
        · rename_i hwith
          subst hwith
          obtain ⟨_, ha, rfl⟩ := Act.bind_pure_some.1 h
          exact .foundWhole hdoor hr (by simpa using hover) ha
        · rename_i hwith
          obtain ⟨rfl, rfl⟩ := Act.pure_some.1 h
          rw [Bool.not_eq_true] at hwith
          subst hwith
          exact .foundBare hdoor hr (by simpa using hover)
    · rename_i hnone
      obtain ⟨rfl, rfl⟩ := Act.pure_some.1 h
      exact .notFound hdoor (fun r hr => by simp [hnone] at hr)
  · rename_i hlt
    obtain ⟨rfl, rfl⟩ := Act.pure_some.1 h
    exact .turnedAway (by simp [Store.objection, hlt])

theorem carryOut_course {q : Request} {w w' : World σ} {reply : q.Reply}
    (h : (carryOut env serve q).run w = some (reply, w')) : Course env serve q w reply w' := by
  cases q with
  | put => exact put_course h
  | disconnect => exact disconnect_course h
  | remove => exact remove_course h
  | purge => exact purge_course h
  | setExpiry => exact setExpiry_course h
  | cancelWill => exact cancelWill_course h
  | find => exact find_course h

/-- A request that is answered was noted, took its course, and was noted again. -/
theorem attend_course {q : Request} {w w' : World σ} {reply : q.Reply}
    (h : (attend env serve q).run w = some (reply, w')) :
    ∃ w₁, Course env serve q (w.note (.called q)) reply w₁ ∧
      w' = w₁.note (.answered q (refusalOf reply)) := by
  simp only [attend, Act.bind_some, Act.modify_some, Act.pure_some] at h
  obtain ⟨_, _, rfl, _, w₁, hc, _, _, rfl, rfl, rfl⟩ := h
  exact ⟨w₁, carryOut_course hc, rfl⟩

/-- A request that is carried out is answered. -/
theorem attend_run {q : Request} {reply : q.Reply}
    (h : (carryOut env serve q).run (w.note (.called q)) = some (reply, w')) :
    (attend env serve q).run w = some (reply, w'.note (.answered q (refusalOf reply))) := by
  refine Act.bind_some.2 ⟨⟨⟩, _, Act.modify_some.2 rfl, ?_⟩
  refine Act.bind_some.2 ⟨reply, w', h, ?_⟩
  exact Act.bind_some.2 ⟨⟨⟩, _, Act.modify_some.2 rfl, Act.pure_some.2 ⟨rfl, rfl⟩⟩

end

end BrokerSessions
