-- When sessions are said to have ended. A purge decides who is over by the time that has gone by,
-- and it tells the event log an instant that it works out from the stamp. Both saturate, each in
-- a way of its own, and yet they agree at every time but the last one there is. So the instants
-- that a purge tells are never ahead of its clock, whatever the collaborators do meanwhile.
import BrokerSessions.Proofs.Deadlines
import BrokerSessions.Proofs.Domains

namespace BrokerSessions

variable {σ : Type}

/-! ## The instant and the decision -/

/-- A difference that saturates reaches an interval exactly when the clock reaches a sum that
saturates, as long as the clock is not at the end of its range. There the sum may be cut off. -/
theorem Saturating.le_clamp_sub_iff {start interval clock : Int} (hstart : lowest ≤ start)
    (hpos : 0 < interval) (hinterval : interval ≤ highest) (hclock : clock < highest) :
    interval ≤ clamp (clock - start) ↔ clamp (start + interval) ≤ clock := by
  unfold clamp
  unfold lowest at *
  omega

namespace Session

variable {s : Session} {stamp now : Timestamp}

theorem toInt_expiresAt (s : Session) (stamp : Timestamp) :
    (s.expiresAt stamp).millis.toInt =
      Saturating.clamp (stamp.millis.toInt + Saturating.clamp (1000 * s.expiry.toInt)) := by
  have hmul : (Saturating.mul s.expiry 1000).toInt = Saturating.clamp (1000 * s.expiry.toInt) :=
    toInt_expiryMillis s
  unfold expiresAt Timestamp.addSeconds
  rw [Saturating.toInt_add, hmul]

/-- A client that is away has outstayed its interval exactly when the instant has come. -/
theorem isExpired_iff_expiresAt_le (haway : s.connected = false) (hpos : 0 < s.expiry)
    (hnow : now ≠ .latest) :
    s.isExpired (now.millisSince stamp) = true ↔ s.expiresAt stamp ≤ now := by
  have hlasting : 0 < s.expiry.toInt := Int64.lt_iff_toInt_lt.1 hpos
  have hearly : now.millis.toInt < Saturating.highest := by
    have hmax : now.millis.toInt ≤ Saturating.highest := now.millis.toInt_le
    refine lt_of_le_of_ne hmax fun hend => hnow ?_
    exact congrArg Timestamp.mk (Int64.toInt.inj hend)
  have hinterval : 0 < Saturating.clamp (1000 * s.expiry.toInt) := by
    unfold Saturating.clamp Saturating.highest
    omega
  rw [isExpired_iff, Timestamp.le_iff, toInt_expiresAt, Timestamp.toInt_millisSince,
    Saturating.le_clamp_sub_iff stamp.millis.le_toInt hinterval (Saturating.clamp_le_highest _)
      hearly]
  simp only [haway, true_and]
  omega

/-- The instant is not ahead of the clock, at the last time there is either. -/
theorem expiresAt_le_of_isExpired (hpos : 0 < s.expiry)
    (hover : s.isExpired (now.millisSince stamp) = true) : s.expiresAt stamp ≤ now := by
  by_cases hnow : now = .latest
  · subst hnow
    exact (Timestamp.le_iff _ _).2 (Int64.toInt_le _)
  · exact (isExpired_iff_expiresAt_le (isExpired_iff.1 hover).1 hpos hnow).1 hover

/-- At the last time there is, an instant that was cut off has come before its session is over. -/
example : let s : Session := { connected := false, expiry := 1 }
    s.expiresAt .latest ≤ .latest ∧
      s.isExpired (Timestamp.latest.millisSince .latest) = false := by decide

end Session

/-! ## What each request tells -/

/-- What each of the unfinished requests has told the event log itself, the request that came in
last first, and what it told last first. -/
def tellings : List Mark → List (List (Timestamp × ClientId))
  | [] => []
  | .called _ :: rest => [] :: tellings rest
  | .answered _ _ :: rest => (tellings rest).tail
  | .announced instant client :: rest => (tellings rest).modifyHead ((instant, client) :: ·)
  | _ :: rest => tellings rest

/-- Between two worlds only the request that came in last told the event log anything. -/
def Tells (w w' : World σ) : Prop :=
  ∃ told, tellings w'.journal = (tellings w.journal).modifyHead (told ++ ·)

/-- Between two worlds no request that was unfinished before told the event log anything. -/
def KeepsQuiet (w w' : World σ) : Prop := tellings w'.journal = tellings w.journal

theorem KeepsQuiet.chatty : Chatty (KeepsQuiet (σ := σ)) where
  refl _ := rfl
  trans h₁ h₂ := Eq.trans h₂ h₁
  outside _ _ := rfl

namespace Tells

theorem of_keepsQuiet (w w' : World σ) (h : KeepsQuiet w w') : Tells w w' := by
  refine ⟨[], h.trans ?_⟩
  cases tellings w.journal <;> rfl

theorem bears : Bears (Tells (σ := σ)) where
  refl w := of_keepsQuiet w w rfl
  trans := by
    rintro w w₁ w₂ ⟨told₁, h₁⟩ ⟨told₂, h₂⟩
    refine ⟨told₂ ++ told₁, ?_⟩
    rw [h₂, h₁, List.modifyHead_modifyHead]
    congr 1
    funext own
    exact (List.append_assoc told₂ told₁ own).symm
  outside w _ := of_keepsQuiet w _ rfl
  store w _ := of_keepsQuiet w _ rfl
  note w m hm _ := by
    cases m with
    | called => cases hm
    | answered => cases hm
    | announced instant client => exact ⟨[(instant, client)], rfl⟩
    | _ => exact of_keepsQuiet w _ rfl

end Tells

section

open Operation

variable {env : Collaborators σ} {serve : Server σ} {w w' : World σ}

/-- Whatever a request tells the event log, it tells on its own behalf. -/
theorem attend_keepsQuiet (hs : serve.Keeps KeepsQuiet) :
    (attend env serve).Keeps KeepsQuiet := by
  intro q w reply w' h
  obtain ⟨w₁, hc, rfl⟩ := attend_course h
  have hreleased : ∀ (v : World σ) id, Tells v (v.note (.released id)) :=
    fun v id => Tells.of_keepsQuiet v _ rfl
  obtain ⟨told, htold⟩ := Tells.bears.course (hs.mono Tells.of_keepsQuiet) hc
    fun _ _ => hreleased
  change (tellings w₁.journal).tail = tellings w.journal
  rw [htold]
  rfl

theorem perform_keepsQuiet (env : Collaborators σ) (depth : Nat) :
    (perform env depth).Keeps KeepsQuiet :=
  perform_keeps (fun _ => attend_keepsQuiet) depth

theorem release_keepsQuiet (hs : serve.Keeps KeepsQuiet) {s : Session} {u : Unit}
    (h : (release env serve s).run w = some (u, w')) : KeepsQuiet w w' := by
  unfold release at h
  split at h
  · simp only [Act.bind_some, Act.modify_some] at h
    obtain ⟨_, _, rfl, h⟩ := h
    have hquiet := Dialogue.run_keeps KeepsQuiet.chatty hs _ h
    exact hquiet
  · obtain ⟨_, rfl⟩ := Act.pure_some.1 h
    rfl

theorem World.recount_keepsQuiet (w : World σ) (before after : Bool) :
    KeepsQuiet w (w.recount before after) := by
  cases before <;> cases after <;> rfl

/-- While clients are dismissed, the event log is told nothing of it. -/
theorem dismissals_keepQuiet (hs : serve.Keeps KeepsQuiet) {bucket : Nat}
    {l : List (ClientId × Record)} {u : Unit}
    (h : (l.forM fun (client, r) => dismiss env serve bucket client r).run w = some (u, w')) :
    KeepsQuiet w w' := by
  induction l generalizing w with
  | nil =>
    obtain ⟨_, rfl⟩ := Act.pure_some.1 h
    rfl
  | cons x rest ih =>
    obtain ⟨w₁, h₁, h₂⟩ := forM_cons_some.1 h
    obtain ⟨w₂, hg, rfl⟩ := dismiss_some h₁
    have hback : KeepsQuiet w w₂ :=
      KeepsQuiet.chatty.trans (w.recount_keepsQuiet _ _) (release_keepsQuiet hs hg)
    exact (ih h₂).trans hback

/-- Then the event log is told the end of each session, one after the other. -/
theorem announcements_told (hs : serve.Keeps KeepsQuiet) {l : List (ClientId × Record)} {u : Unit}
    (h : (l.forM fun (client, r) =>
      announce env serve (r.object.expiresAt r.stamp) client).run w = some (u, w')) :
    tellings w'.journal = (tellings w.journal).modifyHead ((l.map ending).reverse ++ ·) := by
  induction l generalizing w with
  | nil =>
    obtain ⟨_, rfl⟩ := Act.pure_some.1 h
    cases tellings w.journal <;> rfl
  | cons x rest ih =>
    obtain ⟨w₁, h₁, h₂⟩ := forM_cons_some.1 h
    simp only [announce, Act.bind_some, Act.modify_some] at h₁
    obtain ⟨_, _, rfl, h₁⟩ := h₁
    have htold : tellings w₁.journal = (tellings w.journal).modifyHead (ending x :: ·) :=
      Dialogue.run_keeps KeepsQuiet.chatty hs _ h₁
    rw [ih h₂, htold, List.modifyHead_modifyHead]
    congr 1
    funext own
    simp

/-- A purge that is granted tells the end of each session that was over when it came in, and it
tells nothing else. A purge that is refused tells nothing. -/
theorem perform_purge_told {depth bucket : Nat} {reply : (Request.purge bucket).Reply}
    (h : (perform env depth (.purge bucket)).run w = some (reply, w')) :
    ∃ before, w'.journal = .answered (.purge bucket) (refusalOf reply) :: before ∧
      tellings before = (if refusalOf reply = none then
        ((w.store.expired bucket (env.now w.outside)).map ending).reverse else []) ::
          tellings w.journal := by
  cases depth with
  | zero => cases h
  | succ depth =>
    obtain ⟨w₁, hc, rfl⟩ := attend_course h
    refine ⟨w₁.journal, rfl, ?_⟩
    have hs := perform_keepsQuiet env depth
    cases hc with
    | turnedAway door => rfl
    | @purged _ expired _ w₂ w₃ door ended dismissed announced =>
      obtain rfl := ended
      have hquiet : tellings w₂.journal = [] :: tellings w.journal :=
        dismissals_keepQuiet hs dismissed
      have htold : tellings w₃.journal = _ := announcements_told hs announced
      change tellings w₃.journal = _
      rw [htold, hquiet]
      simp [refusalOf]

end

/-! ## No instant is ahead of its purge -/

/-- The instant at which a session ends agrees with the decision that it is over, at every time
but the last one there is, and the decision never comes first. So each instant that a purge tells
the event log itself is that of a record that was over when the purge came in, and if its session
is persistent, the instant lies between the stamp of the record and the time of the purge. -/
theorem purges_tell_due_instants (env : Collaborators σ) :
    (∀ (s : Session) (stamp now : Timestamp), s.connected = false → 0 < s.expiry →
      (now ≠ .latest →
        (s.isExpired (now.millisSince stamp) = true ↔ s.expiresAt stamp ≤ now)) ∧
      (s.isExpired (now.millisSince stamp) = true → s.expiresAt stamp ≤ now)) ∧
    ∀ (depth bucket : Nat) (w : World σ) (reply : (Request.purge bucket).Reply) (w' : World σ),
      (perform env depth (.purge bucket)).run w = some (reply, w') →
        ∃ before told, w'.journal = .answered (.purge bucket) (refusalOf reply) :: before ∧
          tellings before = told :: tellings w.journal ∧
          (refusalOf reply = none →
            told = ((w.store.expired bucket (env.now w.outside)).map ending).reverse) ∧
          ∀ instant client, (instant, client) ∈ told →
            ∃ r, w.store.record? bucket client = some r ∧
              r.isExpiredAt (env.now w.outside) = true ∧
              instant = r.object.expiresAt r.stamp ∧
              (r.object.isPersistent = true →
                r.stamp ≤ instant ∧ instant ≤ env.now w.outside) := by
  constructor
  · intro s stamp now haway hpos
    exact ⟨Session.isExpired_iff_expiresAt_le haway hpos,
      Session.expiresAt_le_of_isExpired hpos⟩
  · intro depth bucket w reply w' h
    obtain ⟨before, hjournal, htold⟩ := perform_purge_told h
    refine ⟨before, _, hjournal, htold, fun hgranted => if_pos hgranted, ?_⟩
    intro instant client hmem
    split at hmem
    · obtain ⟨x, hx, heq⟩ := List.mem_map.1 (List.mem_reverse.1 hmem)
      cases heq
      obtain ⟨hknown, hover⟩ := Store.mem_expired.1 hx
      refine ⟨x.2, hknown, hover, rfl, fun hpersistent => ?_⟩
      have hpos : 0 < x.2.object.expiry := of_decide_eq_true hpersistent
      exact ⟨Session.le_expiresAt (Int64.le_of_lt hpos) _,
        Session.expiresAt_le_of_isExpired hpos hover⟩
    · cases hmem

/-- An event log that has another bucket purged whenever it hears of a session that ended. -/
def Collaborators.eager : Collaborators Timestamp where
  release _ := pure ()
  fetch _ := pure none
  announce _ _ := do
    let _ ← Dialogue.request (.purge 1)
  now clock := clock

/-- Two clients leave sessions behind, each in a bucket of its own. -/
def leftovers : Dialogue Timestamp Unit := do
  let _ ← Dialogue.request (.put "a" { connected := false, expiry := 5 } ⟨1000⟩ 0)
  let _ ← Dialogue.request (.put "b" { connected := false, expiry := 6 } ⟨1000⟩ 1)

/-- Both sides saturate for a session that was left long before the epoch. And a purge tells of
one client, and while it does so, another purge tells of the other one. -/
theorem purges_tell_due_instants_eager :
    let s : Session := { connected := false, expiry := Int64.maxValue }
    (s.isExpired ((⟨-1⟩ : Timestamp).millisSince ⟨Int64.minValue⟩) = true ∧
      s.expiresAt ⟨Int64.minValue⟩ ≤ ⟨-1⟩) ∧
    ∃ (w w' : World Timestamp) (reply : (Request.purge 0).Reply) (before : List Mark),
      (perform .eager 3 (.purge 0)).run w = some (reply, w') ∧
        w'.journal = .answered (.purge 0) none :: before ∧
        .announced ⟨7000⟩ "b" ∈ before ∧
        tellings before = [(⟨6000⟩, "a")] :: tellings w.journal ∧
        ∃ r, w.store.record? 0 "a" = some r ∧ r.object.isPersistent = true ∧
          r.stamp ≤ ⟨6000⟩ ∧ ⟨6000⟩ ≤ Collaborators.eager.now w.outside := by
  intro s
  obtain ⟨hinstants, hpurges⟩ := purges_tell_due_instants Collaborators.eager
  constructor
  · have hdue : s.expiresAt ⟨Int64.minValue⟩ ≤ ⟨-1⟩ := by decide
    have hagree := (hinstants s ⟨Int64.minValue⟩ ⟨-1⟩ rfl (by decide)).1 (by decide)
    exact ⟨hagree.2 hdue, hdue⟩
  · have hend : ((converse .eager 1 leftovers).run
        { store := { defaultExpiry := 9, buckets := Array.replicate 2 ∅ },
          outside := ⟨7000⟩ }).bind (fun (_, w) =>
            ((perform .eager 3 (.purge 0)).run w).map fun (reply, w') =>
              ((refusalOf reply).isNone && w'.journal.tail.any (· = .announced ⟨7000⟩ "b"),
                w.outside, w.store.expired 0 ⟨7000⟩)) =
          some (true, ⟨7000⟩,
            [("a", Session.keptAt { connected := false, expiry := 5 } ⟨1000⟩)]) := by
      decide +kernel
    obtain ⟨⟨_, w⟩, -, hend⟩ := Option.bind_eq_some_iff.1 hend
    obtain ⟨⟨reply, w'⟩, hrun, hfacts⟩ := Option.map_eq_some_iff.1 hend
    obtain ⟨⟨hgranted, hother⟩, hclock, hexpired⟩ : (refusalOf reply = none ∧
        .announced ⟨7000⟩ "b" ∈ w'.journal.tail) ∧ w.outside = ⟨7000⟩ ∧
          w.store.expired 0 ⟨7000⟩ =
            [("a", Session.keptAt { connected := false, expiry := 5 } ⟨1000⟩)] := by
      simpa using hfacts
    have hnow : Collaborators.eager.now w.outside = ⟨7000⟩ := hclock
    obtain ⟨before, told, hjournal, htold, hall, hdue⟩ := hpurges 3 0 w reply w' hrun
    obtain rfl : told = [(⟨6000⟩, "a")] := by
      rw [hall hgranted, hnow, hexpired]
      decide
    obtain ⟨r, hknown, hover, hinstant, hbounds⟩ := hdue ⟨6000⟩ "a" List.mem_cons_self
    rw [hgranted] at hjournal
    rw [hjournal] at hother
    have hpersistent : r.object.isPersistent = true := by
      have hr : ("a", r) ∈ w.store.expired 0 ⟨7000⟩ :=
        Store.mem_expired.2 ⟨hknown, hnow ▸ hover⟩
      rw [hexpired, List.mem_singleton] at hr
      cases hr
      decide
    exact ⟨w, w', reply, before, hrun, hjournal, hother, htold, r, hknown, hpersistent,
      hbounds hpersistent⟩

end BrokerSessions
