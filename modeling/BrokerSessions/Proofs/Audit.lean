-- What the event log is told. A purge forgets the sessions that are over, and then it tells of
-- each of them when it ended. So whoever was told of had been forgotten before, and the instant
-- is the one that the forgotten record gives. This holds in the middle of requests too, whatever
-- the collaborators ask for meanwhile.
import BrokerSessions.Proofs.Runs

namespace BrokerSessions

variable {σ : Type}

/-! ## Instants that a record vouches for -/

/-- A mark that the event log was told of a session that ended. -/
def Mark.isAnnouncement : Mark → Bool
  | .announced _ _ => true
  | _ => false

/-- Each instant that the event log was told is that of a record forgotten before. -/
def Vouched (journal : List Mark) : Prop :=
  ∀ instant client before, .announced instant client :: before <:+ journal →
    ∃ b r, .forgotten b client r ∈ before ∧ instant = r.object.expiresAt r.stamp

namespace Vouched

variable {journal : List Mark}

theorem nil : Vouched [] := by
  intro instant client before hbefore
  cases List.suffix_nil.1 hbefore

theorem cons {m : Mark} (h : Vouched journal) (hm : m.isAnnouncement = false) :
    Vouched (m :: journal) := by
  intro instant client before hbefore
  rcases List.suffix_cons_iff.1 hbefore with heq | hbefore
  · cases heq
    cases hm
  · exact h instant client before hbefore

theorem announce {bucket : Nat} {client : ClientId} {r : Record} (h : Vouched journal)
    (hr : .forgotten bucket client r ∈ journal) :
    Vouched (.announced (r.object.expiresAt r.stamp) client :: journal) := by
  intro instant c before hbefore
  rcases List.suffix_cons_iff.1 hbefore with heq | hbefore
  · cases heq
    exact ⟨bucket, r, hr, rfl⟩
  · exact h instant c before hbefore

end Vouched

/-! ## Every request vouches for what it tells -/

/-- Between two worlds the journal went on, and nothing was told without a voucher. -/
structure Vouches (w w' : World σ) : Prop where
  journal : w.journal <:+ w'.journal
  vouched : Vouched w.journal → Vouched w'.journal

namespace Vouches

variable {w w' : World σ}

theorem chatty : Chatty (Vouches (σ := σ)) where
  refl _ := ⟨List.suffix_refl _, id⟩
  trans h₁ h₂ := ⟨h₁.journal.trans h₂.journal, fun h => h₂.vouched (h₁.vouched h)⟩
  outside _ _ := ⟨List.suffix_refl _, id⟩

theorem marks (since : List Mark) (hjournal : w'.journal = since ++ w.journal)
    (hsince : ∀ m ∈ since, m.isAnnouncement = false) : Vouches w w' where
  journal := ⟨since, hjournal.symm⟩
  vouched h := by
    rw [hjournal]
    clear hjournal
    induction since with
    | nil => exact h
    | cons m rest ih =>
      exact (ih fun m' hm' => hsince m' (List.mem_cons_of_mem _ hm')).cons
        (hsince m List.mem_cons_self)

theorem note (w : World σ) {m : Mark} (hm : m.isAnnouncement = false) : Vouches w (w.note m) :=
  marks [m] rfl (by simpa using hm)

theorem enter (w : World σ) (bucket : Nat) : Vouches w (w.enter bucket) :=
  marks [_] rfl (by simp [Mark.isAnnouncement])

theorem leave (w : World σ) (bucket : Nat) : Vouches w (w.leave bucket) :=
  marks [_] rfl (by simp [Mark.isAnnouncement])

theorem lowerMemory (w : World σ) (n : UInt64) : Vouches w (w.lowerMemory n) :=
  marks [_] rfl (by simp [Mark.isAnnouncement])

theorem recount (w : World σ) (before after : Bool) : Vouches w (w.recount before after) := by
  cases before <;> cases after
  · exact chatty.refl w
  · exact marks [_] rfl (by simp [Mark.isAnnouncement])
  · exact marks [_] rfl (by simp [Mark.isAnnouncement])
  · exact chatty.refl w

theorem keep (w : World σ) (bucket : Nat) (client : ClientId) (fresh : Record) :
    Vouches w (w.keep bucket client fresh) :=
  marks [_, _] rfl (by simp [Mark.isAnnouncement])

theorem erase (w : World σ) (bucket : Nat) (client : ClientId) :
    Vouches w (w.erase bucket client) :=
  marks [] rfl (by simp)

end Vouches

section

open Operation

variable {env : Collaborators σ} {serve : Server σ} {w w' : World σ}

theorem release_vouches (hs : serve.Keeps Vouches) {s : Session} {u : Unit}
    (h : (release env serve s).run w = some (u, w')) : Vouches w w' := by
  unfold release at h
  split at h
  · simp only [Act.bind_some, Act.modify_some] at h
    obtain ⟨_, _, rfl, h⟩ := h
    exact Vouches.chatty.trans (.note w rfl) (Dialogue.run_keeps Vouches.chatty hs _ h)
  · obtain ⟨_, rfl⟩ := Act.pure_some.1 h
    exact Vouches.chatty.refl w

theorem resolve_vouches (hs : serve.Keeps Vouches) {s : Session} {r : Resolution}
    {x : Session × Bool} (h : (s.resolveM (fetch env serve) r).run w = some (x, w')) :
    Vouches w w' := by
  rcases resolve_some h with ⟨_, _, rfl⟩ | ⟨id, bytes, _, hf, _⟩
  · exact Vouches.chatty.refl w'
  · simp only [fetch, Act.bind_some, Act.modify_some] at hf
    obtain ⟨_, _, rfl, hf⟩ := hf
    exact Vouches.chatty.trans (.note w rfl) (Dialogue.run_keeps Vouches.chatty hs _ hf)

theorem attachPayload_vouches (hs : serve.Keeps Vouches) {s s' : Session}
    (h : (attachPayload env serve s).run w = some (s', w')) : Vouches w w' := by
  obtain ⟨_, hr, rfl⟩ := Act.bind_pure_some.1 h
  exact resolve_vouches hs hr

theorem dropDangling_vouches (hs : serve.Keeps Vouches) {s away : Session}
    (h : (dropDangling env serve s).run w = some (away, w')) : Vouches w w' := by
  simp only [dropDangling, Act.bind_some, Act.pure_some] at h
  obtain ⟨⟨kept, whole⟩, w₁, hr, _, _, hn, rfl, rfl⟩ := h
  refine Vouches.chatty.trans (resolve_vouches hs hr) ?_
  cases whole with
  | true =>
    obtain ⟨_, rfl⟩ := Act.pure_some.1 hn
    exact Vouches.chatty.refl w₁
  | false =>
    rw [noteDangling, Act.modify_some] at hn
    subst hn
    exact .marks (s.payloadId?.toList.map .dangled) rfl (by simp [Mark.isAnnouncement])

theorem willOrNone_vouches (hs : serve.Keeps Vouches) {s kept : Session} {sendWill : Bool}
    (h : (willOrNone env serve s sendWill).run w = some (kept, w')) : Vouches w w' := by
  cases sendWill with
  | true =>
    obtain ⟨_, rfl⟩ := Act.pure_some.1 h
    exact Vouches.chatty.refl w
  | false =>
    simp only [willOrNone, Act.bind_some, Act.pure_some] at h
    obtain ⟨_, w₁, hr, _, rfl⟩ := h
    exact release_vouches hs hr

/-- Whoever is dismissed is in the journal from then on. -/
theorem dismissals_vouch (hs : serve.Keeps Vouches) {bucket : Nat}
    {l : List (ClientId × Record)} {u : Unit}
    (h : (l.forM fun (client, r) => dismiss env serve bucket client r).run w = some (u, w')) :
    Vouches w w' ∧ ∀ x ∈ l, .forgotten bucket x.1 x.2 ∈ w'.journal := by
  induction l generalizing w with
  | nil =>
    obtain ⟨_, rfl⟩ := Act.pure_some.1 h
    exact ⟨Vouches.chatty.refl w, by simp⟩
  | cons x rest ih =>
    obtain ⟨w₁, h₁, h₂⟩ := forM_cons_some.1 h
    obtain ⟨w₂, hg, rfl⟩ := dismiss_some h₁
    have hback : Vouches w w₂ := Vouches.chatty.trans (.recount w _ _) (release_vouches hs hg)
    have hgone : Vouches w₂ (((w₂.lowerMemory x.2.weight).erase bucket x.1).note
        (.forgotten bucket x.1 x.2)) := .marks [_, _] rfl (by simp [Mark.isAnnouncement])
    obtain ⟨hrest, hmem⟩ := ih h₂
    refine ⟨Vouches.chatty.trans hback (Vouches.chatty.trans hgone hrest), ?_⟩
    intro y hy
    rcases List.mem_cons.1 hy with rfl | hy
    · exact hrest.journal.subset List.mem_cons_self
    · exact hmem y hy

/-- Who is announced after having been forgotten has a voucher. -/
theorem announcements_vouch (hs : serve.Keeps Vouches) {bucket : Nat}
    {l : List (ClientId × Record)} (hl : ∀ x ∈ l, .forgotten bucket x.1 x.2 ∈ w.journal) {u : Unit}
    (h : (l.forM fun (client, r) =>
      announce env serve (r.object.expiresAt r.stamp) client).run w = some (u, w')) :
    Vouches w w' := by
  induction l generalizing w with
  | nil =>
    obtain ⟨_, rfl⟩ := Act.pure_some.1 h
    exact Vouches.chatty.refl w
  | cons x rest ih =>
    obtain ⟨w₁, h₁, h₂⟩ := forM_cons_some.1 h
    simp only [announce, Act.bind_some, Act.modify_some] at h₁
    obtain ⟨_, _, rfl, h₁⟩ := h₁
    have htold : Vouches w (w.note (.announced (x.2.object.expiresAt x.2.stamp) x.1)) :=
      ⟨List.suffix_cons _ _, fun hw => hw.announce (hl x List.mem_cons_self)⟩
    have hmore := Vouches.chatty.trans htold (Dialogue.run_keeps Vouches.chatty hs _ h₁)
    refine Vouches.chatty.trans hmore (ih (fun y hy => ?_) h₂)
    exact hmore.journal.subset (hl y (List.mem_cons_of_mem _ hy))

theorem course_vouches (hs : serve.Keeps Vouches) {q : Request} {reply : q.Reply}
    (h : Course env serve q w reply w') : Vouches w w' := by
  have hC := Vouches.chatty (σ := σ)
  cases h with
  | turnedAway => exact hC.refl w
  | @putNew client session stamp bucket =>
    exact hC.trans (.enter w bucket) (hC.trans (.recount _ _ _) (hC.trans (.keep _ _ _ _)
      (.leave _ bucket)))
  | @putOver client session stamp bucket old _ w₁ door known given =>
    have hback := hC.trans (.lowerMemory _ _) (release_vouches hs given)
    exact hC.trans (.enter w bucket) (hC.trans hback (hC.trans (.recount _ _ _)
      (hC.trans (.keep _ _ _ _) (.leave _ bucket))))
  | @strangerLeft client stamp sendWill bucket =>
    exact hC.trans (.enter w bucket) (hC.trans (.recount _ _ _) (hC.trans (.keep _ _ _ _)
      (.leave _ bucket)))
  | @clientLeft client stamp sendWill bucket expiry old kept away _ _ w₁ w₂ w₃ door known will
      checked resolved =>
    have hwill := hC.trans (.lowerMemory _ _) (willOrNone_vouches hs will)
    have haway := hC.trans hwill (dropDangling_vouches hs checked)
    have hkept := hC.trans (hC.trans (.recount _ _ _) (.keep _ _ _ _))
      (attachPayload_vouches hs resolved)
    exact hC.trans (.enter w bucket) (hC.trans haway (hC.trans hkept (.leave _ bucket)))
  | @removedNone client bucket => exact hC.trans (.enter w bucket) (.leave _ bucket)
  | @removed client bucket old _ w₁ door known given =>
    have hback := hC.trans (hC.trans (.erase _ _ _) (.recount _ _ _)) (release_vouches hs given)
    exact hC.trans (.enter w bucket) (hC.trans hback (hC.trans (.lowerMemory _ _)
      (hC.trans (.note _ rfl) (.leave _ bucket))))
  | @purged bucket expired _ w₁ w₂ door ended dismissed announced =>
    obtain ⟨hgone, hmem⟩ := dismissals_vouch hs dismissed
    have htold := announcements_vouch hs hmem announced
    exact hC.trans (.enter w bucket) (hC.trans hgone (hC.trans htold (.leave _ bucket)))
  | @noSession client expiry bucket => exact hC.trans (.enter w bucket) (.leave _ bucket)
  | @expirySet client expiry bucket =>
    exact hC.trans (.enter w bucket) (hC.trans (.recount _ _ _) (hC.trans (.lowerMemory _ _)
      (hC.trans (.keep _ _ _ _) (.leave _ bucket))))
  | @willStays client bucket => exact hC.trans (.enter w bucket) (.leave _ bucket)
  | @willCancelled client bucket old _ w₁ door known away given =>
    have hback := hC.trans (.lowerMemory _ _) (release_vouches hs given)
    exact hC.trans (.enter w bucket) (hC.trans hback (hC.trans (.keep _ _ _ _)
      (.leave _ bucket)))
  | notFound => exact hC.refl w
  | foundBare => exact hC.refl w
  | foundWhole _ _ _ resolved => exact attachPayload_vouches hs resolved

theorem attend_vouches (hs : serve.Keeps Vouches) : (attend env serve).Keeps Vouches := by
  intro q w reply w' h
  obtain ⟨w₁, hc, rfl⟩ := attend_course h
  exact Vouches.chatty.trans (.note w rfl)
    (Vouches.chatty.trans (course_vouches hs hc) (.note w₁ rfl))

end

theorem perform_vouches (env : Collaborators σ) (depth : Nat) : (perform env depth).Keeps Vouches :=
  perform_keeps (fun _ => attend_vouches) depth

/-- In a run the event log is told of no session that had not been forgotten before. -/
theorem Reached.vouched {env : Collaborators σ} {w : World σ} (h : Reached env w) :
    Vouched w.journal := by
  obtain ⟨c, walk, s, own, hc, hrel⟩ := h.since Vouches.chatty (perform_vouches env)
  exact hrel.vouched Vouched.nil

end BrokerSessions
