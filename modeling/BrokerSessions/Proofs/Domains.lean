-- Arguments and their domains. A record is proper if its time lies after the epoch and its
-- interval is not negative. The store checks some of the arguments that go into a record: the
-- time of a put, and an interval that is set. It checks neither the interval in a session that is
-- put nor the time and the interval of a disconnect, and there improper records come from. While
-- nobody hands in such an argument, all records are proper, and so is what is read off them.
import BrokerSessions.Proofs.Audit
import BrokerSessions.Proofs.Fates
import BrokerSessions.Proofs.Readers

namespace BrokerSessions

variable {σ : Type}

/-! ## Proper records -/

/-- A record whose time and interval are in their domains. -/
structure Entry.Proper (r : Record) : Prop where
  stamped : r.stamp.isPositive = true
  lasting : 0 ≤ r.object.expiry

/-- No session ends before the last change of it, if its interval is not negative. -/
theorem Session.le_expiresAt {s : Session} (h : 0 ≤ s.expiry) (stamp : Timestamp) :
    stamp ≤ s.expiresAt stamp := by
  rw [Int64.le_iff_toInt_le] at h
  have hzero : (0 : Int64).toInt = 0 := rfl
  have hthousand : (1000 : Int64).toInt = 1000 := rfl
  have hlast := stamp.millis.toInt_lt
  rw [Timestamp.le_iff]
  unfold Session.expiresAt Timestamp.addSeconds
  rw [Saturating.toInt_add, Saturating.toInt_mul, hthousand]
  unfold Saturating.clamp Saturating.lowest Saturating.highest
  omega

namespace Entry.Proper

variable {r : Record}

theorem le_expiresAt (h : r.Proper) : r.stamp ≤ r.object.expiresAt r.stamp :=
  Session.le_expiresAt h.lasting r.stamp

/-- A will waits for a negative time only if it asks for that. -/
theorem requestedDelay_neg (h : r.Proper) {p : PendingWill} (hp : r.pendingWill? = some p)
    (hneg : p.delay < 0) : p.requestedDelay < 0 := by
  unfold Entry.pendingWill? at hp
  split at hp
  · cases hp
  · obtain ⟨will, -, rfl⟩ := Option.map_eq_some_iff.1 hp
    change (if will.publication.delay ≤ r.object.expiry then will.publication.delay
      else r.object.expiry) < 0 at hneg
    split at hneg
    · exact hneg
    · exact absurd hneg (Int64.not_lt.2 h.lasting)

end Entry.Proper

/-! ## Arguments that nobody checks -/

/-- Whether those arguments of a request that the store does not check are in their domains. -/
def Request.isProper : Request → Bool
  | put _ session _ _ => 0 ≤ session.expiry
  | disconnect _ stamp _ _ expiry => stamp.isPositive && expiry.all fun n => 0 ≤ n
  | _ => true

/-- If a mark tells that a request was granted, the request had proper arguments. -/
def Mark.isTrusted : Mark → Bool
  | .answered q none => q.isProper
  | _ => true

/-- All requests that were granted had proper arguments. -/
def Trusted (journal : List Mark) : Prop := ∀ m ∈ journal, m.isTrusted = true

instance (journal : List Mark) : Decidable (Trusted journal) :=
  inferInstanceAs (Decidable (∀ m ∈ journal, m.isTrusted = true))

theorem Trusted.of_suffix {journal journal' : List Mark} (h : Trusted journal')
    (hsuffix : journal <:+ journal') : Trusted journal := fun m hm => h m (hsuffix.subset hm)

/-- All records of a world are proper, those that were forgotten too. -/
structure World.Upright (w : World σ) : Prop where
  default : 0 ≤ w.store.defaultExpiry
  stored : ∀ b c r, w.store.record? b c = some r → r.Proper
  forgotten : ∀ b c r, .forgotten b c r ∈ w.journal → r.Proper

/-- Between two worlds the journal went on, and proper requests left only proper records. -/
structure Upholds (w w' : World σ) : Prop where
  journal : w.journal <:+ w'.journal
  upright : Trusted w'.journal → w.Upright → w'.Upright

namespace Upholds

variable {w w' : World σ}

/-- A step that brings only proper records into the store and takes only proper ones out. -/
theorem step (hdefault : w'.store.defaultExpiry = w.store.defaultExpiry)
    (hstored : ∀ b c r, w'.store.record? b c = some r → w.store.record? b c = some r ∨ r.Proper)
    (since : List Mark) (hjournal : w'.journal = since ++ w.journal)
    (hsince : ∀ b c r, .forgotten b c r ∈ since → r.Proper) : Upholds w w' where
  journal := ⟨since, hjournal.symm⟩
  upright _ hw := by
    refine ⟨hdefault ▸ hw.default, fun b c r hr => ?_, fun b c r hr => ?_⟩
    · exact (hstored b c r hr).elim (hw.stored b c r) id
    · rw [hjournal] at hr
      exact (List.mem_append.1 hr).elim (hsince b c r) (hw.forgotten b c r)

theorem lasting : Lasting (Upholds (σ := σ)) where
  refl _ := ⟨List.suffix_refl _, fun _ => id⟩
  trans h₁ h₂ := ⟨h₁.journal.trans h₂.journal,
    fun ht hw => h₂.upright ht (h₁.upright (ht.of_suffix h₂.journal) hw)⟩
  outside _ _ := step rfl (fun _ _ _ => .inl) [] rfl (by simp)
  idle _ m hm := step rfl (fun _ _ _ => .inl) [m] rfl (by cases m <;> simp_all [Mark.isIdle])

theorem enter (w : World σ) (bucket : Nat) : Upholds w (w.enter bucket) :=
  step rfl (fun _ _ _ => .inl) [_] rfl (by simp)

theorem leave (w : World σ) (bucket : Nat) : Upholds w (w.leave bucket) :=
  step rfl (fun _ _ _ => .inl) [_] rfl (by simp)

theorem lowerMemory (w : World σ) (n : UInt64) : Upholds w (w.lowerMemory n) :=
  step rfl (fun _ _ _ => .inl) [_] rfl (by simp)

theorem recount (w : World σ) (before after : Bool) : Upholds w (w.recount before after) := by
  cases before <;> cases after
  · exact lasting.refl w
  · exact step rfl (fun _ _ _ => .inl) [_] rfl (by simp)
  · exact step rfl (fun _ _ _ => .inl) [_] rfl (by simp)
  · exact lasting.refl w

theorem givenBack (w : World σ) (id? : Option PayloadId) : Upholds w (w.givenBack id?) := by
  cases id? with
  | some id => exact step rfl (fun _ _ _ => .inl) [_] rfl (by simp)
  | none => exact lasting.refl w

theorem erase (w : World σ) (bucket : Nat) (client : ClientId) :
    Upholds w (w.erase bucket client) := by
  refine step rfl (fun b c r hr => .inl ?_) [] rfl (by simp)
  rw [World.store_erase, Store.record?_erase] at hr
  split at hr
  · cases hr
  · exact hr

theorem keep (w : World σ) (bucket : Nat) (client : ClientId) {fresh : Record}
    (h : fresh.Proper) : Upholds w (w.keep bucket client fresh) := by
  refine step rfl (fun b c r hr => ?_) [_, _] rfl (by simp)
  change ((w.raiseMemory fresh.weight).store.file bucket client fresh).record? b c = _ at hr
  rw [Store.record?_file] at hr
  split at hr
  · cases hr
    exact .inr h
  · exact .inl hr

theorem forgotten (w : World σ) (bucket : Nat) (client : ClientId) {r : Record} (h : r.Proper) :
    Upholds w (w.note (.forgotten bucket client r)) :=
  step rfl (fun _ _ _ => .inl) [_] rfl (by simp_all)

theorem dangled (w : World σ) (id : PayloadId) : Upholds w (w.note (.dangled id)) :=
  step rfl (fun _ _ _ => .inl) [_] rfl (by simp)

end Upholds

/-! ## Proper requests leave proper records -/

namespace Store

/-- An argument that the store checks is refused for what it is, unless it is in its domain. -/
theorem objection_of_not_sane (s : Store) {q : Request} (h : q.isSane = false) :
    ∃ what, s.objection q = some (.invalidArgument what) := by
  cases q with
  | put client session stamp bucket =>
    have hstamp : stamp.isPositive = false := h
    exact ⟨.stampNotPositive, by simp [objection, hstamp]⟩
  | setExpiry client expiry bucket =>
    have hneg : expiry < 0 := Int64.not_le.1 (of_decide_eq_false h)
    exact ⟨.negativeExpiry expiry, by simp [objection, hneg]⟩
  | _ => cases h

theorem isSane_of_objection {s : Store} {q : Request} (door : s.objection q = none) :
    q.isSane = true := by
  by_contra h
  obtain ⟨what, hwhat⟩ := s.objection_of_not_sane (Bool.eq_false_iff.2 h)
  rw [door] at hwhat
  cases hwhat

/-- Usable settings have a default interval that is not negative. -/
theorem defaultExpiry_of_ofConfig {c : Config} {walk : Walk} {s : Store}
    (h : ofConfig c walk = .ok s) :
    0 ≤ s.defaultExpiry := by
  obtain ⟨hc, rfl⟩ := ofConfig_ok h
  unfold Config.check at hc
  split at hc
  · cases hc
  · split at hc
    · cases hc
    · rename_i hneg
      exact Int64.not_lt.1 hneg

end Store

section

open Operation

variable {env : Collaborators σ} {serve : Server σ} {w w' : World σ}

theorem release_upholds (hs : serve.Keeps Upholds) {s : Session} {u : Unit}
    (h : (release env serve s).run w = some (u, w')) : Upholds w w' :=
  Upholds.lasting.trans (.givenBack w _) (release_keeps Upholds.lasting hs h)

theorem dismissals_uphold (hs : serve.Keeps Upholds) {bucket : Nat}
    {l : List (ClientId × Record)} (hl : ∀ x ∈ l, x.2.Proper) {u : Unit}
    (h : (l.forM fun (client, r) => dismiss env serve bucket client r).run w = some (u, w')) :
    Upholds w w' := by
  have hL := Upholds.lasting (σ := σ)
  induction l generalizing w with
  | nil =>
    obtain ⟨_, rfl⟩ := Act.pure_some.1 h
    exact hL.refl w
  | cons x rest ih =>
    obtain ⟨w₁, h₁, h₂⟩ := forM_cons_some.1 h
    obtain ⟨w₂, hg, rfl⟩ := dismiss_some h₁
    have hback := hL.trans (.recount w _ _) (release_upholds hs hg)
    have hgone := hL.trans (hL.trans (.lowerMemory w₂ x.2.weight) (.erase _ bucket x.1))
      (.forgotten _ bucket x.1 (hl x List.mem_cons_self))
    exact hL.trans hback
      (hL.trans hgone (ih (fun y hy => hl y (List.mem_cons_of_mem _ hy)) h₂))

/-- The session of a known client that went away has the interval that it was given or had. -/
theorem expiry_of_left {R : World σ → World σ → Prop} (hR : Lasting R) (hs : serve.Keeps R)
    {old kept away : Session} {sendWill : Bool} {expiry : Option Int64} {w₁ w₂ : World σ}
    (will : (willOrNone env serve old sendWill).run w = some (kept, w₁))
    (checked : (dropDangling env serve
      { kept with connected := false, expiry := expiry.getD kept.expiry }).run w₁ =
        some (away, w₂)) : away.expiry = expiry.getD old.expiry := by
  have hkept : kept.expiry = old.expiry := by
    rcases willOrNone_cases hR hs will with ⟨rfl, _⟩ | ⟨rfl, _⟩ <;> rfl
  rcases dropDangling_cases hR hs checked with ⟨rfl, _⟩ | ⟨_, _, _, rfl, _⟩
  · rw [hkept]
  · exact congrArg expiry.getD hkept

/-- A proper request that is granted upholds an upright world, and so does a refusal. -/
theorem course_upholds (hclock : ∀ own, (env.now own).isPositive = true) (hs : serve.Keeps Upholds)
    {q : Request} {reply : q.Reply} (h : Course env serve q w reply w')
    (hq : refusalOf reply = none → q.isProper = true) (hw : w.Upright) : Upholds w w' := by
  have hL := Upholds.lasting (σ := σ)
  cases h with
  | turnedAway => exact hL.refl w
  | @putNew client session stamp bucket _ door =>
    have hfresh : (session.withoutPayload.keptAt stamp).Proper :=
      ⟨Store.isSane_of_objection door, of_decide_eq_true (hq rfl)⟩
    exact hL.trans (.enter w bucket) (hL.trans (.recount _ _ _) (hL.trans (.keep _ _ _ hfresh)
      (.leave _ bucket)))
  | @putOver client session stamp bucket old _ w₁ door known given =>
    have hfresh : (session.withoutPayload.keptAt stamp).Proper :=
      ⟨Store.isSane_of_objection door, of_decide_eq_true (hq rfl)⟩
    have hback := hL.trans (.lowerMemory _ _) (release_upholds hs given)
    exact hL.trans (.enter w bucket) (hL.trans hback (hL.trans (.recount _ _ _)
      (hL.trans (.keep _ _ _ hfresh) (.leave _ bucket))))
  | @strangerLeft client stamp sendWill bucket expiry =>
    have hstamp : stamp.isPositive = true := (Bool.and_eq_true_iff.1 (hq rfl)).1
    have hfresh : (w.store.stranger.keptAt stamp).Proper := ⟨hstamp, hw.default⟩
    exact hL.trans (.enter w bucket) (hL.trans (.recount _ _ _) (hL.trans (.keep _ _ _ hfresh)
      (.leave _ bucket)))
  | @clientLeft client stamp sendWill bucket expiry old kept away _ _ w₁ w₂ w₃ door known will
      checked resolved =>
    obtain ⟨hstamp, hexpiry⟩ := Bool.and_eq_true_iff.1 (hq rfl)
    have hfresh : (away.keptAt stamp).Proper := by
      refine ⟨hstamp, ?_⟩
      change 0 ≤ away.expiry
      rw [expiry_of_left hL hs will checked]
      cases expiry with
      | none => exact (hw.stored bucket client old known).lasting
      | some n => exact of_decide_eq_true hexpiry
    have haway := hL.trans (willOrNone_keeps hL hs Upholds.givenBack will)
      (dropDangling_keeps hL hs Upholds.dangled checked)
    have hkept := hL.trans (hL.trans (.recount _ _ _) (.keep _ _ _ hfresh))
      (attachPayload_keeps hL hs resolved)
    exact hL.trans (.enter w bucket) (hL.trans (.lowerMemory _ _) (hL.trans haway
      (hL.trans hkept (.leave _ bucket))))
  | @removedNone client bucket => exact hL.trans (.enter w bucket) (.leave _ bucket)
  | @removed client bucket old _ w₁ door known given =>
    have hback := hL.trans (hL.trans (.erase _ _ _) (.recount _ _ _)) (release_upholds hs given)
    exact hL.trans (.enter w bucket) (hL.trans hback (hL.trans (.lowerMemory _ _)
      (hL.trans (.forgotten _ _ _ (hw.stored bucket client old known)) (.leave _ bucket))))
  | @purged bucket expired _ w₁ w₂ door ended dismissed announced =>
    have hexpired : ∀ x ∈ expired, x.2.Proper := by
      intro x hx
      rw [← ended] at hx
      exact hw.stored bucket x.1 x.2 (Store.mem_expired.1 hx).1
    exact hL.trans (.enter w bucket) (hL.trans (dismissals_uphold hs hexpired dismissed)
      (hL.trans (announcements_keep hL hs announced) (.leave _ bucket)))
  | @noSession client expiry bucket => exact hL.trans (.enter w bucket) (.leave _ bucket)
  | @expirySet client expiry bucket old _ door =>
    have hfresh : ({ old.object with expiry }.keptAt (env.now w.outside) : Record).Proper :=
      ⟨hclock w.outside, of_decide_eq_true (Store.isSane_of_objection door)⟩
    exact hL.trans (.enter w bucket) (hL.trans (.recount _ _ _) (hL.trans (.lowerMemory _ _)
      (hL.trans (.keep _ _ _ hfresh) (.leave _ bucket))))
  | @willStays client bucket => exact hL.trans (.enter w bucket) (.leave _ bucket)
  | @willCancelled client bucket old _ w₁ door known away given =>
    obtain ⟨hstamp, hexpiry⟩ := hw.stored bucket client old known
    have hfresh : (old.object.withoutWill.keptAt old.stamp).Proper := ⟨hstamp, hexpiry⟩
    have hback := hL.trans (.lowerMemory _ _) (release_upholds hs given)
    exact hL.trans (.enter w bucket) (hL.trans hback (hL.trans (.keep _ _ _ hfresh)
      (.leave _ bucket)))
  | notFound => exact hL.refl w
  | foundBare => exact hL.refl w
  | foundWhole _ _ _ resolved => exact attachPayload_keeps hL hs resolved

/-- Whatever a request does, the journal goes on from where it was. -/
theorem journal_bears : Bears fun w w' : World σ => w.journal <:+ w'.journal where
  refl _ := List.suffix_refl _
  trans h₁ h₂ := h₁.trans h₂
  outside _ _ := List.suffix_refl _
  store _ _ := List.suffix_refl _
  note _ _ _ _ := List.suffix_cons _ _

theorem attend_upholds (hclock : ∀ own, (env.now own).isPositive = true)
    (hs : serve.Keeps Upholds) : (attend env serve).Keeps Upholds := by
  intro q w reply w' h
  obtain ⟨w₁, hc, rfl⟩ := attend_course h
  have hsuffix := journal_bears.course (hs.mono fun _ _ => Upholds.journal) hc
    fun _ _ _ _ => List.suffix_cons _ _
  refine ⟨((List.suffix_cons _ _).trans hsuffix).trans (List.suffix_cons _ _), fun ht hw => ?_⟩
  have hq : refusalOf reply = none → q.isProper = true := by
    intro hgranted
    rw [hgranted] at ht
    exact ht (.answered q none) List.mem_cons_self
  have hcalled : Upholds w (w.note (.called q)) :=
    .step rfl (fun _ _ _ => .inl) [_] rfl (by simp)
  have hanswered : Upholds w₁ (w₁.note (.answered q (refusalOf reply))) :=
    .step rfl (fun _ _ _ => .inl) [_] rfl (by simp)
  have hbegun := hcalled.upright (ht.of_suffix (hsuffix.trans (List.suffix_cons _ _))) hw
  have hdone := (course_upholds hclock hs hc hq hbegun).upright
    (ht.of_suffix (List.suffix_cons _ _)) hbegun
  exact hanswered.upright ht hdone

end

/-- While all requests are proper, all records of a run are. -/
theorem Reached.upright {env : Collaborators σ} (hclock : ∀ own, (env.now own).isPositive = true)
    {w : World σ} (hw : Reached env w) (ht : Trusted w.journal) : w.Upright := by
  obtain ⟨c, walk, s, own, hc, hrel⟩ := hw.since Upholds.lasting.toChatty fun depth =>
    perform_keeps (fun _ => attend_upholds hclock) depth
  apply hrel.upright ht
  constructor
  · exact Store.defaultExpiry_of_ofConfig hc
  · intro b client r hr
    rw [Store.record?_of_ofConfig hc] at hr
    cases hr
  · intro b client r hr
    cases hr

/-! ## What goes in unchecked -/

/-- The interval that the session of a client has after a disconnect. -/
def Store.intervalAway (s : Store) (bucket : Nat) (client : ClientId) (expiry : Option Int64) :
    Int64 :=
  match s.record? bucket client with
  | some old => expiry.getD old.object.expiry
  | none => s.defaultExpiry

section

open Operation

variable {env : Collaborators σ} {w w' : World σ} {depth : Nat} {client : ClientId}
  {session : Session} {stamp : Timestamp} {bucket : Nat}

/-- A session that is put lies at its key as soon as the put is granted, and only a put with a
time after the epoch is. -/
theorem put_filed (h : (perform env depth (.put client session stamp bucket)).run w =
      some (.ok (), w')) :
    w'.store.record? bucket client = some (session.withoutPayload.keptAt stamp) ∧
      stamp.isPositive = true := by
  cases depth with
  | zero => cases h
  | succ depth =>
    obtain ⟨w₁, hc, rfl⟩ := attend_course h
    rw [World.store_note]
    cases hc with
    | putNew door =>
      have hlt : bucket < w.store.bucketCount := (Store.open_of_objection rfl door).1
      refine ⟨?_, Store.isSane_of_objection door⟩
      rw [World.record?_leave, record?_kept (by simpa using hlt), if_pos ⟨rfl, rfl⟩]
    | putOver door known given =>
      have hlt : bucket < w.store.bucketCount := (Store.open_of_objection rfl door).1
      have hframe := release_keeps Frame.lasting (perform_frame env depth) given
      have hcount := hframe.count
      simp only [World.store_givenBack] at hcount
      refine ⟨?_, Store.isSane_of_objection door⟩
      rw [World.record?_leave, record?_kept (by simpa [hcount] using hlt), if_pos ⟨rfl, rfl⟩]

/-- What lies at the key of a client when its disconnect is granted. -/
theorem disconnect_filed {sendWill : Bool} {expiry : Option Int64} {reply : Session}
    (h : (perform env depth (.disconnect client stamp sendWill bucket expiry)).run w =
      some (.ok reply, w')) :
    ∃ r, w'.store.record? bucket client = some r ∧ r.stamp = stamp ∧
      r.object.expiry = w.store.intervalAway bucket client expiry := by
  cases depth with
  | zero => cases h
  | succ depth =>
    obtain ⟨w₁, hc, rfl⟩ := attend_course h
    have hL := Frame.lasting (σ := σ)
    have hs := perform_frame env depth
    rw [World.store_note]
    unfold Store.intervalAway
    cases hc with
    | strangerLeft door vacant =>
      have hlt : bucket < w.store.bucketCount := (Store.open_of_objection rfl door).1
      replace vacant : w.store.record? bucket client = none := vacant
      refine ⟨w.store.stranger.keptAt stamp, ?_, rfl, ?_⟩
      · rw [World.record?_leave, record?_kept (by simpa using hlt), if_pos ⟨rfl, rfl⟩]
        rfl
      · rw [vacant]
        rfl
    | @clientLeft _ _ _ _ _ old kept away _ _ w₂ w₃ w₄ door known will checked resolved =>
      have hlt : bucket < w.store.bucketCount := (Store.open_of_objection rfl door).1
      replace known : w.store.record? bucket client = some old := known
      have hframe := hL.trans (willOrNone_keeps hL hs Frame.givenBack will)
        (dropDangling_keeps hL hs (fun v _ => .note v _) checked)
      have hcount : bucket < w₃.store.bucketCount := hlt.trans_eq hframe.count.symm
      have hwriting : bucket ∈ (w₃.recount old.object.isLive away.isLive).store.writing := by
        simp [hframe.writing]
      have hheld := (attachPayload_keeps hL hs resolved).held bucket hwriting client
      refine ⟨away.keptAt stamp, ?_, rfl, ?_⟩
      · rw [World.record?_leave, hheld, record?_kept (by simpa using hcount), if_pos ⟨rfl, rfl⟩]
      · rw [known]
        exact expiry_of_left hL hs will checked

end

/-! ## How far the checks go -/

/-- What the store checks it refuses. What it does not check it keeps: as long as all requests
that are granted have proper arguments, every record is proper, no will waits for a negative time
that it did not ask for, and the event log is told of no end before the last change of the
record. A put and a disconnect with other arguments are granted too, and leave an improper
record. -/
theorem arguments_checked {env : Collaborators σ}
    (hclock : ∀ own, (env.now own).isPositive = true) {w : World σ} (hw : Reached env w) :
    (∀ depth q, q.isSane = false → ∃ what v,
      (perform env (depth + 1) q).run w = some (.error (.invalidArgument what), v)) ∧
    (Trusted w.journal →
      (∀ b c r, w.store.record? b c = some r → r.Proper) ∧
      (∀ b, b < w.store.bucketCount → ∃ pending, w.store.pendingWills b = .ok pending ∧
        ∀ c p, (c, p) ∈ pending → p.delay < 0 → p.requestedDelay < 0) ∧
      ∀ instant c before, .announced instant c :: before <:+ w.journal →
        ∃ b r, .forgotten b c r ∈ before ∧ instant = r.object.expiresAt r.stamp ∧
          r.stamp ≤ instant) ∧
    (∀ depth c session stamp b v,
      (perform env depth (.put c session stamp b)).run w = some (.ok (), v) →
        ∃ r, v.store.record? b c = some r ∧ (r.Proper ↔ 0 ≤ session.expiry)) ∧
    ∀ depth c stamp sendWill b expiry (reply : Session) v,
      (perform env depth (.disconnect c stamp sendWill b expiry)).run w = some (.ok reply, v) →
        ∃ r, v.store.record? b c = some r ∧
          (r.Proper ↔ stamp.isPositive = true ∧ 0 ≤ w.store.intervalAway b c expiry) := by
  refine ⟨fun depth q hq => ?_, fun ht => ?_, fun depth c session stamp b v hput => ?_,
    fun depth c stamp sendWill b expiry reply v hleft => ?_⟩
  · obtain ⟨what, hwhat⟩ := w.store.objection_of_not_sane hq
    exact ⟨what, _, perform_turnedAway hwhat depth⟩
  · have hupright := hw.upright hclock ht
    refine ⟨hupright.stored, fun b hlt => ?_, fun instant c before hbefore => ?_⟩
    · obtain ⟨pending, hpending, hmem⟩ := Store.pendingWills_ok hlt
      refine ⟨pending, hpending, fun c p hp hneg => ?_⟩
      obtain ⟨r, hr, hwaits⟩ := Option.bind_eq_some_iff.1 ((hmem c p).1 hp)
      exact (hupright.stored b c r hr).requestedDelay_neg hwaits hneg
    · obtain ⟨b, r, hr, rfl⟩ := hw.vouched instant c before hbefore
      have hearlier : before <:+ w.journal := (List.suffix_cons _ _).trans hbefore
      exact ⟨b, r, hr, rfl, (hupright.forgotten b c r (hearlier.subset hr)).le_expiresAt⟩
  · obtain ⟨hr, hstamp⟩ := put_filed hput
    exact ⟨_, hr, fun h => h.lasting, fun hexpiry => ⟨hstamp, hexpiry⟩⟩
  · obtain ⟨r, hr, rfl, hexpiry⟩ := disconnect_filed hleft
    rw [← hexpiry]
    exact ⟨r, hr, fun h => ⟨h.stamped, h.lasting⟩, fun h => ⟨h.1, h.2⟩⟩

/-- Collaborators that never talk back, with a clock that always shows the same time. -/
def Collaborators.stopped : Collaborators Backdrop := { Collaborators.quiet with now _ := ⟨1000⟩ }

/-- One client goes away for good, and one for five seconds. A purge takes the first one away. -/
def fairCopy : Dialogue Backdrop Unit := do
  let will : Will := { publication := { topic := "t", delay := 7 }, payloadId := 1 }
  let _ ← Dialogue.request (.put "a" { connected := true, expiry := 0 } ⟨900⟩ 0)
  let _ ← Dialogue.request (.disconnect "a" ⟨1000⟩ false 0 none)
  let _ ← Dialogue.request (.put "b" { connected := false, expiry := 5, will } ⟨1000⟩ 0)
  let _ ← Dialogue.request (.purge 0)

/-- After that a put at the epoch is refused, and a disconnect at the epoch is not. -/
theorem arguments_checked_fairCopy :
    ∃ w, Reached .stopped w ∧ Trusted w.journal ∧
      (∃ r, w.store.record? 0 "b" = some r ∧ r.Proper) ∧
      (∃ before b r, .announced ⟨1000⟩ "a" :: before <:+ w.journal ∧
        .forgotten b "a" r ∈ before ∧ r.stamp ≤ ⟨1000⟩) ∧
      (∃ what v, (perform .stopped 1 (.put "c" { connected := true, expiry := 5 } ⟨0⟩ 1)).run w =
        some (.error (.invalidArgument what), v)) ∧
      ∃ (reply : Session) (v : World Backdrop) (r : Record),
        (perform .stopped 1 (.disconnect "b" ⟨0⟩ true 0 none)).run w = some (.ok reply, v) ∧
          v.store.record? 0 "b" = some r ∧ ¬ r.Proper := by
  let will : Will := { publication := { topic := "t", delay := 7 }, payloadId := 1 }
  let waiting : Record := Session.keptAt { connected := false, expiry := 5, will } ⟨1000⟩
  have hend : ((converse .stopped 1 fairCopy).run
      { store := { defaultExpiry := 9, buckets := Array.replicate 2 ∅ },
        outside := { clock := ⟨0⟩ } }).bind (fun (_, w) =>
          ((perform .stopped 1 (.disconnect "b" ⟨0⟩ true 0 none)).run w).map fun (reply, _) =>
            (w.store.record? 0 "b", decide (Trusted w.journal),
              decide (.announced ⟨1000⟩ "a" ∈ w.journal), refusalOf reply)) =
      some (some waiting, true, true, none) := by
    decide +kernel
  obtain ⟨⟨_, w⟩, hrun, hend⟩ := Option.bind_eq_some_iff.1 hend
  obtain ⟨⟨reply, v⟩, hleave, hfacts⟩ := Option.map_eq_some_iff.1 hend
  obtain ⟨hb, ht, htold, hgranted⟩ : w.store.record? 0 "b" = some waiting ∧ Trusted w.journal ∧
      .announced ⟨1000⟩ "a" ∈ w.journal ∧ refusalOf reply = none := by
    simpa using hfacts
  have hreached : Reached .stopped w :=
    .conversed (.start _ (c := { bucketCount := 2, defaultExpiry := 9 }) rfl) hrun
  obtain ⟨hrefused, hproper, -, hleft⟩ := arguments_checked (fun _ => rfl) hreached
  obtain ⟨hstored, -, hvouched⟩ := hproper ht
  obtain ⟨after, before, hjournal⟩ := List.append_of_mem htold
  have hbefore : .announced ⟨1000⟩ "a" :: before <:+ w.journal := ⟨after, hjournal.symm⟩
  obtain ⟨b, r, hr, -, hle⟩ := hvouched _ _ _ hbefore
  refine ⟨w, hreached, ht, ⟨waiting, hb, hstored 0 "b" waiting hb⟩,
    ⟨before, b, r, hbefore, hr, hle⟩, hrefused 0 _ rfl, ?_⟩
  cases reply with
  | error => cases hgranted
  | ok away =>
    obtain ⟨r', hr', hiff⟩ := hleft 1 "b" ⟨0⟩ true 0 none away v hleave
    exact ⟨away, v, r', hleave, hr', fun h => absurd (hiff.1 h).1 (by decide)⟩

/-- An interval below zero comes in with a put, and a time that is not after the epoch with a
disconnect. -/
def unchecked : Dialogue Backdrop Unit := do
  let will : Will := { publication := { topic := "t", delay := 7 }, payloadId := 1 }
  let _ ← Dialogue.request (.put "b" { connected := false, expiry := -5, will } ⟨1000⟩ 0)
  let _ ← Dialogue.request (.disconnect "a" ⟨0⟩ false 0 none)

/-- Both are kept. The will waits for a negative time, although it asks for seven seconds, and
the event log is told that the session ended before the last change of it. -/
theorem unchecked_arguments_kept :
    ∃ w w', Reached .stopped w ∧
      (∃ r, w.store.record? 0 "a" = some r ∧ r.stamp.isPositive = false) ∧
      (∃ r, w.store.record? 0 "b" = some r ∧ r.object.expiry < 0) ∧
      w.store.pendingWills 0 = .ok [("b", { delay := -5, requestedDelay := 7 })] ∧
      (perform .stopped 1 (.purge 0)).run w = some (.ok ["b"], w') ∧
      ∃ r, .forgotten 0 "b" r ∈ w'.journal ∧ .announced ⟨-4000⟩ "b" ∈ w'.journal ∧
        ⟨-4000⟩ < r.stamp := by
  let will : Will := { publication := { topic := "t", delay := 7 }, payloadId := 1 }
  let gone : Record := Session.keptAt { connected := false, expiry := 9 } ⟨0⟩
  let waiting : Record := Session.keptAt { connected := false, expiry := -5, will } ⟨1000⟩
  have hend : ((converse .stopped 1 unchecked).run
      { store := { defaultExpiry := 9, buckets := Array.replicate 2 ∅ },
        outside := { clock := ⟨0⟩ } }).bind (fun (_, w) =>
          ((perform .stopped 1 (.purge 0)).run w).map
            fun ((reply, w') : Except Refusal (List ClientId) × World Backdrop) =>
            (["a", "b"].map (w.store.record? 0),
              [decide ((w.store.pendingWills 0).toOption =
                  some [("b", { delay := -5, requestedDelay := 7 })]),
                decide (reply.toOption = some ["b"]),
                decide (.forgotten 0 "b" waiting ∈ w'.journal),
                decide (.announced ⟨-4000⟩ "b" ∈ w'.journal)])) =
      some ([some gone, some waiting], [true, true, true, true]) := by
    decide +kernel
  obtain ⟨⟨_, w⟩, hrun, hend⟩ := Option.bind_eq_some_iff.1 hend
  obtain ⟨⟨(reply : Except Refusal (List ClientId)), w'⟩, hpurge, hfacts⟩ :=
    Option.map_eq_some_iff.1 hend
  obtain ⟨⟨ha, hb⟩, hpending, hreply, hforgotten, htold⟩ :
      (w.store.record? 0 "a" = some gone ∧ w.store.record? 0 "b" = some waiting) ∧
        (w.store.pendingWills 0).toOption = some [("b", { delay := -5, requestedDelay := 7 })] ∧
        reply.toOption = some ["b"] ∧ .forgotten 0 "b" waiting ∈ w'.journal ∧
        .announced ⟨-4000⟩ "b" ∈ w'.journal := by
    simpa using hfacts
  have hreached : Reached .stopped w :=
    .conversed (.start _ (c := { bucketCount := 2, defaultExpiry := 9 }) rfl) hrun
  have hok : ∀ {β : Type} {x : Except Refusal β} {a : β}, x.toOption = some a → x = .ok a := by
    rintro β (_ | _) a h
    · cases h
    · cases h
      rfl
  obtain rfl := hok hreply
  exact ⟨w, w', hreached, ⟨gone, ha, rfl⟩, ⟨waiting, hb, by decide⟩, hok hpending, hpurge,
    waiting, hforgotten, htold, by decide⟩

end BrokerSessions
