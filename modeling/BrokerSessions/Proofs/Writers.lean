-- One writer for each bucket. Requests nest when collaborators talk back, and the journal
-- tells which of them are unfinished at any moment. Those of them that change a bucket are
-- its writers, and a change is turned away for its bucket only if one of them is at work
-- there already. It may as well not have been asked.
import BrokerSessions.Proofs.Abreast
import BrokerSessions.Proofs.OwnWork
import BrokerSessions.Proofs.Runs

namespace BrokerSessions

variable {σ α : Type}

/-! ## Unfinished requests -/

/-- The requests that came in and are not answered yet, the latest first. -/
def pending : List Mark → List Request
  | [] => []
  | .called q :: rest => q :: pending rest
  | .answered _ _ :: rest => (pending rest).tail
  | _ :: rest => pending rest

/-- The buckets that such requests change. -/
def held : List Request → List Nat
  | [] => []
  | q :: outer => q.during (held outer)

theorem mem_held {bucket : Nat} {requests : List Request} :
    bucket ∈ held requests ↔ ∃ p ∈ requests, p.isMutation = true ∧ p.bucket = bucket := by
  induction requests with
  | nil => simp [held]
  | cons q outer ih =>
    have hq : bucket = q.bucket ↔ q.bucket = bucket := eq_comm
    unfold held Request.during
    split
    · rename_i hm
      simp [ih, hm, hq]
    · rename_i hm
      simp [ih, hm]

theorem pending_append {since : List Mark} (h : ∀ m ∈ since, m.isBracket = false)
    (journal : List Mark) : pending (since ++ journal) = pending journal := by
  induction since with
  | nil => rfl
  | cons m rest ih =>
    have hrest := ih fun m' hm' => h m' (List.mem_cons_of_mem _ hm')
    cases m with
    | called => cases h _ List.mem_cons_self
    | answered => cases h _ List.mem_cons_self
    | _ => exact hrest

/-- An answer is not found among marks that are no answers. -/
theorem answered_suffix_append (since : List Mark)
    (h : ∀ m ∈ since, ∀ p why, m ≠ .answered p why) {q : Request} {refusal : Option Refusal}
    {before journal : List Mark}
    (hs : .answered q refusal :: before <:+ since ++ journal) :
    .answered q refusal :: before <:+ journal := by
  induction since with
  | nil => exact hs
  | cons m rest ih =>
    rcases List.suffix_cons_iff.1 hs with heq | hs
    · cases heq
      exact absurd rfl (h _ List.mem_cons_self q refusal)
    · exact ih (fun m' hm' => h m' (List.mem_cons_of_mem _ hm')) hs

/-! ## Answers in order -/

/-- A request is the latest of those that came in `before` and are unfinished. If it is a
change with good arguments, then it is turned away for its bucket exactly if one of the
others changes that bucket. -/
def Obeys (count : Nat) (before : List Mark) (q : Request) (refusal : Option Refusal) : Prop :=
  ∃ outer, pending before = q :: outer ∧
    (q.isMutation = true → q.isSane = true → q.bucket < count →
      ((∃ rule, refusal = some (.preconditionViolated rule)) ↔
        ∃ p ∈ outer, p.isMutation = true ∧ p.bucket = q.bucket))

/-- The writers are those unfinished requests that change a bucket, and so it was whenever a
request was answered. -/
structure Orderly (w : World σ) : Prop where
  writers : w.store.writing = held (pending w.journal)
  answers : ∀ q refusal before, .answered q refusal :: before <:+ w.journal →
    Obeys w.store.bucketCount before q refusal

/-- No request was finished that had begun before, and order was kept. -/
structure OneWriter (w w' : World σ) : Prop where
  count : w'.store.bucketCount = w.store.bucketCount
  writing : w'.store.writing = w.store.writing
  stack : pending w'.journal = pending w.journal
  orderly : Orderly w → Orderly w'

namespace OneWriter

variable {w w' : World σ}

theorem of_marks (since : List Mark) (h : ∀ m ∈ since, m.isBracket = false)
    (hj : w'.journal = since ++ w.journal)
    (hcount : w'.store.bucketCount = w.store.bucketCount)
    (hwriting : w'.store.writing = w.store.writing) : OneWriter w w' := by
  have hpending : pending w'.journal = pending w.journal := by
    rw [hj, pending_append h]
  refine ⟨hcount, hwriting, hpending, ?_⟩
  intro ho
  refine ⟨by rw [hwriting, ho.writers, hpending], ?_⟩
  intro q refusal before hs
  rw [hj] at hs
  rw [hcount]
  refine ho.answers q refusal before (answered_suffix_append since ?_ hs)
  rintro _ hm p why rfl
  cases h _ hm

theorem chatty : Chatty (OneWriter (σ := σ)) where
  refl _ := ⟨rfl, rfl, rfl, id⟩
  trans h₁ h₂ := ⟨h₂.count.trans h₁.count, h₂.writing.trans h₁.writing,
    h₂.stack.trans h₁.stack, fun ho => h₂.orderly (h₁.orderly ho)⟩
  outside _ _ := ⟨rfl, rfl, rfl, fun ho => ⟨ho.writers, ho.answers⟩⟩

theorem ownWork (w w' : World σ) (h : OwnWork w w') : OneWriter w w' := by
  obtain ⟨since, hj, hm⟩ := h.marks
  exact of_marks since (fun m h => (hm m h).1) hj h.count h.writing

theorem release (w : World σ) (id : PayloadId) : OneWriter w (w.note (.released id)) :=
  of_marks [.released id] (by simp [Mark.isBracket]) rfl rfl rfl

end OneWriter

namespace Orderly

variable {w w₁ : World σ} {q : Request}

theorem called (ho : Orderly w) (hq : q.isMutation = false) : Orderly (w.note (.called q)) := by
  refine ⟨?_, ?_⟩
  · change w.store.writing = held (q :: pending w.journal)
    simp [held, Request.during, hq, ho.writers]
  · intro p refusal before hs
    exact ho.answers p refusal before (answered_suffix_append [.called q] (by simp) hs)

theorem opened (ho : Orderly w) (hq : q.isMutation = true) :
    Orderly ((w.note (.called q)).enter q.bucket) := by
  refine ⟨?_, ?_⟩
  · change q.bucket :: w.store.writing = held (q :: pending w.journal)
    simp [held, Request.during, hq, ho.writers]
  · intro p refusal before hs
    exact ho.answers p refusal before
      (answered_suffix_append [.opened q.bucket, .called q] (by simp) hs)

/-- The last request is answered, and only for its bucket it may have been turned away. -/
theorem answered {refusal : Option Refusal} (ho : Orderly w)
    (hcount : w₁.store.bucketCount = w.store.bucketCount)
    (hwriting : w₁.store.writing = w.store.writing)
    (hpending : pending w₁.journal = q :: pending w.journal)
    (hanswers : ∀ p why before, .answered p why :: before <:+ w₁.journal →
      Obeys w.store.bucketCount before p why)
    (hrefusal : q.isMutation = true → q.isSane = true → q.bucket < w.store.bucketCount →
      ((∃ rule, refusal = some (.preconditionViolated rule)) ↔ q.bucket ∈ w.store.writing)) :
    Orderly (w₁.note (.answered q refusal)) := by
  refine ⟨?_, ?_⟩
  · change w₁.store.writing = held (pending w₁.journal).tail
    rw [hwriting, hpending, ho.writers]
    rfl
  · intro p why before hs
    change Obeys w₁.store.bucketCount before p why
    rw [hcount]
    rcases List.suffix_cons_iff.1 hs with heq | hs
    · cases heq
      refine ⟨_, hpending, ?_⟩
      intro hm hsane hlt
      rw [hrefusal hm hsane hlt, ho.writers, mem_held]
    · exact hanswers p why before hs

end Orderly

/-! ## Every request keeps order -/

section

variable {env : Collaborators σ} {serve : Server σ} {w w' : World σ}

/-- A change of a bucket with good arguments is turned away only because that is taken. -/
theorem Store.objection_of_sane {s : Store} {q : Request} {why : Refusal}
    (hm : q.isMutation = true) (hsane : q.isSane = true) (hlt : q.bucket < s.bucketCount)
    (h : s.objection q = some why) :
    why = .preconditionViolated (.alreadyWriting q.bucket) ∧ q.bucket ∈ s.writing := by
  rw [Store.objection_eq_barrier hm hsane, Store.barrier, if_pos hlt] at h
  split at h
  · rename_i htaken
    cases h
    exact ⟨rfl, htaken⟩
  · cases h

theorem Store.taken_of_barrier {s : Store} {bucket : Nat} {rule : BrokenRule}
    (h : s.barrier bucket = some (.preconditionViolated rule)) : bucket ∈ s.writing := by
  unfold Store.barrier at h
  split at h
  · split at h
    · assumption
    · cases h
  · cases h

theorem Store.taken_of_objection {s : Store} {q : Request} {rule : BrokenRule}
    (h : s.objection q = some (.preconditionViolated rule)) : q.bucket ∈ s.writing := by
  unfold Store.objection at h
  split at h
  · split at h
    · exact Store.taken_of_barrier h
    · cases h
  · split at h
    · cases h
    · exact Store.taken_of_barrier h
  · split at h
    · cases h
    · cases h
  · exact Store.taken_of_barrier h

theorem attend_oneWriter (hs : serve.Keeps OneWriter) : (attend env serve).Keeps OneWriter := by
  intro q w reply w' h
  obtain ⟨w₁, hc, rfl⟩ := attend_course h
  rcases course_inside OneWriter.chatty OneWriter.ownWork hs hc
    (fun _ _ => OneWriter.release) with ⟨why, hdoor, hwhy, rfl⟩ | ⟨hdoor, hwhy, hinside⟩
  · -- Turned away at the door, where the writers are still those from before the request.
    refine ⟨rfl, rfl, rfl, fun ho => ho.answered rfl rfl rfl ?_ ?_⟩
    · intro p refusal before hsuf
      exact ho.answers p refusal before
        (answered_suffix_append [.called q] (by simp) hsuf)
    · intro hm hsane hlt
      obtain ⟨rfl, htaken⟩ := Store.objection_of_sane hm hsane hlt hdoor
      simp only [hwhy]
      exact ⟨fun _ => htaken, fun _ => ⟨_, rfl⟩⟩
  · split at hinside
    · -- Let in, as one more writer of its own bucket until it leaves.
      rename_i hm
      obtain ⟨w₂, hwork, rfl⟩ := hinside
      have hwriting : (w₂.leave q.bucket).store.writing = w.store.writing := by
        change w₂.store.writing.erase q.bucket = _
        rw [hwork.writing]
        exact List.erase_cons_head ..
      have hpending : pending (w₂.leave q.bucket).journal = q :: pending w.journal :=
        hwork.stack
      refine ⟨hwork.count, hwriting, congrArg List.tail hpending, fun ho => ?_⟩
      refine ho.answered hwork.count hwriting hpending ?_ ?_
      · intro p refusal before hsuf
        have hans := (hwork.orderly (ho.opened hm)).answers p refusal before
          (answered_suffix_append [.closed q.bucket] (by simp) hsuf)
        rwa [hwork.count] at hans
      · intro _ _ _
        have hfree : q.bucket ∉ w.store.writing := (Store.open_of_objection hm hdoor).2
        exact ⟨fun ⟨rule, hrule⟩ => absurd hrule (hwhy rule), fun htaken => absurd htaken hfree⟩
    · rename_i hm
      rw [Bool.not_eq_true] at hm
      refine ⟨hinside.count, hinside.writing, congrArg List.tail hinside.stack, fun ho => ?_⟩
      refine ho.answered hinside.count hinside.writing hinside.stack ?_ ?_
      · intro p refusal before hsuf
        have hans := (hinside.orderly (ho.called hm)).answers p refusal before hsuf
        rwa [hinside.count] at hans
      · intro hm'
        rw [hm] at hm'
        cases hm'

theorem perform_oneWriter (env : Collaborators σ) (depth : Nat) :
    (perform env depth).Keeps OneWriter :=
  perform_keeps (fun _ => attend_oneWriter) depth

theorem Reached.orderly (h : Reached env w) : Orderly w := by
  obtain ⟨c, walk, s, own, hc, hone⟩ := h.since OneWriter.chatty (perform_oneWriter env)
  exact hone.orderly ⟨Store.writing_of_ofConfig hc, fun _ _ _ hs => by cases List.suffix_nil.1 hs⟩

/-- Who is turned away for a bucket finds it taken. -/
theorem perform_violated {depth : Nat} {q : Request} {reply : q.Reply} {rule : BrokenRule}
    (h : (perform env depth q).run w = some (reply, w'))
    (hr : refusalOf reply = some (.preconditionViolated rule)) : q.bucket ∈ w.store.writing := by
  cases depth with
  | zero => cases h
  | succ depth =>
    obtain ⟨w₁, hc, rfl⟩ := attend_course h
    have hs := perform_oneWriter env depth
    rcases course_inside OneWriter.chatty OneWriter.ownWork hs hc
      (fun _ _ => OneWriter.release) with ⟨why, hdoor, hwhy, rfl⟩ | ⟨hdoor, hwhy, -⟩
    · rw [hwhy] at hr
      cases hr
      exact Store.taken_of_objection hdoor
    · exact absurd hr (hwhy rule)

end

/-! ## Work beside other writers -/

/-- Nobody looks who is writing, and no change is asked of the buckets of `l`. -/
def Dialogue.Avoids (l : List Nat) : Dialogue σ α → Prop
  | done _ => True
  | look next => ∀ store own, (next store own).Avoids l ∧
      ∀ writing, next { store with writing } own = next store own
  | keep _ next => next.Avoids l
  | ask q next => (q.isMutation = true → q.bucket ∉ l) ∧ ∀ reply, (next reply).Avoids l

/-- The collaborators have nothing to do with the buckets of `l`. -/
structure Collaborators.Avoid (env : Collaborators σ) (l : List Nat) : Prop where
  release : ∀ id, (env.release id).Avoids l
  fetch : ∀ id, (env.fetch id).Avoids l
  announce : ∀ instant client, (env.announce instant client).Avoids l

section

variable {lax : Prop} {n : Nat} {l m : List Nat} {serve serve' : Server σ} {env : Collaborators σ}

theorem Dialogue.Avoids.paced {d : Dialogue σ α} (h : d.Avoids l)
    (hs : ∀ q : Request, (q.isMutation = true → q.bucket ∉ l) →
      Paced lax (Abreast n (m ++ l) m) (serve q) (serve' q)) :
    Paced lax (Abreast n (m ++ l) m) (d.run serve) (d.run serve') := by
  induction d with
  | done a => exact Paced.pure a
  | look next ih =>
    apply Paced.look
    intro v v' hv
    obtain ⟨havoids, hblind⟩ := h v.store v.outside
    have hnext : next v'.store v'.outside = next v.store v.outside := by
      rw [hv.store, hv.outside]
      exact hblind m
    rw [hnext]
    exact ih _ _ havoids
  | keep own next ih =>
    exact (Paced.modify fun _ _ hv => hv.keep own).bind fun _ => ih h
  | ask q next ih => exact (hs q h.1).bind fun reply => ih reply (h.2 reply)

theorem Request.during_append (q : Request) (m l : List Nat) :
    q.during (m ++ l) = q.during m ++ l := by
  unfold Request.during
  split
  · rfl
  · rfl

/-- A request that has nothing to do with the buckets of `l` comes to the same whether these
are being written or not. -/
theorem perform_avoiding (h : env.Avoid l) (depth : Nat) (m : List Nat) (q : Request)
    (hq : q.isMutation = true → q.bucket ∉ l) :
    Paced True (Abreast n (m ++ l) m) (perform env depth q) (perform env depth q) := by
  induction depth generalizing m q with
  | zero => exact fun _ _ _ => .inl ⟨trivial, rfl⟩
  | succ depth ih =>
    apply attend_paced
    · intro hm
      simp [hq hm]
    · rfl
    · rw [Request.during_append]
      exact fun _ => .of_runs (fun id => (h.release id).paced (ih _))
        (fun id => (h.fetch id).paced (ih _))
        (fun instant client => (h.announce instant client).paced (ih _)) rfl

theorem perform_beside {w w' : World σ} {depth : Nat} {q : Request} {reply : q.Reply}
    (h : env.Avoid w.store.writing) (hq : q.isMutation = true → q.bucket ∉ w.store.writing)
    (hr : (perform env depth q).run w = some (reply, w')) :
    ∃ v, (perform env depth q).run { w with store := { w.store with writing := [] } } =
        some (reply, v) ∧
      v.store = { w'.store with writing := [] } ∧ v.outside = w'.outside := by
  have hw : Abreast w.store.bucketCount ([] ++ w.store.writing) [] w
      { w with store := { w.store with writing := [] } } := ⟨rfl, rfl, rfl, rfl⟩
  rcases perform_avoiding h depth [] q hq _ _ hw with ⟨-, hnone⟩ | ⟨reply', u, v, hu, hv, huv⟩
  · rw [hr] at hnone
    cases hnone
  · rw [hr] at hu
    cases hu
    exact ⟨v, hv, huv.store, huv.outside⟩

end

/-! ## Attempts on buckets that are taken -/

/-- A change is asked of a bucket that is being written. -/
def knocking (w : World σ) (q : Request) (_ : Option Refusal) : Bool :=
  q.isMutation && q.bucket ∈ w.store.writing

/-- The calm collaborators do what the others do if each of their requests is turned away,
without asking. -/
structure Collaborators.Calms (calm env : Collaborators σ) : Prop where
  passive : calm.Passive
  now : calm.now = env.now
  release : ∀ id s own, (calm.release id).rebuffed s own = (env.release id).rebuffed s own
  fetch : ∀ id s own, (calm.fetch id).rebuffed s own = (env.fetch id).rebuffed s own
  announce : ∀ instant client s own,
    (calm.announce instant client).rebuffed s own = (env.announce instant client).rebuffed s own

section

variable {n : Nat} {l : List Nat} {env calm : Collaborators σ} {w w' : World σ}

/-- Who knocks is turned away, and the world takes a note of it. -/
theorem knocking_some {depth : Nat} {q : Request} {reply : q.Reply}
    (h : (((perform env depth).only knocking) q).run w = some (reply, w')) :
    ∃ why, w.store.objection q = some why ∧ reply = .error why ∧
      w' = (w.note (.called q)).note (.answered q (some why)) := by
  obtain ⟨hr, hknock⟩ := Server.only_some.1 h
  obtain ⟨hm, htaken⟩ : q.isMutation = true ∧ q.bucket ∈ w.store.writing := by
    simpa [knocking] using hknock
  cases depth with
  | zero => cases hr
  | succ depth =>
    cases hdoor : w.store.objection q with
    | none => exact absurd htaken (Store.open_of_objection hm hdoor).2
    | some why =>
      rw [perform_turnedAway hdoor] at hr
      cases hr
      exact ⟨why, rfl, rfl, rfl⟩

/-- A conversation in which somebody only knocks comes to what it comes to when each of its
requests is turned away. -/
theorem run_knocking {depth : Nat} {d : Dialogue σ α} {a : α}
    (h : (d.run ((perform env depth).only knocking)).run w = some (a, w')) :
    (a, w'.outside) = d.rebuffed w.store w.outside ∧ w'.store = w.store := by
  induction d generalizing w with
  | done value =>
    obtain ⟨rfl, rfl⟩ := Act.pure_some.1 h
    exact ⟨rfl, rfl⟩
  | look next ih =>
    obtain ⟨_, _, ⟨rfl, rfl⟩, h⟩ := Act.bind_some.1 h
    exact ih _ _ h
  | keep own next ih =>
    obtain ⟨_, _, hv, h⟩ := Act.bind_some.1 h
    obtain rfl := Act.modify_some.1 hv
    exact ih h
  | ask q next ih =>
    obtain ⟨reply, v, hq, h⟩ := Act.bind_some.1 h
    obtain ⟨why, hdoor, rfl, rfl⟩ := knocking_some hq
    obtain ⟨hrebuffed, hstore⟩ := ih _ h
    refine ⟨?_, hstore⟩
    rw [hrebuffed]
    simp [Dialogue.rebuffed, hdoor]

/-- Where somebody only knocks, it makes no difference how deep requests may nest. -/
theorem knocking_paced (depth : Nat) (d : Dialogue σ α) :
    Paced True (Abreast n l l) (d.run ((perform env depth).only knocking))
      (d.run (perform env depth)) := by
  refine Dialogue.run_paced (fun q w w' hw => ?_) d
  cases hr : ((perform env depth).only knocking q).run w with
  | none => exact .inl ⟨trivial, rfl⟩
  | some out =>
    obtain ⟨reply, v⟩ := out
    obtain ⟨why, hdoor, rfl, rfl⟩ := knocking_some hr
    cases depth with
    | zero => cases (Server.only_some.1 hr).1
    | succ depth =>
      have hdoor' : w'.store.objection q = some why := by rw [hw.store_eq, hdoor]
      exact .inr ⟨_, _, _, hr, perform_turnedAway hdoor' depth, (hw.note _ _).note _ _⟩

theorem calm_paced {d d' : Dialogue σ α} (hsilent : d'.Silent)
    (same : ∀ s own, d'.rebuffed s own = d.rebuffed s own) (depth : Nat) (serve : Server σ) :
    Paced True (Abreast n l l) (d.run ((perform env depth).only knocking)) (d'.run serve) := by
  intro w w' hw
  cases hr : (d.run ((perform env depth).only knocking)).run w with
  | none => exact .inl ⟨trivial, rfl⟩
  | some out =>
    obtain ⟨a, v⟩ := out
    obtain ⟨hrebuffed, hstore⟩ := run_knocking hr
    have hsame : d'.rebuffed w'.store w'.outside = (a, v.outside) := by
      rw [same, hw.store_eq, hw.outside, hrebuffed]
    have hrun := hsilent.run serve w'
    rw [hsame] at hrun
    exact .inr ⟨a, v, _, hr, hrun,
      .of_eq (by rw [hstore, hw.count]) (by rw [hstore, hw.writing]) (by rw [hstore, hw.store_eq])
        rfl⟩

/-- If the collaborators only knock at buckets that are being written, a request comes to
the same as with those who do not even knock. -/
theorem perform_knocking (hcalm : calm.Calms env) {depth : Nat} {q : Request} {reply : q.Reply}
    (h : (attend env ((perform env depth).only knocking) q).run w = some (reply, w'))
    (depth' : Nat) :
    ∃ v v', (perform env (depth + 1) q).run w = some (reply, v) ∧
      (perform calm (depth' + 1) q).run w = some (reply, v') ∧
      v'.store = v.store ∧ v'.outside = v.outside := by
  have hsame : Paced True (Abreast w.store.bucketCount w.store.writing w.store.writing)
      (attend env ((perform env depth).only knocking) q) (attend env (perform env depth) q) :=
    attend_paced (fun _ => Iff.rfl) rfl fun _ => .of_runs (fun _ => knocking_paced depth _)
      (fun _ => knocking_paced depth _) (fun _ _ => knocking_paced depth _) rfl
  have hquiet : Paced True (Abreast w.store.bucketCount w.store.writing w.store.writing)
      (attend env ((perform env depth).only knocking) q) (attend calm (perform calm depth') q) :=
    attend_paced (fun _ => Iff.rfl) hcalm.now fun _ =>
      .of_runs (fun id => calm_paced (hcalm.passive.release id) (hcalm.release id) depth _)
        (fun id => calm_paced (hcalm.passive.fetch id) (hcalm.fetch id) depth _)
        (fun instant client => calm_paced (hcalm.passive.announce instant client)
          (hcalm.announce instant client) depth _) hcalm.now
  rcases hsame w w (Abreast.refl w) with ⟨-, hnone⟩ | ⟨_, u, v, hu, hv, huv⟩
  · rw [h] at hnone
    cases hnone
  · rw [h] at hu
    cases hu
    rcases hquiet w w (Abreast.refl w) with ⟨-, hnone⟩ | ⟨_, u', v', hu', hv', huv'⟩
    · rw [h] at hnone
      cases hnone
    · rw [h] at hu'
      cases hu'
      exact ⟨v, v', hv, hv', by rw [huv.store_eq, huv'.store_eq], by rw [huv.outside, huv'.outside]⟩

end

/-! ## The rule of one writer -/

/-- A change with good arguments is turned away for its bucket exactly if it comes in while
another change of that bucket is unfinished, at whatever depth. Elsewhere it does its work
as if nobody else was writing, and whatever comes of it, it leaves those who write as they
were. Attempts on taken buckets are as good as none, and where nobody attempts anything,
every request is answered. -/
theorem one_writer_at_a_time (env : Collaborators σ) :
    (∀ w : World σ, Reached env w → w.store.writing = [] ∧
      ∀ q refusal before, .answered q refusal :: before <:+ w.journal →
        Obeys w.store.bucketCount before q refusal) ∧
    (∀ (w : World σ) (depth : Nat) (q : Request), q.isMutation = true → q.isSane = true →
      q.bucket < w.store.bucketCount → q.bucket ∈ w.store.writing →
        ∃ w', (perform env (depth + 1) q).run w =
          some (.error (.preconditionViolated (.alreadyWriting q.bucket)), w') ∧
            Untouched w w') ∧
    (∀ (w w' : World σ) (depth : Nat) (q : Request) (reply : q.Reply),
      (perform env depth q).run w = some (reply, w') →
        w'.store.writing = w.store.writing ∧
        (q.bucket ∉ w.store.writing →
          (∀ rule, refusalOf reply ≠ some (.preconditionViolated rule)) ∧
          (env.Avoid w.store.writing →
            ∃ v, (perform env depth q).run { w with store := { w.store with writing := [] } } =
                some (reply, v) ∧
              v.store = { w'.store with writing := [] } ∧ v.outside = w'.outside))) ∧
    (∀ (calm : Collaborators σ) (w w' : World σ) (depth depth' : Nat) (q : Request)
      (reply : q.Reply), calm.Calms env →
        (attend env ((perform env depth).only knocking) q).run w = some (reply, w') →
          ∃ v v', (perform env (depth + 1) q).run w = some (reply, v) ∧
            (perform calm (depth' + 1) q).run w = some (reply, v') ∧
              v'.store = v.store ∧ v'.outside = v.outside) ∧
    (env.Passive → ∀ (w : World σ) (depth : Nat) (q : Request),
      ∃ reply w', (perform env (depth + 1) q).run w = some (reply, w')) := by
  refine ⟨fun w h => ⟨h.writing, h.orderly.answers⟩, ?_, ?_, ?_, ?_⟩
  · intro w depth q hm hsane hlt htaken
    have hdoor : w.store.objection q =
        some (.preconditionViolated (.alreadyWriting q.bucket)) := by
      rw [Store.objection_eq_barrier hm hsane, Store.barrier, if_pos hlt, if_pos htaken]
    exact ⟨_, perform_turnedAway hdoor depth, .of_refused (.inl rfl)⟩
  · intro w w' depth q reply h
    refine ⟨(perform_oneWriter env depth q w reply w' h).writing, fun hfree => ⟨?_, ?_⟩⟩
    · exact fun rule hrule => hfree (perform_violated h hrule)
    · exact fun havoid => perform_beside havoid (fun _ => hfree) h
  · exact fun calm w w' depth depth' q reply hcalm h => perform_knocking hcalm h depth'
  · intro hpassive w depth q
    obtain ⟨reply, w₁, -, hr⟩ := hpassive.perform_runs depth q w
    exact ⟨reply, _, hr⟩

/-- A client with a will comes and is forgotten. -/
def shortStay : Dialogue Timestamp Unit := do
  let will : Will := { publication := { topic := "" }, payloadId := 1 }
  let _ ← Dialogue.request (.put "c" { connected := true, expiry := 0, will } ⟨2⟩ 1)
  let _ ← Dialogue.request (.remove "c" 1)

/-- A client is forgotten, and the payload store wants to forget another client of the same
bucket meanwhile. -/
theorem one_writer_at_a_time_shortStay :
    (∃ w before, Reached .meddling w ∧
      Obeys w.store.bucketCount before (.remove "b" 1)
        (some (.preconditionViolated (.alreadyWriting 1)))) ∧
    ∃ w : World Timestamp, w.store.writing = [0] ∧
      (∃ w', (perform .meddling 1 (.remove "a" 0)).run w =
        some (.error (.preconditionViolated (.alreadyWriting 0)), w') ∧ Untouched w w') ∧
      (∃ w' reply v, (perform .meddling 2 (.remove "c" 1)).run w = some (reply, w') ∧
        (perform .meddling 2 (.remove "c" 1)).run
          { w with store := { w.store with writing := [] } } = some (reply, v) ∧
        v.store = { w'.store with writing := [] }) ∧
      ∃ calm : Collaborators Timestamp, calm.Calms .meddling ∧
        ∃ reply v v', (perform .meddling 2 (.remove "c" 1)).run w = some (reply, v) ∧
          (perform calm 1 (.remove "c" 1)).run w = some (reply, v') ∧ v'.store = v.store ∧
            ∃ reply' u, (perform calm 1 (.remove "d" 1)).run w = some (reply', u) := by
  constructor
  · have hend : ((converse .meddling 2 shortStay).run
        { store := { defaultExpiry := 9, buckets := Array.replicate 2 ∅ }, outside := ⟨0⟩ }).map
          (fun (_, w) => decide (Mark.answered (.remove "b" 1)
            (some (.preconditionViolated (.alreadyWriting 1))) ∈ w.journal)) = some true := by
      decide +kernel
    obtain ⟨⟨_, w⟩, hrun, hmem⟩ := Option.map_eq_some_iff.1 hend
    obtain ⟨since, before, hjournal⟩ := List.append_of_mem (of_decide_eq_true hmem)
    have hreached : Reached .meddling w :=
      .conversed (.start ⟨0⟩ (c := { bucketCount := 2, defaultExpiry := 9 }) rfl) hrun
    exact ⟨w, before, hreached, ((one_writer_at_a_time .meddling).1 w hreached).2 _ _ before
      ⟨since, hjournal.symm⟩⟩
  · let will : Will := { publication := { topic := "" }, payloadId := 1 }
    let r : Record := { object := { connected := true, expiry := 0, will }, stamp := ⟨2⟩ }
    let w : World Timestamp :=
      { store := { defaultExpiry := 9, buckets := #[∅, (∅ : Bucket).insert "c" r], writing := [0] },
        outside := ⟨0⟩ }
    let calm : Collaborators Timestamp :=
      { release := fun _ => pure (), fetch := fun _ => pure none, announce := fun _ _ => pure (),
        now := fun clock => clock }
    have hcalm : calm.Calms .meddling :=
      ⟨⟨fun _ => trivial, fun _ => trivial, fun _ _ => trivial⟩, rfl, fun _ _ _ => rfl,
        fun _ _ _ => rfl, fun _ _ _ _ => rfl⟩
    have havoid : Collaborators.meddling.Avoid [0] :=
      ⟨fun _ => ⟨fun _ => by decide, fun _ => trivial⟩, fun _ => trivial, fun _ _ => trivial⟩
    have hsome : ((perform .meddling 2 (.remove "c" 1)).run w).isSome = true := by decide +kernel
    have hknock : ((attend .meddling ((perform .meddling 1).only knocking)
        (.remove "c" 1)).run w).isSome = true := by decide +kernel
    obtain ⟨⟨reply, w'⟩, hrun⟩ := Option.isSome_iff_exists.1 hsome
    obtain ⟨⟨reply', w''⟩, hrun'⟩ := Option.isSome_iff_exists.1 hknock
    obtain ⟨-, hother⟩ := (one_writer_at_a_time .meddling).2.2.1 w w' 2 _ reply hrun
    obtain ⟨v, hv, hstore, -⟩ := (hother (by decide)).2 havoid
    obtain ⟨u, u', hu, hu', hsame, -⟩ :=
      (one_writer_at_a_time .meddling).2.2.2.1 calm w w'' 1 0 _ reply' hcalm hrun'
    have hanswered := (one_writer_at_a_time calm).2.2.2.2 hcalm.passive w 0 (.remove "d" 1)
    exact ⟨w, rfl,
      (one_writer_at_a_time .meddling).2.1 w 0 (.remove "a" 0) rfl rfl (by decide) (by decide),
      ⟨w', reply, v, hrun, hv, hstore⟩, calm, hcalm, reply', u, u', hu, hu', hsame,
      hanswered⟩

end BrokerSessions
