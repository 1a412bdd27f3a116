-- Collaborators that never talk back. Their calls come to an end, change nothing but what
-- is their own, and do the same whoever would answer them. So a request of theirs is
-- attended to in the same way however deep requests may nest.
import BrokerSessions.Backdrop
import BrokerSessions.Proofs.Meanwhile

namespace BrokerSessions

variable {σ α β : Type}

/-! ## Conversations in which nothing is asked -/

namespace Dialogue

/-- Nothing is asked. -/
def Silent : Dialogue σ α → Prop
  | done _ => True
  | look next => ∀ store own, (next store own).Silent
  | keep _ next => next.Silent
  | ask _ _ => False

/-- What a conversation comes to, with its own state after it, when each of its requests is
turned away. Where a store has nothing to object, the bucket counts as taken. -/
def rebuffed (s : Store) : Dialogue σ α → σ → α × σ
  | done a, own => (a, own)
  | look next, own => (next s own).rebuffed s own
  | keep own next, _ => next.rebuffed s own
  | ask q next, own =>
    (next (.error ((s.objection q).getD
      (.preconditionViolated (.alreadyWriting q.bucket))))).rebuffed s own

/-- A silent conversation ends, and only its own state is another one. -/
theorem Silent.run {d : Dialogue σ α} (h : d.Silent) (serve : Server σ) (w : World σ) :
    (d.run serve).run w =
      some ((d.rebuffed w.store w.outside).1,
        { w with outside := (d.rebuffed w.store w.outside).2 }) := by
  induction d generalizing w with
  | done a => rfl
  | look next ih =>
    refine Act.bind_some.2 ⟨w, w, Act.get_some.2 ⟨rfl, rfl⟩, ?_⟩
    exact ih w.store w.outside (h w.store w.outside) w
  | keep own next ih =>
    refine Act.bind_some.2 ⟨⟨⟩, _, Act.modify_some.2 rfl, ?_⟩
    exact ih h { w with outside := own }
  | ask q next => exact absurd h id

theorem Silent.run_eq {d : Dialogue σ α} (h : d.Silent) (serve serve' : Server σ) :
    d.run serve = d.run serve' := by
  funext w
  exact (h.run serve w).trans (h.run serve' w).symm

/-- Only what is outside may be different afterwards. -/
theorem Silent.run_some {d : Dialogue σ α} (h : d.Silent) {serve : Server σ} {a : α}
    {w w' : World σ} (hr : (d.run serve).run w = some (a, w')) :
    w' = { w with outside := w'.outside } := by
  rw [h.run] at hr
  cases hr
  rfl

theorem Silent.bind {d : Dialogue σ α} {f : α → Dialogue σ β} (h : d.Silent)
    (hf : ∀ a, (f a).Silent) : (d >>= f).Silent := by
  change (d.bind f).Silent
  induction d with
  | done a => exact hf a
  | look next ih => exact fun store own => ih store own (h store own)
  | keep own next ih => exact ih h
  | ask q next => exact absurd h id

theorem silent_pure (a : α) : (pure a : Dialogue σ α).Silent := trivial

theorem silent_own : (own : Dialogue σ σ).Silent := fun _ _ => trivial

theorem silent_change (f : σ → σ) : (change f).Silent := fun _ _ => trivial

end Dialogue

/-! ## Collaborators that never ask -/

/-- Where nobody answers, everything is kept. -/
theorem perform_zero_keeps (env : Collaborators σ) (R : World σ → World σ → Prop) :
    (perform env 0).Keeps R := by
  intro q w reply w' h
  cases h

/-- No collaborator asks the store for anything. -/
structure Collaborators.Passive (env : Collaborators σ) : Prop where
  release : ∀ id, (env.release id).Silent
  fetch : ∀ id, (env.fetch id).Silent
  announce : ∀ instant client, (env.announce instant client).Silent

theorem Collaborators.passive_quiet : Collaborators.quiet.Passive where
  release _ := Dialogue.silent_change _
  fetch _ := Dialogue.silent_own.bind fun _ => Dialogue.silent_pure _
  announce _ _ := Dialogue.silent_change _

namespace Collaborators.Passive

open Operation

variable {env : Collaborators σ} (h : env.Passive)

include h

theorem release_eq (serve serve' : Server σ) :
    Operation.release env serve = Operation.release env serve' := by
  funext s
  unfold Operation.release
  cases s.payloadId? with
  | none => rfl
  | some id => simp only [(h.release id).run_eq serve serve']

theorem fetch_eq (serve serve' : Server σ) :
    Operation.fetch env serve = Operation.fetch env serve' := by
  funext id
  simp only [Operation.fetch, (h.fetch id).run_eq serve serve']

theorem announce_eq (serve serve' : Server σ) :
    Operation.announce env serve = Operation.announce env serve' := by
  funext instant client
  simp only [Operation.announce, (h.announce instant client).run_eq serve serve']

/-- It makes no difference who would answer collaborators that never ask. -/
theorem carryOut_eq (serve serve' : Server σ) : carryOut env serve = carryOut env serve' := by
  funext q
  have hr := h.release_eq serve serve'
  have hf := h.fetch_eq serve serve'
  have ha := h.announce_eq serve serve'
  cases q with
  | put =>
    unfold carryOut put replace
    rw [hr]
  | disconnect =>
    unfold carryOut disconnect fileDisconnect fileKnown willOrNone dropDangling attachPayload
    rw [hr, hf]
  | remove =>
    unfold carryOut remove forget
    rw [hr]
  | purge =>
    unfold carryOut purge dismiss
    rw [hr, ha]
  | setExpiry => rfl
  | cancelWill =>
    unfold carryOut cancelWill
    rw [hr]
  | find =>
    unfold carryOut find attachPayload
    rw [hf]

/-- Nobody nests requests, so one level is as good as many. -/
theorem perform_eq (depth : Nat) : perform env (depth + 1) = perform env 1 := by
  funext q
  simp only [perform, attend, h.carryOut_eq (perform env depth) (perform env 0)]

/-- Each request takes its course as if nobody ever answered a collaborator. -/
theorem perform_course {depth : Nat} {q : Request} {reply : q.Reply} {w w' : World σ}
    (hr : (perform env depth q).run w = some (reply, w')) :
    ∃ w₁, Course env (perform env 0) q (w.note (.called q)) reply w₁ ∧
      w' = w₁.note (.answered q (refusalOf reply)) := by
  cases depth with
  | zero => cases hr
  | succ depth =>
    rw [h.perform_eq] at hr
    exact attend_course hr

end Collaborators.Passive

end BrokerSessions
