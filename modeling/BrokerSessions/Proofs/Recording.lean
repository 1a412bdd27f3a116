-- The calls that the collaborators receive. The journal has a mark beside each of them, and the
-- laws about wills and endings speak of the marks. Here somebody stands in front of the
-- collaborators, writes down every call as it comes in, and passes it on. The store cannot tell,
-- and what was written down is what the journal says.
import BrokerSessions.Proofs.Pacing
import BrokerSessions.Proofs.Runs

namespace BrokerSessions

variable {σ α : Type} {lax : Prop}

/-! ## Calls and those who write them down -/

/-- A call to a collaborator. -/
inductive Call where
  | release (id : PayloadId)
  | fetch (id : PayloadId)
  | announce (instant : Timestamp) (client : ClientId)
deriving DecidableEq

/-- The mark that stands in the journal for a call. -/
def Call.mark : Call → Mark
  | release id => .released id
  | fetch id => .fetched id
  | announce instant client => .announced instant client

/-- The call that a mark stands for, if it stands for one. -/
def Mark.call? : Mark → Option Call
  | released id => some (.release id)
  | fetched id => some (.fetch id)
  | announced instant client => some (.announce instant client)
  | _ => none

theorem Mark.call?_eq_some_iff {m : Mark} {c : Call} : m.call? = some c ↔ m = c.mark := by
  cases m <;> cases c <;> simp [call?, Call.mark]

/-- The calls that a journal tells of, the latest first. -/
def calls (marks : List Mark) : List Call := marks.filterMap Mark.call?

theorem calls_cons (m : Mark) (rest : List Mark) :
    calls (m :: rest) = m.call?.toList ++ calls rest := by
  unfold calls
  cases hc : m.call? with
  | none => rw [List.filterMap_cons_none hc]; rfl
  | some c => rw [List.filterMap_cons_some hc]; rfl

/-- A call was made as often as its mark stands in the journal. -/
theorem count_calls (c : Call) (marks : List Mark) :
    (calls marks).count c = marks.count c.mark := by
  induction marks with
  | nil => rfl
  | cons m rest ih =>
    rw [calls_cons, List.count_append, ih]
    by_cases hm : m = c.mark
    · rw [hm, Mark.call?_eq_some_iff.2 rfl, List.count_cons_self]
      simp [Nat.add_comm]
    · have hother : m.call?.toList.count c = 0 := by
        rw [List.count_eq_zero]
        simpa [Mark.call?_eq_some_iff] using hm
      rw [hother, List.count_cons_of_ne hm, zero_add]

/-- The same conversation, of somebody who has something else with him and leaves it alone. -/
def Dialogue.lift {κ : Type} : Dialogue σ α → Dialogue (σ × κ) α
  | done a => done a
  | look next => look fun store own => (next store own.1).lift
  | keep own next => look fun _ whole => keep (own, whole.2) next.lift
  | ask q next => ask q fun reply => (next reply).lift

/-- A call is written down before it is answered. -/
def Dialogue.recorded (c : Call) (d : Dialogue σ α) : Dialogue (σ × List Call) α := do
  change fun own => (own.1, c :: own.2)
  d.lift

/-- The collaborators, and a list of all calls that they received, the latest first. -/
def Collaborators.recording (env : Collaborators σ) : Collaborators (σ × List Call) where
  release id := (env.release id).recorded (.release id)
  fetch id := (env.fetch id).recorded (.fetch id)
  announce instant client := (env.announce instant client).recorded (.announce instant client)
  now own := env.now own.1

/-- A world in which all calls were written down. -/
def World.recorded (w : World σ) : World (σ × List Call) where
  store := w.store
  outside := (w.outside, calls w.journal)
  journal := w.journal

/-! ## Runs with and without a record -/

/-- The second world is the first one with its record. -/
def Recorded (w : World σ) (w' : World (σ × List Call)) : Prop := w' = w.recorded

namespace Recorded

/-- A mark that stands for no call needs no record. -/
theorem note {w : World σ} {w' : World (σ × List Call)} (h : Recorded w w') {m : Mark}
    (hm : m.call? = none) : Recorded (w.note m) (w'.note m) := by
  cases h
  unfold Recorded World.recorded
  rw [World.journal_note, calls_cons, hm]
  rfl

theorem attuned : Attuned (Recorded (σ := σ)) where
  defaultExpiry h := by rw [h]; rfl
  lowerMemory h n := by rw [h]; rfl
  raiseMemory h n := by rw [h]; rfl
  recount h before after := by rw [h]; cases before <;> cases after <;> rfl
  dangled h ids := by
    rw [h]
    have hquiet : calls (ids.map Mark.dangled) = [] := by simp [calls, Mark.call?]
    unfold Recorded World.recorded calls
    rw [List.filterMap_append, ← calls, ← calls, hquiet, List.nil_append]

theorem alongside (bucket : Nat) (client : ClientId) :
    Alongside (Recorded (σ := σ)) bucket bucket client where
  known h := by rw [h]; rfl
  file h r := by rw [h]; rfl
  erase h := by rw [h]; rfl
  forgotten h r := h.note rfl

theorem door (bucket : Nat) : Door (Recorded (σ := σ)) Recorded bucket bucket where
  barrier h := by rw [h]; rfl
  enter h := by rw [h]; rfl
  leave h := by rw [h]; rfl

end Recorded

section

variable {env : Collaborators σ} {serve : Server σ} {serve' : Server (σ × List Call)}
  (hs : ∀ q, Paced lax Recorded (serve q) (serve' q))

include hs

theorem Dialogue.lift_paced (d : Dialogue σ α) :
    Paced lax Recorded (d.run serve) (d.lift.run serve') := by
  induction d with
  | done a => exact Paced.pure a
  | look next ih =>
    apply Paced.look
    rintro v _ rfl
    exact ih v.store v.outside
  | keep own next ih =>
    rintro w _ rfl
    exact ih { w with outside := own } _ rfl
  | ask q next ih => exact (hs q).bind fun reply => ih reply

/-- The mark comes into the journal, and the call onto the list. -/
theorem Dialogue.recorded_paced (c : Call) (d : Dialogue σ α) :
    Paced lax Recorded (do modify fun w => w.note c.mark; d.run serve)
      (do modify fun w => w.note c.mark; (d.recorded c).run serve') := by
  rintro w _ rfl
  have hcall : (w.note c.mark).recorded =
      { w.recorded.note c.mark with outside := (w.outside, c :: calls w.journal) } := by
    cases c <;> rfl
  have hnext := d.lift_paced hs (w.note c.mark) _ rfl
  rw [hcall] at hnext
  exact hnext

theorem Recorded.company : Company lax Recorded env env.recording serve serve' where
  release s := by
    unfold Operation.release
    cases s.payloadId? with
    | none => exact Paced.pure ()
    | some id => exact (env.release id).recorded_paced hs (.release id)
  fetch id := (env.fetch id).recorded_paced hs (.fetch id)
  announce instant client :=
    (env.announce instant client).recorded_paced hs (.announce instant client)
  now h := by rw [h]; rfl

theorem attend_recorded (q : Request) :
    Paced lax Recorded (attend env serve q) (attend env.recording serve' q) := by
  rw [attend_eq, attend_eq]
  refine noted_paced (fun h => h.note rfl) (fun h _ => h.note rfl) ?_
  refine carryOut_paced (fun _ => Recorded.door q.bucket) (fun _ => rfl) (fun h => ?_)
    Recorded.attuned (Recorded.alongside q.bucket) (fun h => ?_) (fun _ => Recorded.company hs)
  · exact ⟨_, by rw [h]; rfl⟩
  · rw [h]
    rfl

end

theorem perform_recorded (env : Collaborators σ) (depth : Nat) (q : Request) :
    Paced True Recorded (perform env depth q) (perform env.recording depth q) := by
  induction depth generalizing q with
  | zero => exact fun _ _ _ => .inl ⟨trivial, rfl⟩
  | succ depth ih => exact attend_recorded ih q

/-- Whatever takes place takes the same course when the calls are written down, and all that is
written down afterwards are the calls that the journal tells of. -/
theorem converse_recorded {env : Collaborators σ} {depth : Nat} {d : Dialogue σ α} {a : α}
    {w w' : World σ} (h : (converse env depth d).run w = some (a, w')) :
    (converse env.recording depth d.lift).run w.recorded = some (a, w'.recorded) := by
  rcases d.lift_paced (perform_recorded env depth) w _ rfl with
    ⟨-, hnone⟩ | ⟨b, v, v', hb, hb', hv⟩
  · rw [converse, hnone] at h
    cases h
  · obtain ⟨rfl, rfl⟩ := Prod.mk.inj (Option.some.inj (hb.symm.trans h))
    rw [← hv]
    exact hb'

/-- Every run is a run with a record, and at its end the record is what the journal tells. -/
theorem Reached.recorded {env : Collaborators σ} {w : World σ} (h : Reached env w) :
    Reached env.recording w.recorded := by
  induction h with
  | start own h => exact .start (own, []) h
  | conversed before h ih => exact .conversed ih (converse_recorded h)

/-- So each mark of a call in the journal of a run is a call that was received, and each call that
was received has its mark. -/
theorem Reached.called {env : Collaborators σ} {w : World σ} (h : Reached env w) :
    ∃ v, Reached env.recording v ∧ v.store = w.store ∧ v.journal = w.journal ∧
      v.outside.1 = w.outside ∧ ∀ c : Call, v.outside.2.count c = w.journal.count c.mark :=
  ⟨w.recorded, h.recorded, rfl, rfl, rfl, fun c => count_calls c w.journal⟩

end BrokerSessions
