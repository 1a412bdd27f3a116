-- One request, carried out twice, side by side and in different company. The worlds hold
-- the same, but other buckets may be written meanwhile, and others may answer the
-- collaborators. As long as the calls to the collaborators come to the same, so does the
-- whole request.
import BrokerSessions.Proofs.Pacing
import BrokerSessions.Proofs.Passive
import BrokerSessions.Proofs.Refusals

namespace BrokerSessions

variable {σ α β : Type} {lax : Prop}

/-! ## Worlds that hold the same -/

/-- Both worlds hold the same, in `n` buckets, and the same is outside. Those of `l` are being
written in the first one, and those of `l'` in the second one. The journals may differ. -/
structure Abreast (n : Nat) (l l' : List Nat) (w w' : World σ) : Prop where
  count : w.store.bucketCount = n
  writing : w.store.writing = l
  store : w'.store = { w.store with writing := l' }
  outside : w'.outside = w.outside

namespace Abreast

variable {n : Nat} {l l' : List Nat} {w w' : World σ}

theorem refl (w : World σ) :
    Abreast w.store.bucketCount w.store.writing w.store.writing w w := ⟨rfl, rfl, rfl, rfl⟩

theorem store_eq (h : Abreast n l l w w') : w'.store = w.store := by
  rw [h.store, ← h.writing]

theorem of_eq (hcount : w.store.bucketCount = n) (hwriting : w.store.writing = l)
    (hstore : w'.store = w.store) (houtside : w'.outside = w.outside) : Abreast n l l w w' := by
  subst hwriting
  exact ⟨hcount, rfl, hstore, houtside⟩

theorem note (h : Abreast n l l' w w') (m m' : Mark) : Abreast n l l' (w.note m) (w'.note m') :=
  { h with }

/-- Both change what is their own in the same way. -/
theorem keep (h : Abreast n l l' w w') (own : σ) :
    Abreast n l l' { w with outside := own } { w' with outside := own } :=
  { h with outside := rfl }

theorem recount (h : Abreast n l l' w w') (before after : Bool) :
    Abreast n l l' (w.recount before after) (w'.recount before after) := by
  cases before <;> cases after
  · exact h
  · exact { h with store := by simp [World.recount, World.note, h.store] }
  · exact { h with store := by simp [World.recount, World.note, h.store] }
  · exact h

theorem attuned : Attuned (Abreast (σ := σ) n l l') where
  defaultExpiry h := by rw [h.store]
  lowerMemory h x := { h with store := by simp [World.lowerMemory, World.note, h.store] }
  raiseMemory h x := { h with store := by simp [World.raiseMemory, World.note, h.store] }
  recount h before after := h.recount before after
  dangled h _ := { h with }

theorem alongside (bucket : Nat) (client : ClientId) :
    Alongside (Abreast (σ := σ) n l l') bucket bucket client where
  known h := by
    rw [h.store]
    rfl
  file h r := { h with
    count := (Store.bucketCount_file ..).trans h.count
    store := by simp [World.file, World.note, Store.file, h.store] }
  erase h := { h with
    count := (Store.bucketCount_erase ..).trans h.count
    store := by simp [World.erase, Store.erase, h.store] }
  forgotten h r := h.note _ _

/-- A bucket that is taken in both worlds or in none has the same door in both. -/
theorem door {bucket : Nat} (hdoor : bucket ∈ l' ↔ bucket ∈ l) :
    Door (Abreast (σ := σ) n l l') (Abreast n (bucket :: l) (bucket :: l')) bucket bucket where
  barrier {w w'} h := by
    have hcount : w'.store.bucketCount = w.store.bucketCount := by
      rw [h.store]
      rfl
    have hwriting : bucket ∈ w'.store.writing ↔ bucket ∈ w.store.writing := by
      simpa [h.store, h.writing] using hdoor
    simp [Store.barrier, Store.noSuchBucket, hcount, hwriting]
  enter h := { h with
    writing := congrArg (List.cons bucket) h.writing
    store := by simp [World.enter, World.note, h.store] }
  leave h := { h with
    writing := by simp [World.leave, World.note, h.writing]
    store := by simp [World.leave, World.note, h.store] }

end Abreast

/-! ## Requests in different company -/

section

variable {n : Nat} {l l' : List Nat} {env env' : Collaborators σ} {serve serve' : Server σ}

/-- Those whose conversations keep pace are good company for each other. -/
theorem Company.of_runs
    (release : ∀ id, Paced lax (Abreast n l l') ((env.release id).run serve)
      ((env'.release id).run serve'))
    (fetch : ∀ id, Paced lax (Abreast n l l') ((env.fetch id).run serve)
      ((env'.fetch id).run serve'))
    (announce : ∀ instant client, Paced lax (Abreast n l l')
      ((env.announce instant client).run serve) ((env'.announce instant client).run serve'))
    (hnow : env'.now = env.now) : Company lax (Abreast n l l') env env' serve serve' where
  release s := by
    unfold Operation.release
    cases s.payloadId? with
    | none => exact Paced.pure ()
    | some id => exact (Paced.modify fun _ _ h => h.note _ _).bind fun _ => release id
  fetch id := (Paced.modify fun _ _ h => h.note _ _).bind fun _ => fetch id
  announce instant client :=
    (Paced.modify fun _ _ h => h.note _ _).bind fun _ => announce instant client
  now h := by rw [hnow, h.outside]

/-- The buckets that are being written while a request is at work, if it is let in. -/
def Request.during (q : Request) (l : List Nat) : List Nat :=
  if q.isMutation then q.bucket :: l else l

/-- A request comes to the same in both companies. -/
theorem attend_paced {q : Request} (hdoor : q.isMutation = true → (q.bucket ∈ l' ↔ q.bucket ∈ l))
    (hnow : env'.now = env.now)
    (hc : q.mayCall = true →
      Company lax (Abreast n (q.during l) (q.during l')) env env' serve serve') :
    Paced lax (Abreast n l l') (attend env serve q) (attend env' serve' q) := by
  rw [attend_eq, attend_eq]
  refine noted_paced (fun h => h.note _ _) (fun h _ => h.note _ _) ?_
  refine carryOut_paced (fun hm => ?_) (fun hm => ?_) (fun h => ⟨_, h.store⟩) Abreast.attuned
    (Abreast.alongside q.bucket) (fun h => by rw [hnow, h.outside]) hc
  · unfold Request.during
    rw [if_pos hm, if_pos hm]
    exact Abreast.door (hdoor hm)
  · unfold Request.during
    rw [hm]
    rfl

/-- A conversation keeps pace if all requests do. -/
theorem Dialogue.run_paced (hs : ∀ q, Paced lax (Abreast n l l) (serve q) (serve' q))
    (d : Dialogue σ α) : Paced lax (Abreast n l l) (d.run serve) (d.run serve') := by
  induction d with
  | done a => exact Paced.pure a
  | look next ih =>
    apply Paced.look
    intro v v' hv
    rw [hv.store_eq, hv.outside]
    exact ih v.store v.outside
  | keep own next ih => exact (Paced.modify fun _ _ hv => hv.keep own).bind fun _ => ih
  | ask q next ih => exact (hs q).bind fun reply => ih reply

end

/-! ## Passive company -/

/-- Silent conversations that come to the same keep pace. -/
theorem Dialogue.Silent.paced {n : Nat} {l l' : List Nat} {d d' : Dialogue σ α} (h : d.Silent)
    (h' : d'.Silent) (same : ∀ s own, s.writing = l →
      d'.rebuffed { s with writing := l' } own = d.rebuffed s own) (serve serve' : Server σ) :
    Paced lax (Abreast n l l') (d.run serve) (d'.run serve') := by
  intro w w' hw
  have heq : d'.rebuffed w'.store w'.outside = d.rebuffed w.store w.outside := by
    rw [hw.store, hw.outside]
    exact same w.store w.outside hw.writing
  refine .inr ⟨_, _, { w' with outside := (d.rebuffed w.store w.outside).2 }, h.run serve w, ?_,
    hw.keep _⟩
  rw [h'.run serve' w', heq]

namespace Collaborators.Passive

variable {env : Collaborators σ} (h : env.Passive)

include h

theorem company (n : Nat) (l : List Nat) (serve serve' : Server σ) :
    Company lax (Abreast n l l) env env serve serve' := by
  have hself : ∀ {γ : Type} (d : Dialogue σ γ) (s : Store) (own : σ), s.writing = l →
      d.rebuffed { s with writing := l } own = d.rebuffed s own := by
    rintro γ d s own rfl
    rfl
  exact .of_runs (fun id => (h.release id).paced (h.release id) (hself _) _ _)
    (fun id => (h.fetch id).paced (h.fetch id) (hself _) _ _)
    (fun instant client => (h.announce instant client).paced (h.announce instant client)
      (hself _) _ _) rfl

/-- Every request takes its course to the end, whatever it is and wherever it comes from. -/
theorem perform_runs (depth : Nat) (q : Request) (w : World σ) :
    ∃ (reply : q.Reply) (w₁ : World σ),
      Course env (perform env 0) q (w.note (.called q)) reply w₁ ∧
      (perform env (depth + 1) q).run w =
        some (reply, w₁.note (.answered q (refusalOf reply))) := by
  have hpaced : Paced False (Abreast w.store.bucketCount w.store.writing w.store.writing)
      (attend env (perform env depth) q) (attend env (perform env depth) q) :=
    attend_paced (fun _ => Iff.rfl) rfl fun _ => h.company _ _ _ _
  obtain ⟨reply, w', -, hrun, -⟩ := hpaced.agree (Abreast.refl w)
  have hdone : (perform env (depth + 1) q).run w = some (reply, w') := hrun
  obtain ⟨w₁, hc, rfl⟩ := h.perform_course hdone
  exact ⟨reply, w₁, hc, hdone⟩

end Collaborators.Passive

end BrokerSessions
