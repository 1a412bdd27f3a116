-- Runs of a store. A run starts with an empty store and is a row of conversations,
-- each as long as it likes, with requests that name a bucket or a client, with sweeps,
-- and with changes outside the store between them. What no request breaks holds
-- between the first world of a run and the last one.
import BrokerSessions.Proofs.Prices

namespace BrokerSessions

variable {σ : Type}

/-! ## The empty store -/

namespace Store

variable {c : Config} {walk : Walk} {s : Store}

/-- The store that usable settings make. -/
theorem ofConfig_ok (h : ofConfig c walk = .ok s) :
    c.check = .ok () ∧ s =
      { defaultExpiry := c.defaultExpiry, buckets := Array.replicate c.bucketCount.toNat ∅,
        walk } := by
  unfold ofConfig at h
  cases hc : c.check with
  | error fault =>
    rw [hc] at h
    cases h
  | ok u =>
    rw [hc] at h
    cases h
    exact ⟨rfl, rfl⟩

theorem record?_of_ofConfig (h : ofConfig c walk = .ok s) (i : Nat) (client : ClientId) :
    s.record? i client = none := by
  obtain ⟨-, rfl⟩ := ofConfig_ok h
  unfold record?
  by_cases hi : i < c.bucketCount.toNat
  · simp [hi]
  · simp [hi]

theorem records_of_ofConfig (h : ofConfig c walk = .ok s) : s.records = [] := by
  apply List.eq_nil_iff_forall_not_mem.2
  rintro ⟨i, client, r⟩ hm
  rw [mem_records, record?_of_ofConfig h] at hm
  cases hm

theorem total_of_ofConfig (h : ofConfig c walk = .ok s) (f : Nat → Record → ℤ) : s.total f = 0 := by
  unfold total
  rw [records_of_ofConfig h]
  rfl

theorem writing_of_ofConfig (h : ofConfig c walk = .ok s) : s.writing = [] := by
  obtain ⟨-, rfl⟩ := ofConfig_ok h
  rfl

/-- A usable store has a bucket. -/
theorem bucketCount_pos_of_ofConfig (h : ofConfig c walk = .ok s) : 0 < s.bucketCount := by
  obtain ⟨hc, rfl⟩ := ofConfig_ok h
  unfold Config.check at hc
  split at hc
  · cases hc
  · rename_i hne
    unfold bucketCount
    rw [Array.size_replicate]
    exact Nat.pos_of_ne_zero fun h0 => hne (UInt64.toNat_inj.1 h0)

end Store

/-! ## Runs -/

/-- A conversation that is a single request. -/
theorem converse_request (env : Collaborators σ) (depth : Nat) (q : Request) :
    converse env depth (Dialogue.request q) = perform env depth q := bind_pure _

/-- The worlds that a run can reach while no request is in progress. -/
inductive Reached (env : Collaborators σ) : World σ → Prop where
  /-- An empty store with usable settings and any walk, and anything outside it. -/
  | start {c : Config} {walk : Walk} {s : Store} (own : σ) (h : Store.ofConfig c walk = .ok s) :
      Reached env { store := s, outside := own }
  /-- A conversation took place. -/
  | conversed {α : Type} {depth : Nat} {d : Dialogue σ α} {a : α} {w w' : World σ}
      (before : Reached env w) (h : (converse env depth d).run w = some (a, w')) : Reached env w'

namespace Reached

variable {env : Collaborators σ} {w : World σ} {R : World σ → World σ → Prop}

/-- A run goes on after each answer. -/
theorem asked (h : Reached env w) {depth : Nat} {q : Request} {reply : q.Reply} {w' : World σ}
    (hr : (perform env depth q).run w = some (reply, w')) : Reached env w' := by
  rw [← converse_request] at hr
  exact .conversed h hr

/-- What no request breaks holds since the start. -/
theorem since (hR : Chatty R) (hs : ∀ depth, (perform env depth).Keeps R) (h : Reached env w) :
    ∃ (c : Config) (walk : Walk) (s : Store) (own : σ), Store.ofConfig c walk = .ok s ∧
      R { store := s, outside := own } w := by
  induction h with
  | start own h => exact ⟨_, _, _, own, h, hR.refl _⟩
  | conversed before h ih =>
    obtain ⟨c, walk, s, own, hc, hrel⟩ := ih
    exact ⟨c, walk, s, own, hc, hR.trans hrel (Dialogue.run_keeps hR (hs _) _ h)⟩

/-- No bucket is being written between two requests. -/
theorem writing (h : Reached env w) : w.store.writing = [] := by
  obtain ⟨c, walk, s, own, hc, hf⟩ := h.since Frame.lasting.toChatty (perform_frame env)
  exact hf.writing.trans (Store.writing_of_ofConfig hc)

/-- All that came in went out or is still there. -/
theorem balance (h : Reached env w) (p : Prices) : w.balance p = 0 := by
  obtain ⟨c, walk, s, own, hc, -, hbal⟩ :=
    h.since (Settled.lasting p).toChatty (perform_settled p env)
  rw [hbal]
  change 0 - s.total _ = 0
  rw [Store.total_of_ofConfig hc, sub_zero]

end Reached

/-! ## A run to look at -/

/-- A payload store that forgets another client whenever it takes a reference back. -/
def Collaborators.meddling : Collaborators Timestamp where
  release _ := do
    let _ ← Dialogue.request (.remove "b" 1)
  fetch _ := pure none
  announce _ _ := pure ()
  now clock := clock

/-- Two clients come, and the first one gives up its will and goes away. -/
def farewells : Dialogue Timestamp Unit := do
  let will : Will := { publication := { topic := "" }, payloadId := 1 }
  let _ ← Dialogue.request (.put "b" { connected := true, expiry := 0 } ⟨1⟩ 1)
  let _ ← Dialogue.request (.put "a" { connected := true, expiry := 0, will } ⟨2⟩ 0)
  let _ ← Dialogue.request (.disconnect "a" ⟨3⟩ false 0 (some 9))

end BrokerSessions
