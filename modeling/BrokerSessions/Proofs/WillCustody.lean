-- What becomes of wills. Each granted put brings one reference in with its will, and the
-- store gives it back once, or still holds it, or drops it because the payload is gone.
-- Nothing is asked of the payload store, nor of those who call. References are counted by their
-- marks in the journal, and a record of the calls shows that the payload store hears of each.
import BrokerSessions.Proofs.OwnWork
import BrokerSessions.Proofs.Recording

namespace BrokerSessions

variable {σ : Type}

/-! ## References in a run -/

/-- A put was granted, and the will of its session names a payload. -/
def Mark.brings (id : PayloadId) : Mark → Bool
  | .answered (.put _ session _ _) none => session.payloadId? = some id
  | _ => false

/-- How many stored records have a will that names a payload. -/
def Store.holders (s : Store) (id : PayloadId) : Nat :=
  s.records.countP fun (_, _, r) => r.object.payloadId? = some id

/-- The prices by which only one payload counts. -/
def Prices.onlyWill (id : PayloadId) : Prices := { will := fun k => if k = id then 1 else 0 }

theorem ofWill_onlyWill (id : PayloadId) (id? : Option PayloadId) :
    (Prices.onlyWill id).ofWill id? = if id? = some id then 1 else 0 := by
  cases id? with
  | some k => simp [Prices.onlyWill, Prices.ofWill]
  | none => rfl

theorem ofStore_onlyWill (s : Store) (id : PayloadId) :
    (Prices.onlyWill id).ofStore s = s.holders id := by
  unfold Store.holders
  rw [← Store.total_indicator s fun r => decide (r.object.payloadId? = some id)]
  apply Store.total_congr
  intro i c r _
  unfold Prices.ofRecord
  rw [ofWill_onlyWill]
  simp [Prices.onlyWill, Prices.ofLive]

theorem ofJournal_onlyWill (id : PayloadId) (journal : List Mark) :
    (Prices.onlyWill id).ofJournal journal =
      (journal.countP (Mark.brings id) : ℤ) - journal.count (.released id) -
        journal.count (.dangled id) := by
  unfold Prices.ofJournal
  induction journal with
  | nil => rfl
  | cons m rest ih =>
    rw [List.map_cons, List.sum_cons, ih, List.countP_cons, List.count_cons, List.count_cons]
    cases m with
    | released k =>
      by_cases hk : k = id
      · simp [Prices.ofMark, Prices.onlyWill, Mark.brings, hk]
        omega
      · simp [Prices.ofMark, Prices.onlyWill, Mark.brings, hk]
    | dangled k =>
      by_cases hk : k = id
      · simp [Prices.ofMark, Prices.onlyWill, Mark.brings, hk]
        omega
      · simp [Prices.ofMark, Prices.onlyWill, Mark.brings, hk]
    | answered q refusal =>
      cases q with
      | put client session stamp bucket =>
        cases refusal with
        | none =>
          simp only [Prices.ofMark, ofWill_onlyWill, Mark.brings]
          by_cases hk : session.payloadId? = some id
          · simp [hk]
            omega
          · simp [hk]
        | some why => simp [Prices.ofMark, Mark.brings]
      | _ => simp [Prices.ofMark, Mark.brings]
    | raised g level amount => cases g <;> simp [Prices.ofMark, Prices.onlyWill, Mark.brings]
    | lowered g level amount => cases g <;> simp [Prices.ofMark, Prices.onlyWill, Mark.brings]
    | filed bucket client displaced fresh =>
      cases displaced <;> simp [Prices.ofMark, Prices.onlyWill, Prices.ofDisplaced, Mark.brings]
    | _ => simp [Prices.ofMark, Prices.onlyWill, Mark.brings]

/-- Between two requests every reference that came in is accounted for. -/
theorem Reached.references {env : Collaborators σ} {w : World σ} (h : Reached env w)
    (id : PayloadId) :
    w.journal.count (.released id) + w.store.holders id + w.journal.count (.dangled id) =
      w.journal.countP (Mark.brings id) := by
  have hbal := h.balance (Prices.onlyWill id)
  unfold World.balance at hbal
  rw [ofJournal_onlyWill, ofStore_onlyWill] at hbal
  omega

/-! ## Who gives references back -/

/-- How many requests came in and are not answered yet. -/
def unfinished : List Mark → Nat
  | [] => 0
  | .called _ :: rest => unfinished rest + 1
  | .answered _ _ :: rest => unfinished rest - 1
  | _ :: rest => unfinished rest

/-- How many references were given back while exactly `n` requests were unfinished. A
request that comes in when `n` are unfinished does its own work at `n + 1`, and what is
asked meanwhile is done further up. -/
def releasedAt (n : Nat) : List Mark → Nat
  | [] => 0
  | .released _ :: rest => releasedAt n rest + if unfinished rest = n then 1 else 0
  | _ :: rest => releasedAt n rest

/-- No request was finished that had begun before, and no references were given back on a
level below the one that is `above` above the present one. -/
def Hushed (above : Nat) (w w' : World σ) : Prop :=
  unfinished w'.journal = unfinished w.journal ∧
    ∀ n, n < unfinished w.journal + above → releasedAt n w'.journal = releasedAt n w.journal

theorem Hushed.bears (above : Nat) : Bears (Hushed (σ := σ) above) where
  refl w := ⟨rfl, fun _ _ => rfl⟩
  trans h₁ h₂ := ⟨h₂.1.trans h₁.1, fun n hn => (h₂.2 n (h₁.1 ▸ hn)).trans (h₁.2 n hn)⟩
  outside w own := ⟨rfl, fun _ _ => rfl⟩
  store w s := ⟨rfl, fun _ _ => rfl⟩
  note w m hb hr := by
    cases m with
    | called => cases hb
    | answered => cases hb
    | released => cases hr
    | _ => exact ⟨rfl, fun _ _ => rfl⟩

/-- A reference that is given back is seen on the present level, and below it not. -/
theorem Hushed.release (w : World σ) (id : PayloadId) : Hushed 0 w (w.note (.released id)) := by
  refine ⟨rfl, ?_⟩
  intro n hn
  have hne : unfinished w.journal ≠ n := by omega
  change releasedAt n w.journal + (if unfinished w.journal = n then 1 else 0) = _
  rw [if_neg hne, add_zero]

theorem attend_hushed {env : Collaborators σ} {serve : Server σ} (hs : serve.Keeps (Hushed 1)) :
    (attend env serve).Keeps (Hushed 1) := by
  intro q w reply w' h
  obtain ⟨w₁, hc, rfl⟩ := attend_course h
  have hs₀ : serve.Keeps (Hushed 0) := hs.mono fun _ _ h => ⟨h.1, fun n hn => h.2 n (by omega)⟩
  obtain ⟨hlevel, hquiet⟩ := (Hushed.bears 0).course hs₀ hc fun _ _ => Hushed.release
  refine ⟨?_, ?_⟩
  · change unfinished w₁.journal - 1 = _
    rw [hlevel]
    exact Nat.add_sub_cancel _ 1
  · exact hquiet

theorem perform_hushed (env : Collaborators σ) (depth : Nat) :
    (perform env depth).Keeps (Hushed 1) :=
  perform_keeps (fun _ => attend_hushed) depth

/-- A request that is refused, or that may not give references back, gives none back
itself. What others do meanwhile counts on a level of its own. -/
theorem releasedAt_of_harmless {env : Collaborators σ} {depth : Nat} {q : Request}
    {reply : q.Reply} {w w' : World σ} (h : (perform env depth q).run w = some (reply, w'))
    (hq : refusalOf reply ≠ none ∨ ¬ q.mayRelease w.store) :
    releasedAt (unfinished w.journal + 1) w'.journal =
      releasedAt (unfinished w.journal + 1) w.journal := by
  cases depth with
  | zero => cases h
  | succ depth =>
    obtain ⟨w₁, hc, rfl⟩ := attend_course h
    have hquiet := (Hushed.bears 1).course (perform_hushed env depth) hc (by
      intro hgranted hmay
      rcases hq with hrefused | hnot
      · exact absurd hgranted hrefused
      · exact absurd hmay hnot)
    exact hquiet.2 _ (Nat.lt_succ_self _)

/-- Between two requests every reference that a granted put brought in was given back once,
or a record still holds it, or a disconnect dropped it because the payload was gone. And
references are given back only by those requests that may, and only when they are granted. -/
theorem wills_accounted_for (env : Collaborators σ) :
    (∀ (w : World σ) (id : PayloadId), Reached env w →
      w.journal.count (.released id) + w.store.holders id + w.journal.count (.dangled id) =
        w.journal.countP (Mark.brings id)) ∧
    (∀ (depth : Nat) (q : Request) (reply : q.Reply) (w w' : World σ),
      (perform env depth q).run w = some (reply, w') →
        refusalOf reply ≠ none ∨ ¬ q.mayRelease w.store →
          releasedAt (unfinished w.journal + 1) w'.journal =
            releasedAt (unfinished w.journal + 1) w.journal) :=
  ⟨fun _ id h => h.references id, fun _ _ _ _ _ h hq => releasedAt_of_harmless h hq⟩

/-- One will is given up, and the payload store was called for it just once. A look at a client
gives nothing back. -/
theorem wills_accounted_for_farewells :
    (∃ w, Reached Collaborators.meddling.recording w ∧ w.outside.2 = [.release 1] ∧
      w.journal.count (.released 1) = w.outside.2.count (.release 1) ∧
      w.journal.countP (Mark.brings 1) = 1 ∧
      w.journal.count (.released 1) + w.store.holders 1 + w.journal.count (.dangled 1) =
        w.journal.countP (Mark.brings 1)) ∧
    ∃ w reply w', (perform .meddling 1 (.find "a" 0 true true)).run w = some (reply, w') ∧
      ¬ (Request.find "a" 0 true true).mayRelease w.store ∧
        releasedAt (unfinished w.journal + 1) w'.journal =
          releasedAt (unfinished w.journal + 1) w.journal := by
  constructor
  · have hend : ((converse Collaborators.meddling.recording 2 farewells.lift).run
        { store := { defaultExpiry := 4294967295, buckets := Array.replicate 2 ∅ },
          outside := (⟨0⟩, []) }).map (fun (_, w) =>
            (w.outside.2, w.journal.count (.released 1), w.journal.countP (Mark.brings 1))) =
          some ([.release 1], 1, 1) := by
      decide +kernel
    obtain ⟨⟨_, w⟩, hrun, hfacts⟩ := Option.map_eq_some_iff.1 hend
    simp only [Prod.mk.injEq] at hfacts
    obtain ⟨hcalled, hreleased, hone⟩ := hfacts
    have hreached : Reached Collaborators.meddling.recording w :=
      .conversed (.start (⟨0⟩, []) (c := { bucketCount := 2 }) rfl) hrun
    have hsame : w.journal.count (.released 1) = w.outside.2.count (.release 1) := by
      rw [hreleased, hcalled]
      rfl
    exact ⟨w, hreached, hcalled, hsame, hone, (wills_accounted_for _).1 w 1 hreached⟩
  · have hend : ((perform .meddling 1 (.find "a" 0 true true)).run
        { store := { defaultExpiry := 4294967295, buckets := Array.replicate 2 ∅ },
          outside := ⟨0⟩ }).isSome = true := by
      decide +kernel
    obtain ⟨⟨reply, w'⟩, hrun⟩ := Option.isSome_iff_exists.1 hend
    exact ⟨_, reply, w', hrun, id, (wills_accounted_for .meddling).2 1 _ reply _ w' hrun (.inr id)⟩

end BrokerSessions
