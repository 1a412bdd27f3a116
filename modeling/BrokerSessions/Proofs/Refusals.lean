-- A refused request leaves no trace. It is turned away at the door, or it finds no
-- session to change, and in both cases it is refused before anything is done for it:
-- the store stays as it is, and nobody outside hears of it.
import BrokerSessions.Proofs.Sharding

namespace BrokerSessions

variable {σ α : Type}

/-! ## Requests that are turned away -/

namespace Request

/-- Whether the arguments of a request that do not name a bucket are in their domains. -/
def isSane : Request → Bool
  | put _ _ stamp _ => stamp.isPositive
  | setExpiry _ expiry _ => 0 ≤ expiry
  | _ => true

end Request

namespace Store

/-- A change with good arguments is turned away only because of its bucket. -/
theorem objection_eq_barrier {s : Store} {q : Request} (hm : q.isMutation = true)
    (hq : q.isSane = true) : s.objection q = s.barrier q.bucket := by
  cases q with
  | put client session stamp bucket =>
    have hpos : stamp.isPositive = true := hq
    simp [objection, hpos, Request.bucket]
  | setExpiry client expiry bucket =>
    have hnonneg : ¬ expiry < 0 := Int64.not_lt.2 (by simpa [Request.isSane] using hq)
    simp [objection, hnonneg, Request.bucket]
  | find => cases hm
  | _ => rfl

end Store

section

open Operation

variable {env : Collaborators σ} {serve : Server σ} {w w' : World σ}

theorem carryOut_turnedAway {q : Request} {why : Refusal} (h : w.store.objection q = some why) :
    (carryOut env serve q).run w = some (.error why, w) := by
  cases q with
  | put client session stamp bucket =>
    simp only [carryOut, put]
    by_cases hpos : stamp.isPositive = true
    · rw [if_pos hpos]
      exact writing_turnedAway (by simpa [Store.objection, hpos] using h)
    · have hwhy : why = .invalidArgument .stampNotPositive := by
        simpa [Store.objection, hpos, eq_comm] using h
      rw [if_neg hpos, hwhy]
      rfl
  | setExpiry client expiry bucket =>
    simp only [carryOut, setExpiry]
    by_cases hneg : expiry < 0
    · have hwhy : why = .invalidArgument (.negativeExpiry expiry) := by
        simpa [Store.objection, hneg, eq_comm] using h
      rw [if_pos hneg, hwhy]
      rfl
    · rw [if_neg hneg]
      exact writing_turnedAway (by simpa [Store.objection, hneg] using h)
  | find client bucket hideExpired withWill =>
    have hlt : ¬ bucket < w.store.bucketCount := by
      intro hlt
      simp [Store.objection, hlt] at h
    have hwhy : why = w.store.noSuchBucket bucket := by
      simpa [Store.objection, hlt, eq_comm] using h
    refine Act.bind_some.2 ⟨w, w, Act.get_some.2 ⟨rfl, rfl⟩, ?_⟩
    rw [if_neg hlt, hwhy]
    rfl
  | disconnect => exact writing_turnedAway h
  | remove => exact writing_turnedAway h
  | purge => exact writing_turnedAway h
  | cancelWill => exact writing_turnedAway h

/-- Without a session there is no interval to be changed. -/
theorem setExpiry_noSession {client : ClientId} {expiry : Int64} {bucket : Nat}
    (door : w.store.objection (.setExpiry client expiry bucket) = none)
    (hnone : ∀ old, w.store.record? bucket client = some old → old.object.isTombstone = true) :
    (carryOut env serve (.setExpiry client expiry bucket)).run w =
      some (.error .noSession, (w.enter bucket).leave bucket) := by
  have hneg : ¬ expiry < 0 := by
    intro hneg
    simp [Store.objection, hneg] at door
  simp only [carryOut, setExpiry]
  rw [if_neg hneg]
  apply writing_run (by simpa [Store.objection, hneg] using door)
  refine Act.bind_some.2 ⟨_, _, Act.get_some.2 ⟨rfl, rfl⟩, ?_⟩
  rw [World.record?_enter]
  cases hr : w.store.record? bucket client with
  | none => rfl
  | some old =>
    dsimp only
    rw [if_pos (hnone old hr)]
    rfl

/-- A refused request was turned away or found no session, and so it would be in any company. -/
theorem course_refused {q : Request} {why : Refusal} (h : Course env serve q w (.error why) w') :
    (w' = w ∨ w' = (w.enter q.bucket).leave q.bucket) ∧
      ∀ (env' : Collaborators σ) (serve' : Server σ),
        (carryOut env' serve' q).run w = some (.error why, w') := by
  cases h with
  | turnedAway hdoor => exact ⟨.inl rfl, fun _ _ => carryOut_turnedAway hdoor⟩
  | noSession door hnone => exact ⟨.inr rfl, fun _ _ => setExpiry_noSession door hnone⟩

/-- Who is turned away is turned away at once. -/
theorem attend_turnedAway {q : Request} {why : Refusal} (h : w.store.objection q = some why) :
    (attend env serve q).run w =
      some (.error why, (w.note (.called q)).note (.answered q (some why))) :=
  attend_run (w := w) (carryOut_turnedAway (w := w.note (.called q)) h)

/-- It makes no difference how deep requests may nest. -/
theorem perform_turnedAway {q : Request} {why : Refusal} (h : w.store.objection q = some why)
    (depth : Nat) :
    (perform env (depth + 1) q).run w =
      some (.error why, (w.note (.called q)).note (.answered q (some why))) :=
  attend_turnedAway h

end

/-! ## What a refusal leaves behind -/

/-- A mark that a collaborator was asked for something, or told something. -/
def Mark.isCallOut : Mark → Bool
  | .released _ | .fetched _ | .announced _ _ => true
  | _ => false

/-- Between two worlds nothing was done: the store is the same, down to those who are
writing it, the same is outside, and no collaborator was called. -/
structure Untouched (w w' : World σ) : Prop where
  store : w'.store = w.store
  outside : w'.outside = w.outside
  calls : ∃ since, w'.journal = since ++ w.journal ∧ ∀ m ∈ since, m.isCallOut = false

theorem Untouched.of_refused {q : Request} {why : Refusal} {w w' : World σ}
    (h : w' = w.note (.called q) ∨
      w' = ((w.note (.called q)).enter q.bucket).leave q.bucket) :
    Untouched w (w'.note (.answered q (some why))) := by
  rcases h with rfl | rfl
  · exact ⟨rfl, rfl, [_, _], rfl, by simp [Mark.isCallOut]⟩
  · refine ⟨?_, rfl, [_, _, _, _], rfl, by simp [Mark.isCallOut]⟩
    simp [World.leave, World.enter, World.note]

section

variable {env : Collaborators σ} {w w' : World σ}

/-- A request that is refused leaves the world untouched, and it is refused in the same way
whoever the collaborators are. -/
theorem perform_refused {depth : Nat} {q : Request} {why : Refusal}
    (h : (perform env depth q).run w = some (.error why, w')) :
    Untouched w w' ∧ ∀ (env' : Collaborators σ) (depth' : Nat),
      (perform env' (depth' + 1) q).run w = some (.error why, w') := by
  cases depth with
  | zero => cases h
  | succ depth =>
    obtain ⟨w₁, hc, rfl⟩ := attend_course h
    obtain ⟨hw₁, hany⟩ := course_refused hc
    exact ⟨Untouched.of_refused hw₁, fun env' depth' => attend_run (hany env' _)⟩

/-- Who names a client and no bucket asks one request, or only looks. -/
theorem ById.talk_some {depth : Nat} {q : ById} {reply : Except Refusal q.Result}
    (h : (converse env depth q.talk).run w = some (reply, w')) :
    w' = w ∨ ∃ (p : Request) (r : p.Reply),
      (perform env depth p).run w = some (r, w') ∧ refusalOf r = refusalOf reply := by
  cases hp : q.request? w.store.bucketCount with
  | none =>
    obtain ⟨r, hr⟩ := q.run_talk_none env depth hp
    rw [hr] at h
    cases h
    exact .inl rfl
  | some p =>
    rw [q.run_talk hp, Option.map_eq_some_iff] at h
    obtain ⟨⟨r, v⟩, hr, heq⟩ := h
    obtain ⟨rfl, rfl⟩ := Prod.mk.inj heq
    exact .inr ⟨p, r, hr, (q.refusalOf_reply hp r).symm⟩

theorem ById.refused {depth : Nat} {q : ById} {why : Refusal}
    (h : (converse env depth q.talk).run w = some (.error why, w')) : Untouched w w' := by
  rcases ById.talk_some h with rfl | ⟨p, r, hr, hwhy⟩
  · exact ⟨rfl, rfl, [], rfl, by simp⟩
  · cases r with
    | ok => cases hwhy
    | error =>
      cases hwhy
      exact (perform_refused hr).1

/-- A read looks at the store and at the clock, and changes neither. -/
theorem read_some {read : Store → Timestamp → α} {depth : Nat} {a : α}
    (h : (converse env depth
      (do return read (← Dialogue.store) (env.now (← Dialogue.own)))).run w = some (a, w')) :
    w' = w := by
  obtain ⟨_, _, ⟨rfl, rfl⟩, h⟩ := Act.bind_some.1 h
  obtain ⟨_, _, ⟨rfl, rfl⟩, h⟩ := Act.bind_some.1 h
  obtain ⟨-, rfl⟩ := Act.pure_some.1 h
  rfl

end

/-- Whatever is asked, of whichever store, in the middle of other requests too: a refusal
leaves the world untouched, and nobody else had a say in it. This holds for requests that
name a bucket and for those that name a client only. A read changes nothing anyway. -/
theorem refusals_leave_no_trace (env : Collaborators σ) (w w' : World σ) (depth : Nat)
    (why : Refusal) :
    (∀ q : Request, (perform env depth q).run w = some (.error why, w') →
      Untouched w w' ∧ ∀ (env' : Collaborators σ) (depth' : Nat),
        (perform env' (depth' + 1) q).run w = some (.error why, w')) ∧
    (∀ q : ById, (converse env depth q.talk).run w = some (.error why, w') → Untouched w w') ∧
    (∀ (α : Type) (read : Store → Timestamp → Except Refusal α),
      (converse env depth
        (do return read (← Dialogue.store) (env.now (← Dialogue.own)))).run w =
          some (.error why, w') → w' = w) :=
  ⟨fun _ h => perform_refused h, fun _ h => ById.refused h, fun _ _ h => read_some h⟩

/-- In the middle of a request on the second bucket, an unknown client has no interval to be
changed, the second bucket is taken, and there is no third one to be read. -/
theorem refusals_leave_no_trace_midway :
    ∃ w : World Backdrop, w.store.writing = [1] ∧
      (∃ w', (perform .quiet 1 (.setExpiry "b" 9 0)).run w = some (.error .noSession, w') ∧
        Untouched w w') ∧
      (∃ w' why, (converse .quiet 1 (ById.remove "a").talk).run w = some (.error why, w') ∧
        Untouched w w') ∧
      ∃ w' why, (converse .quiet 1 (do
        return (← Dialogue.store).disconnectedClients (Collaborators.quiet.now (← Dialogue.own))
          2)).run w = some (.error why, w') ∧ w' = w := by
  let w : World Backdrop :=
    { store := { defaultExpiry := 9, buckets := Array.replicate 2 ∅, writing := [1] },
      outside := { clock := ⟨0⟩ } }
  have hunknown : ((perform .quiet 1 (.setExpiry "b" 9 0)).run w).map
      (fun (r, _) => refusalOf r) = some (some .noSession) := by decide +kernel
  have htaken : ((converse .quiet 1 (ById.remove "a").talk).run w).map
      (fun (r, _) => refusalOf r) = some (some (.preconditionViolated (.alreadyWriting 1))) := by
    decide +kernel
  obtain ⟨⟨reply, v⟩, hrun, hwhy⟩ := Option.map_eq_some_iff.1 hunknown
  obtain ⟨⟨reply', v'⟩, hrun', hwhy'⟩ := Option.map_eq_some_iff.1 htaken
  cases reply with
  | ok => cases hwhy
  | error why =>
    cases hwhy
    cases reply' with
    | ok => cases hwhy'
    | error why' =>
      refine ⟨w, rfl, ⟨v, hrun, ?_⟩, ⟨v', why', hrun', ?_⟩, w, w.store.noSuchBucket 2, rfl, ?_⟩
      · exact ((refusals_leave_no_trace .quiet w v 1 .noSession).1 _ hrun).1
      · exact (refusals_leave_no_trace .quiet w v' 1 why').2.1 _ hrun'
      · exact (refusals_leave_no_trace .quiet w w 1 (w.store.noSuchBucket 2)).2.2 _
          (fun s now => s.disconnectedClients now 2) rfl

end BrokerSessions
