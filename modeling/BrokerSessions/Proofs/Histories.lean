-- Histories that are written down beforehand, so that two of them can be compared. A history
-- is a row of turns: requests that name a bucket or a client, sweeps, and what happens outside
-- the store. Each turn comes down to a few moves, and two rows of moves can be followed side
-- by side.
import BrokerSessions.Proofs.Readers
import BrokerSessions.Proofs.Verdicts

namespace BrokerSessions

variable {σ α β : Type}

/-! ## Conversations in a row -/

namespace Dialogue

theorem bind_bind {γ : Type} (d : Dialogue σ α) (f : α → Dialogue σ β) (g : β → Dialogue σ γ) :
    (d.bind f).bind g = d.bind fun a => (f a).bind g := by
  induction d with
  | done a => rfl
  | look next ih => exact congrArg look (funext fun store => funext fun own => ih store own)
  | keep own next ih => exact congrArg (keep own) ih
  | ask q next ih => exact congrArg (ask q) (funext ih)

theorem bind_done (d : Dialogue σ α) : d.bind done = d := by
  induction d with
  | done a => rfl
  | look next ih => exact congrArg look (funext fun store => funext fun own => ih store own)
  | keep own next ih => exact congrArg (keep own) ih
  | ask q next ih => exact congrArg (ask q) (funext ih)

instance : LawfulMonad (Dialogue σ) := .mk' _ bind_done (fun _ _ => rfl) bind_bind

/-- One conversation after the other is two runs, one after the other. -/
theorem run_bind (d : Dialogue σ α) (f : α → Dialogue σ β) (serve : Server σ) :
    (d >>= f).run serve = d.run serve >>= fun a => (f a).run serve := by
  change (d.bind f).run serve = _
  induction d with
  | done a => rfl
  | look next ih =>
    simp only [bind, run, bind_assoc]
    exact bind_congr fun w => ih w.store w.outside
  | keep own next ih => simp only [bind, run, bind_assoc, ih]
  | ask q next ih =>
    simp only [bind, run, bind_assoc]
    exact bind_congr ih

end Dialogue

/-! ## Turns and moves -/

/-- Something that happens outside the store while no request is in progress. What can be seen
after it depends on nothing but what could be seen before. -/
structure Errand (o : Outlook σ) where
  act : σ → σ
  view : o.View → o.View
  shows : ∀ own, o.view (act own) = view (o.view own)

namespace Errand

/-- A payload comes into the ledger. -/
def add (bytes : Bytes) : Errand .quiet where
  act b := { b with ledger := (b.ledger.add bytes).2 }
  view v := (fun id => if id = v.2.1 + 1 then some bytes else v.1 id, v.2.1 + 1, v.2.2)
  shows own := by
    have hbytes : (own.ledger.add bytes).2.bytes? =
        fun id => if id = own.ledger.issued + 1 then some bytes else own.ledger.bytes? id := by
      funext id
      exact own.ledger.bytes?_add bytes id
    exact congrArg (fun bytes? => (bytes?, own.ledger.issued + 1, own.clock)) hbytes

/-- Somebody takes one more reference to a payload. -/
def retain (id : PayloadId) : Errand .quiet where
  act b := { b with ledger := b.ledger.retain id }
  view v := v
  shows own := by
    have hbytes : (own.ledger.retain id).bytes? = own.ledger.bytes? := by
      funext k
      exact own.ledger.bytes?_retain id k
    exact congrArg (fun bytes? => (bytes?, own.ledger.issued, own.clock)) hbytes

/-- A payload is discarded. -/
def discard (id : PayloadId) : Errand .quiet where
  act b := { b with ledger := b.ledger.discard id }
  view v := (fun k => if k = id then none else v.1 k, v.2)
  shows own := by
    have hbytes : (own.ledger.discard id).bytes? =
        fun k => if k = id then none else own.ledger.bytes? k := by
      funext k
      exact own.ledger.bytes?_discard id k
    exact congrArg (fun bytes? => (bytes?, own.ledger.issued, own.clock)) hbytes

/-- The clock is set anew. -/
def setClock (f : Timestamp → Timestamp) : Errand .quiet where
  act b := { b with clock := f b.clock }
  view v := (v.1, v.2.1, f v.2.2)
  shows _ := rfl

end Errand

/-- One request that names a bucket, or one errand. -/
inductive Move (o : Outlook σ) where
  | ask (q : Request)
  | errand (e : Errand o)

/-- One turn of a history. -/
inductive Turn (o : Outlook σ) where
  | move (m : Move o)
  | byId (q : ById)
  | sweep

section

variable {o : Outlook σ}

def Move.talk : Move o → Dialogue σ Unit
  | ask q => do
    let _ ← Dialogue.request q
  | errand e => Dialogue.change e.act

def Turn.talk : Turn o → Dialogue σ Unit
  | move m => m.talk
  | byId q => do
    let _ ← q.talk
  | sweep => do
    let _ ← Dialogue.sweep

/-- What a turn comes down to in a store with `n` buckets. -/
def Turn.moves (n : Nat) : Turn o → List (Move o)
  | move m => [m]
  | byId q => (q.request? n).toList.map .ask
  | sweep => (List.range n).map fun bucket => .ask (.purge bucket)

/-- Moves, one after the other. -/
def Move.row (l : List (Move o)) : Dialogue σ Unit := l.forM Move.talk

/-- A whole history. -/
def Turn.row (l : List (Turn o)) : Dialogue σ Unit := l.forM Turn.talk

/-! ## Every history is a row of moves -/

theorem Move.row_append (l l' : List (Move o)) :
    Move.row (l ++ l') = Move.row l >>= fun _ => Move.row l' := List.forM_append

/-- The purges of a sweep, without their count. -/
theorem purgeAll_row (before : Nat) (buckets : List Nat) :
    (do let _ ← Dialogue.purgeAll (σ := σ) before buckets) =
      Move.row (o := o) (buckets.map fun bucket => .ask (.purge bucket)) := by
  induction buckets generalizing before with
  | nil => rfl
  | cons bucket rest ih =>
    exact congrArg (Dialogue.ask (.purge bucket)) (funext fun removed => ih _)

variable {env : Collaborators σ} {depth : Nat} {w w' : World σ}

/-- A turn does what its moves do. -/
theorem Turn.run_talk (x : Turn o) (w : World σ) :
    (converse env depth x.talk).run w =
      (converse env depth (Move.row (x.moves w.store.bucketCount))).run w := by
  cases x with
  | move m =>
    have hone : Move.row [m] = m.talk := bind_pure_unit
    exact congrArg (fun d => (converse env depth d).run w) hone.symm
  | byId q => cases q <;> rfl
  | sweep =>
    change (converse env depth (do
      let _ ← Dialogue.purgeAll 0 (List.range w.store.bucketCount))).run w = _
    rw [purgeAll_row]
    rfl

theorem converse_congr {d d' : Dialogue σ α} {f f' : α → Dialogue σ β}
    (h : (converse env depth d).run w = (converse env depth d').run w)
    (hf : ∀ a v, (converse env depth d').run w = some (a, v) →
      (converse env depth (f a)).run v = (converse env depth (f' a)).run v) :
    (converse env depth (d >>= f)).run w = (converse env depth (d' >>= f')).run w := by
  unfold converse at h hf ⊢
  rw [Dialogue.run_bind, Dialogue.run_bind, StateT.run_bind, StateT.run_bind, h]
  exact Option.bind_congr fun x hx => hf x.1 x.2 hx

/-- A history does what the moves of its turns do. -/
theorem Turn.run_row (l : List (Turn o)) {n : Nat} (hn : w.store.bucketCount = n) :
    (converse env depth (Turn.row l)).run w =
      (converse env depth (Move.row (l.flatMap (Turn.moves n)))).run w := by
  induction l generalizing w with
  | nil => rfl
  | cons x rest ih =>
    rw [List.flatMap_cons, Move.row_append]
    refine converse_congr (hn ▸ x.run_talk w) fun _ v hv => ih ?_
    have hframe := Dialogue.run_keeps Frame.lasting.toChatty (perform_frame env depth) _ hv
    rw [hframe.count, hn]

/-! ## One move, and two rows of moves -/

theorem Move.run_ask {q : Request} {reply : q.Reply}
    (h : (perform env depth q).run w = some (reply, w')) :
    (converse env depth (Move.ask q : Move o).talk).run w = some ((), w') :=
  Act.bind_some.2 ⟨reply, w', h, rfl⟩

theorem Move.run_errand (e : Errand o) (w : World σ) :
    (converse env depth (Move.errand e).talk).run w =
      some ((), { w with outside := e.act w.outside }) := rfl

theorem Move.row_cons {m : Move o} {rest : List (Move o)} {v : World σ}
    (h : (converse env depth m.talk).run w = some ((), v))
    (hrest : (converse env depth (Move.row rest)).run v = some ((), w')) :
    (converse env depth (Move.row (m :: rest))).run w = some ((), w') := by
  change (converse env depth (m.talk >>= fun _ => Move.row rest)).run w = _
  unfold converse at h hrest ⊢
  rw [Dialogue.run_bind, Act.bind_some]
  exact ⟨(), v, h, hrest⟩

/-- Two rows of moves side by side, the second one without some of the moves of the first. What
relates the two worlds may depend on the moves that are still to come. -/
theorem Move.rows_abreast {keep : Move o → Bool} {R : List (Move o) → World σ → World σ → Prop}
    (hkept : ∀ m rest w w', keep m = true → R (m :: rest) w w' →
      ∃ v v', (converse env depth m.talk).run w = some ((), v) ∧
        (converse env depth m.talk).run w' = some ((), v') ∧ R rest v v')
    (hdropped : ∀ m rest w w', keep m = false → R (m :: rest) w w' →
      ∃ v, (converse env depth m.talk).run w = some ((), v) ∧ R rest v w')
    (l : List (Move o)) (h : R l w w') :
    ∃ v v', (converse env depth (Move.row l)).run w = some ((), v) ∧
      (converse env depth (Move.row (l.filter keep))).run w' = some ((), v') ∧ R [] v v' := by
  induction l generalizing w w' with
  | nil => exact ⟨w, w', rfl, rfl, h⟩
  | cons m rest ih =>
    cases hm : keep m with
    | true =>
      obtain ⟨u, u', hu, hu', hnext⟩ := hkept m rest w w' hm h
      obtain ⟨v, v', hv, hv', hend⟩ := ih hnext
      rw [List.filter_cons_of_pos hm]
      exact ⟨v, v', Move.row_cons hu hv, Move.row_cons hu' hv', hend⟩
    | false =>
      obtain ⟨u, hu, hnext⟩ := hdropped m rest w w' hm h
      obtain ⟨v, v', hv, hv', hend⟩ := ih hnext
      rw [List.filter_cons_of_neg (by simp [hm])]
      exact ⟨v, v', Move.row_cons hu hv, hv', hend⟩

namespace Peers

/-- An errand is the same for peers. -/
theorem errand (h : Peers o w w') (e : Errand o) :
    Peers o { w with outside := e.act w.outside } { w' with outside := e.act w'.outside } where
  view := by rw [e.shows, e.shows, h.view]
  writing := h.writing
  count := h.count
  defaultExpiry := h.defaultExpiry
  walk := h.walk

theorem bucketOf_eq (h : Peers o w w') (c : ClientId) :
    w'.store.bucketOf c = w.store.bucketOf c := by
  unfold Store.bucketOf
  rw [h.count]

/-- Peers have the same buckets to read from. -/
theorem read_eq (h : Peers o w w') {i : Nat} {f : Bucket → α}
    (hf : ∀ b b' : Bucket, (∀ c, b[c]? = w.store.record? i c) →
      (∀ c, b'[c]? = w'.store.record? i c) → f b' = f b) :
    (w'.store.bucket i).map f = (w.store.bucket i).map f := by
  rcases Nat.lt_or_ge i w.store.bucketCount with hlt | hle
  · obtain ⟨b, hb, hget⟩ := Store.bucket_ok hlt
    obtain ⟨b', hb', hget'⟩ := Store.bucket_ok (h.count ▸ hlt)
    rw [hb, hb']
    exact congrArg Except.ok (hf b b' hget hget')
  · have hnone : ∀ {u : World σ}, u.store.bucketCount = w.store.bucketCount →
        u.store.bucket i = .error (w.store.noSuchBucket i) := by
      intro u hu
      have hsize : u.store.buckets.size ≤ i := hu.trans_le hle
      unfold Store.bucket Store.noSuchBucket
      rw [Array.getElem?_eq_none hsize, hu]
    rw [hnone rfl, hnone h.count]

end Peers

end

end BrokerSessions
