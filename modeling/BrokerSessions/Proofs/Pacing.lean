-- Two programs side by side, and one walk over the operations. The programs may have different
-- collaborators and may work on different buckets. Once something relates two worlds and each
-- elementary step keeps it, every operation keeps it, so the operations are followed here once
-- and for all, as they are written. Who compares two runs of a store says what relates the
-- worlds and how the collaborators behave, and no more.
import BrokerSessions.Proofs.Course

namespace BrokerSessions

variable {σ τ α β : Type} {lax : Prop} {P R : World σ → World τ → Prop}

/-! ## Programs that keep pace -/

/-- From these two worlds both programs come to an end, with the same value, and in worlds
that are related. -/
def Agree (P : World σ → World τ → Prop) (m : Act σ α) (m' : Act τ α) (w : World σ)
    (w' : World τ) : Prop :=
  ∃ a v v', m.run w = some (a, v) ∧ m'.run w' = some (a, v') ∧ P v v'

/-- From related worlds both programs come to an end, with the same value and in related
worlds. Only if `lax`, the first one may come to no end. -/
def Paced (lax : Prop) (P : World σ → World τ → Prop) (m : Act σ α) (m' : Act τ α) : Prop :=
  ∀ w w', P w w' → (lax ∧ m.run w = none) ∨ Agree P m m' w w'

namespace Paced

theorem pure (a : α) : Paced lax P (Pure.pure a) (Pure.pure a) :=
  fun w w' h => .inr ⟨a, w, w', rfl, rfl, h⟩

theorem modify {f : World σ → World σ} {f' : World τ → World τ}
    (h : ∀ w w', P w w' → P (f w) (f' w')) :
    Paced lax P (modify f : Act σ PUnit) (modify f') :=
  fun w w' hw => .inr ⟨⟨⟩, f w, f' w', rfl, rfl, h w w' hw⟩

theorem bind {m : Act σ α} {m' : Act τ α} {f : α → Act σ β} {f' : α → Act τ β}
    (h : Paced lax P m m') (hf : ∀ a, Paced lax P (f a) (f' a)) :
    Paced lax P (m >>= f) (m' >>= f') := by
  intro w w' hw
  rcases h w w' hw with ⟨hlax, hnone⟩ | ⟨a, v, v', hm, hm', hv⟩
  · exact .inl ⟨hlax, by simp [StateT.run_bind, hnone]⟩
  · rcases hf a v v' hv with ⟨hlax, hnone⟩ | ⟨b, u, u', hb, hb', hu⟩
    · exact .inl ⟨hlax, by simp [StateT.run_bind, hm, hnone]⟩
    · exact .inr ⟨b, u, u', Act.bind_some.2 ⟨a, v, hm, hb⟩, Act.bind_some.2 ⟨a, v', hm', hb'⟩, hu⟩

/-- Both programs look at their worlds first, and what follows keeps pace there. -/
theorem look {f : World σ → Act σ α} {f' : World τ → Act τ α}
    (h : ∀ v v', P v v' → Paced lax P (f v) (f' v')) : Paced lax P (get >>= f) (get >>= f') := by
  intro w w' hw
  rcases h w w' hw w w' hw with ⟨hlax, hnone⟩ | ⟨a, v, v', hm, hm', hv⟩
  · exact .inl ⟨hlax, by simp [StateT.run_bind, hnone]⟩
  · exact .inr ⟨a, v, v', Act.bind_some.2 ⟨w, w, Act.get_some.2 ⟨rfl, rfl⟩, hm⟩,
      Act.bind_some.2 ⟨w', w', Act.get_some.2 ⟨rfl, rfl⟩, hm'⟩, hv⟩

theorem forM {f : β → Act σ Unit} {f' : β → Act τ Unit} (h : ∀ x, Paced lax P (f x) (f' x))
    (xs : List β) : Paced lax P (xs.forM f) (xs.forM f') := by
  induction xs with
  | nil => exact pure ()
  | cons x rest ih => exact (h x).bind fun _ => ih

/-- A program that may not give up agrees with its companion. -/
theorem agree {m : Act σ α} {m' : Act τ α} (h : Paced False P m m') {w : World σ} {w' : World τ}
    (hw : P w w') : Agree P m m' w w' := by
  rcases h w w' hw with ⟨hlax, -⟩ | hagree
  · exact hlax.elim
  · exact hagree

end Paced

/-! ## What has to be kept -/

/-- The counters may move, as long as they move alike, and wills may be lost. -/
structure Attuned (P : World σ → World τ → Prop) : Prop where
  defaultExpiry : ∀ {w w'}, P w w' → w'.store.defaultExpiry = w.store.defaultExpiry
  lowerMemory : ∀ {w w'}, P w w' → ∀ n, P (w.lowerMemory n) (w'.lowerMemory n)
  raiseMemory : ∀ {w w'}, P w w' → ∀ n, P (w.raiseMemory n) (w'.raiseMemory n)
  recount : ∀ {w w'}, P w w' → ∀ before after, P (w.recount before after) (w'.recount before after)
  dangled : ∀ {w w'}, P w w' → ∀ ids : List PayloadId,
    P { w with journal := ids.map .dangled ++ w.journal }
      { w' with journal := ids.map .dangled ++ w'.journal }

/-- Both worlds know the same of a client, whose place is in `bucket` of the first and in
`bucket'` of the second, and its records may come and go. -/
structure Alongside (P : World σ → World τ → Prop) (bucket bucket' : Nat) (client : ClientId) :
    Prop where
  known : ∀ {w w'}, P w w' → w'.store.record? bucket' client = w.store.record? bucket client
  file : ∀ {w w'}, P w w' → ∀ r, P (w.file bucket client r) (w'.file bucket' client r)
  erase : ∀ {w w'}, P w w' → P (w.erase bucket client) (w'.erase bucket' client)
  forgotten : ∀ {w w'}, P w w' → ∀ r,
    P (w.note (.forgotten bucket client r)) (w'.note (.forgotten bucket' client r))

/-- Both buckets are open or shut in the same way. `R` relates the worlds while somebody is
inside. -/
structure Door (P R : World σ → World τ → Prop) (bucket bucket' : Nat) : Prop where
  barrier : ∀ {w w'}, P w w' → w'.store.barrier bucket' = w.store.barrier bucket
  enter : ∀ {w w'}, P w w' → R (w.enter bucket) (w'.enter bucket')
  leave : ∀ {w w'}, R w w' → P (w.leave bucket) (w'.leave bucket')

/-- Each call to the first collaborators, whom `serve` answers, comes to the same as that call
to the second ones, whom `serve'` answers, and their clocks show the same. -/
structure Company (lax : Prop) (P : World σ → World τ → Prop) (env : Collaborators σ)
    (env' : Collaborators τ) (serve : Server σ) (serve' : Server τ) : Prop where
  release : ∀ s, Paced lax P (Operation.release env serve s) (Operation.release env' serve' s)
  fetch : ∀ id, Paced lax P (Operation.fetch env serve id) (Operation.fetch env' serve' id)
  announce : ∀ instant client, Paced lax P (Operation.announce env serve instant client)
    (Operation.announce env' serve' instant client)
  now : ∀ {w w'}, P w w' → env'.now w'.outside = env.now w.outside

/-- Both programs write a bucket whose doors are alike. -/
theorem writing_paced {bucket bucket' : Nat} {body : Act σ (Except Refusal α)}
    {body' : Act τ (Except Refusal α)} (hdoor : Door P R bucket bucket')
    (hbody : Paced lax R body body') :
    Paced lax P (writing bucket body) (writing bucket' body') := by
  intro w w' hw
  have hbarrier := hdoor.barrier hw
  cases hb : w.store.barrier bucket with
  | some why =>
    exact .inr ⟨_, w, w', writing_turnedAway hb, writing_turnedAway (hbarrier.trans hb), hw⟩
  | none =>
    rcases hbody _ _ (hdoor.enter hw) with ⟨hlax, hnone⟩ | ⟨a, v, v', hm, hm', hv⟩
    · refine .inl ⟨hlax, Option.eq_none_iff_forall_ne_some.2 ?_⟩
      rintro ⟨r, v⟩ hr
      rcases writing_some hr with ⟨why, hwhy, -⟩ | ⟨-, v', hv', -⟩
      · rw [hb] at hwhy
        cases hwhy
      · rw [hnone] at hv'
        cases hv'
    · exact .inr ⟨a, v.leave bucket, v'.leave bucket', writing_run hb hm,
        writing_run (hbarrier.trans hb) hm', hdoor.leave hv⟩

/-! ## The walk -/

section

open Operation

variable {env : Collaborators σ} {env' : Collaborators τ} {serve : Server σ} {serve' : Server τ}

section

variable (hs : Attuned P)

include hs

theorem lowerMemory_paced (n : UInt64) :
    Paced lax P (modify fun w => w.lowerMemory n) (modify fun w => w.lowerMemory n) :=
  Paced.modify fun _ _ h => hs.lowerMemory h n

theorem recount_paced (before after : Bool) :
    Paced lax P (modify fun w => w.recount before after)
      (modify fun w => w.recount before after) :=
  Paced.modify fun _ _ h => hs.recount h before after

theorem noteDangling_paced (s : Session) (whole : Bool) :
    Paced lax P (noteDangling s whole) (noteDangling s whole) := by
  cases whole with
  | true => exact Paced.pure ()
  | false => exact Paced.modify fun _ _ h => hs.dangled h _

end

section

variable (hc : Company lax P env env' serve serve')

include hc

theorem resolve_paced (s : Session) (r : Resolution) :
    Paced lax P (s.resolveM (fetch env serve) r) (s.resolveM (fetch env' serve') r) := by
  unfold Session.resolveM
  cases s.awaited? with
  | none => exact Paced.pure _
  | some id =>
    apply (hc.fetch id).bind
    intro bytes
    cases bytes with
    | none => exact Paced.pure _
    | some b => exact Paced.pure _

theorem attachPayload_paced (s : Session) :
    Paced lax P (attachPayload env serve s) (attachPayload env' serve' s) :=
  (resolve_paced hc s .attach).bind fun _ => Paced.pure _

theorem dropDangling_paced (hs : Attuned P) (s : Session) :
    Paced lax P (dropDangling env serve s) (dropDangling env' serve' s) := by
  apply (resolve_paced hc s .check).bind
  rintro ⟨kept, whole⟩
  exact (noteDangling_paced hs s whole).bind fun _ => Paced.pure _

theorem willOrNone_paced (s : Session) (sendWill : Bool) :
    Paced lax P (willOrNone env serve s sendWill) (willOrNone env' serve' s sendWill) := by
  cases sendWill with
  | true => exact Paced.pure s
  | false => exact (hc.release s).bind fun _ => Paced.pure _

end

/-! ### Inside a bucket -/

section

variable {bucket bucket' : Nat} {client : ClientId} (hs : Attuned P)
  (ha : Alongside P bucket bucket' client)

include hs ha

theorem keep_paced (fresh : Record) :
    Paced lax P (keep client bucket fresh) (keep client bucket' fresh) :=
  (Paced.modify fun _ _ h => hs.raiseMemory h fresh.weight).bind fun _ =>
    Paced.modify fun _ _ h => ha.file h fresh

theorem fileStranger_paced (stamp : Timestamp) :
    Paced lax P (fileStranger client stamp bucket) (fileStranger client stamp bucket') := by
  apply Paced.look
  intro v v' hv
  rw [hs.defaultExpiry hv]
  exact (recount_paced hs _ _).bind fun _ => (keep_paced hs ha _).bind fun _ => Paced.pure _

variable (hc : Company lax P env env' serve serve')

include hc

theorem replace_paced (fresh : Record) :
    Paced lax P (replace env serve client bucket fresh)
      (replace env' serve' client bucket' fresh) := by
  apply Paced.look
  intro v v' hv
  rw [ha.known hv]
  cases v.store.record? bucket client with
  | none => exact recount_paced hs _ _
  | some old =>
    exact (lowerMemory_paced hs _).bind fun _ =>
      (hc.release old.object).bind fun _ => recount_paced hs _ _

theorem fileKnown_paced (old : Record) (stamp : Timestamp) (sendWill : Bool)
    (expiry : Option Int64) :
    Paced lax P (fileKnown env serve client old stamp sendWill bucket expiry)
      (fileKnown env' serve' client old stamp sendWill bucket' expiry) := by
  apply (lowerMemory_paced hs _).bind
  intro _
  apply (willOrNone_paced hc old.object sendWill).bind
  intro kept
  apply (dropDangling_paced hc hs _).bind
  intro away
  exact (recount_paced hs _ _).bind fun _ => (keep_paced hs ha _).bind fun _ => Paced.pure _

theorem fileDisconnect_paced (stamp : Timestamp) (sendWill : Bool) (expiry : Option Int64) :
    Paced lax P (fileDisconnect env serve client stamp sendWill bucket expiry)
      (fileDisconnect env' serve' client stamp sendWill bucket' expiry) := by
  apply Paced.look
  intro v v' hv
  rw [ha.known hv]
  cases v.store.record? bucket client with
  | none => exact fileStranger_paced hs ha stamp
  | some old => exact fileKnown_paced hs ha hc old stamp sendWill expiry

theorem forget_paced :
    Paced lax P (forget env serve client bucket) (forget env' serve' client bucket') := by
  apply Paced.look
  intro v v' hv
  rw [ha.known hv]
  cases v.store.record? bucket client with
  | none => exact Paced.pure ()
  | some old =>
    exact (Paced.modify fun _ _ h => ha.erase h).bind fun _ => (recount_paced hs _ _).bind
      fun _ => (hc.release old.object).bind fun _ => (lowerMemory_paced hs _).bind
        fun _ => Paced.modify fun _ _ h => ha.forgotten h old

theorem dismiss_paced (r : Record) :
    Paced lax P (dismiss env serve bucket client r) (dismiss env' serve' bucket' client r) :=
  (recount_paced hs _ _).bind fun _ => (hc.release r.object).bind fun _ =>
    (lowerMemory_paced hs _).bind fun _ => (Paced.modify fun _ _ h => ha.erase h).bind
      fun _ => Paced.modify fun _ _ h => ha.forgotten h r

end

/-! ### Through the door -/

section

variable {bucket bucket' : Nat} {client : ClientId} (hdoor : Door P R bucket bucket')
  (hs : Attuned R) (ha : Alongside R bucket bucket' client)
  (hc : Company lax R env env' serve serve')

include hdoor hs ha hc

theorem put_paced (session : Session) (stamp : Timestamp) :
    Paced lax P (put env serve client session stamp bucket)
      (put env' serve' client session stamp bucket') := by
  unfold put
  split
  · exact writing_paced hdoor ((replace_paced hs ha hc _).bind fun _ =>
      (keep_paced hs ha _).bind fun _ => Paced.pure _)
  · exact Paced.pure _

theorem disconnect_paced (stamp : Timestamp) (sendWill : Bool) (expiry : Option Int64) :
    Paced lax P (disconnect env serve client stamp sendWill bucket expiry)
      (disconnect env' serve' client stamp sendWill bucket' expiry) :=
  writing_paced hdoor ((fileDisconnect_paced hs ha hc stamp sendWill expiry).bind
    fun filed => (attachPayload_paced hc filed).bind fun _ => Paced.pure _)

theorem remove_paced :
    Paced lax P (remove env serve client bucket) (remove env' serve' client bucket') :=
  writing_paced hdoor ((forget_paced hs ha hc).bind fun _ => Paced.pure _)

theorem setExpiry_paced (expiry : Int64) :
    Paced lax P (setExpiry env client expiry bucket)
      (setExpiry env' client expiry bucket') := by
  unfold setExpiry
  split
  · exact Paced.pure _
  · apply writing_paced hdoor
    apply Paced.look
    intro v v' hv
    dsimp only
    rw [ha.known hv, hc.now hv]
    cases v.store.record? bucket client with
    | none => exact Paced.pure _
    | some old =>
      dsimp only
      split
      · exact Paced.pure _
      · exact (recount_paced hs _ _).bind fun _ => (lowerMemory_paced hs _).bind fun _ =>
          (keep_paced hs ha _).bind fun _ => Paced.pure _

theorem cancelWill_paced :
    Paced lax P (cancelWill env serve client bucket)
      (cancelWill env' serve' client bucket') := by
  apply writing_paced hdoor
  apply Paced.look
  intro v v' hv
  rw [ha.known hv]
  cases v.store.record? bucket client with
  | none => exact Paced.pure _
  | some old =>
    dsimp only
    split
    · exact Paced.pure _
    · exact (lowerMemory_paced hs _).bind fun _ => (hc.release old.object).bind fun _ =>
        (keep_paced hs ha _).bind fun _ => Paced.pure _

end

/-- A purge needs to know that the same records are over, in the same order. -/
theorem purge_paced {bucket bucket' : Nat} (hdoor : Door P R bucket bucket') (hs : Attuned R)
    (ha : ∀ client, Alongside R bucket bucket' client) (hc : Company lax R env env' serve serve')
    (hover : ∀ {w w'}, R w w' → ∀ now, w'.store.expired bucket' now = w.store.expired bucket now) :
    Paced lax P (purge env serve bucket) (purge env' serve' bucket') := by
  apply writing_paced hdoor
  apply Paced.look
  intro v v' hv
  dsimp only
  rw [hc.now hv, hover hv]
  exact (Paced.forM (fun (x : ClientId × Record) => dismiss_paced hs (ha x.1) hc x.2) _).bind
    fun _ => (Paced.forM (fun (x : ClientId × Record) => hc.announce _ x.1) _).bind
      fun _ => Paced.pure _

/-- A look needs no door, but the bucket has to be there in both worlds or in none. Nobody is
called unless bytes are wanted. -/
theorem find_paced {bucket bucket' : Nat} {client : ClientId}
    (ha : Alongside P bucket bucket' client)
    (hnow : ∀ {w w'}, P w w' → env'.now w'.outside = env.now w.outside)
    (hrange : ∀ {w w'}, P w w' → (bucket' < w'.store.bucketCount ↔ bucket < w.store.bucketCount))
    (hnone : ∀ {w w'}, P w w' → ¬ bucket < w.store.bucketCount →
      w'.store.noSuchBucket bucket' = w.store.noSuchBucket bucket)
    (hideExpired : Bool) {withWill : Bool}
    (hc : withWill = true → Company lax P env env' serve serve') :
    Paced lax P (find env serve client bucket hideExpired withWill)
      (find env' serve' client bucket' hideExpired withWill) := by
  apply Paced.look
  intro v v' hv
  by_cases hlt : bucket < v.store.bucketCount
  · rw [if_pos hlt, if_pos ((hrange hv).2 hlt), ha.known hv, hnow hv]
    cases v.store.record? bucket client with
    | none => exact Paced.pure _
    | some r =>
      dsimp only
      split
      · exact Paced.pure _
      · split
        · rename_i hwith
          exact (attachPayload_paced (hc hwith) _).bind fun _ => Paced.pure _
        · exact Paced.pure _
  · rw [if_neg hlt, if_neg (fun hlt' => hlt ((hrange hv).1 hlt')), hnone hv hlt]
    exact Paced.pure _

/-- Whether a request may call a collaborator. A look that wants no bytes calls nobody. -/
def Request.mayCall : Request → Bool
  | find _ _ _ withWill => withWill
  | _ => true

/-- Wherever the stores are the same but for those who write them, a request keeps pace. -/
theorem carryOut_paced {q : Request} (hdoor : q.isMutation = true → Door P R q.bucket q.bucket)
    (hlook : q.isMutation = false → R = P)
    (hsame : ∀ {w w'}, R w w' → ∃ l, w'.store = { w.store with writing := l }) (hs : Attuned R)
    (ha : ∀ client, Alongside R q.bucket q.bucket client)
    (hnow : ∀ {w w'}, R w w' → env'.now w'.outside = env.now w.outside)
    (hc : q.mayCall = true → Company lax R env env' serve serve') :
    Paced lax P (carryOut env serve q) (carryOut env' serve' q) := by
  cases q with
  | put client session stamp bucket =>
    exact put_paced (hdoor rfl) hs (ha client) (hc rfl) session stamp
  | disconnect client stamp sendWill bucket expiry =>
    exact disconnect_paced (hdoor rfl) hs (ha client) (hc rfl) stamp sendWill expiry
  | remove client bucket => exact remove_paced (hdoor rfl) hs (ha client) (hc rfl)
  | purge bucket =>
    refine purge_paced (hdoor rfl) hs ha (hc rfl) fun h now => ?_
    obtain ⟨l, hl⟩ := hsame h
    rw [hl]
    rfl
  | setExpiry client expiry bucket =>
    exact setExpiry_paced (hdoor rfl) hs (ha client) (hc rfl) expiry
  | cancelWill client bucket => exact cancelWill_paced (hdoor rfl) hs (ha client) (hc rfl)
  | find client bucket hideExpired withWill =>
    obtain rfl := hlook rfl
    refine find_paced (ha client) hnow (fun h => ?_) (fun h _ => ?_) hideExpired hc
    · obtain ⟨l, hl⟩ := hsame h
      rw [hl]
      exact Iff.rfl
    · obtain ⟨l, hl⟩ := hsame h
      rw [hl]
      rfl

/-- Something is done for a request, which is noted before and after. -/
def noted (q : Request) (m : Act σ (Except Refusal α)) : Act σ (Except Refusal α) := do
  modify fun w => w.note (.called q)
  let reply ← m
  modify fun w => w.note (.answered q (refusalOf reply))
  return reply

theorem attend_eq (env : Collaborators σ) (serve : Server σ) (q : Request) :
    attend env serve q = noted q (carryOut env serve q) := rfl

/-- Operations that keep pace still do so when they are attended to. -/
theorem noted_paced {q q' : Request} {m : Act σ (Except Refusal α)} {m' : Act τ (Except Refusal α)}
    (hcalled : ∀ {w w'}, P w w' → P (w.note (.called q)) (w'.note (.called q')))
    (hanswered : ∀ {w w'}, P w w' → ∀ refusal,
      P (w.note (.answered q refusal)) (w'.note (.answered q' refusal)))
    (h : Paced lax P m m') : Paced lax P (noted q m) (noted q' m') :=
  (Paced.modify fun _ _ hw => hcalled hw).bind fun _ => h.bind fun reply =>
    (Paced.modify fun _ _ hw => hanswered hw (refusalOf reply)).bind fun _ => Paced.pure _

end

end BrokerSessions
