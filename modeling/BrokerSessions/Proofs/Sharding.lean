-- The number of buckets shows nowhere to those who name clients and no buckets. Two stores
-- that differ in it, and of which the same is asked, give the same answers, show the same
-- counters and hold the same clients. A store with one bucket is a plain map, so every
-- store behaves like a plain map.
import BrokerSessions.Proofs.Runs
import BrokerSessions.Proofs.Sweep

namespace BrokerSessions

/-! ## All buckets together -/

namespace Store

variable {α : Type}

/-- What a read gives for all buckets together. -/
def gather (s : Store) (read : Nat → Except Refusal (List α)) : List α :=
  (List.range s.bucketCount).flatMap fun i =>
    match read i with
    | .ok items => items
    | .error _ => []

/-- All clients with their records, whatever their buckets. -/
def shelf (s : Store) : List (ClientId × Record) := s.records.map Prod.snd

/-- Every client lies in its own bucket and in no other. -/
def Routed (s : Store) : Prop := ∀ i c r, s.record? i c = some r → i = s.bucketOf c

theorem flatMap_range_getElem? {β : Type} (g : β → List α) (l : List β) :
    ((List.range l.length).flatMap fun i => (l[i]?.map g).getD []) = l.flatMap g := by
  induction l with
  | nil => rfl
  | cons b rest ih =>
    rw [List.length_cons, List.range_succ_eq_map, List.flatMap_cons, List.flatMap_map,
      List.flatMap_cons, ← ih]
    rfl

theorem gather_bucket (s : Store) (g : Bucket → List α) :
    (s.gather fun i => (s.bucket i).map g) = s.buckets.toList.flatMap g := by
  rw [← flatMap_range_getElem? g s.buckets.toList]
  unfold gather bucketCount
  rw [Array.length_toList]
  apply List.flatMap_congr
  intro i _
  unfold bucket
  rw [Array.getElem?_toList]
  dsimp only
  cases s.buckets[i]? <;> rfl

theorem shelf_eq (s : Store) : s.shelf = s.buckets.toList.flatMap fun b => b.toList := by
  unfold shelf records
  rw [List.map_flatMap]
  have hfst : ∀ x : Bucket × Nat,
      (x.1.toList.map fun y => (x.2, y.1, y.2)).map Prod.snd = x.1.toList := by
    intro x
    rw [List.map_map]
    exact List.map_id _
  calc
    _ = s.buckets.toList.zipIdx.flatMap fun x => x.1.toList :=
      List.flatMap_congr fun x _ => hfst x
    _ = (s.buckets.toList.zipIdx.map Prod.fst).flatMap fun b => b.toList := by rw [List.flatMap_map]
    _ = _ := by rw [List.zipIdx_map_fst]

/-- In a bucket that is there, the time of a client's record is found, if it has one. -/
theorem stamp?_eq (s : Store) {index : Nat} (hlt : index < s.bucketCount) (client : ClientId) :
    s.stamp? index client = .ok ((s.record? index client).map fun r => r.stamp) := by
  unfold bucketCount at hlt
  unfold stamp? bucket record?
  rw [Array.getElem?_eq_getElem hlt]
  rfl

theorem totalEntries_eq (s : Store) : s.totalEntries = s.shelf.length := by
  rw [shelf_eq, List.length_flatMap, List.sum_eq_foldl, List.foldl_map]
  unfold totalEntries
  congr
  funext n b
  rw [b.length_toList]

theorem gather_clients (s : Store) : s.gather s.clients = s.shelf.map Prod.fst := by
  rw [shelf_eq, List.map_flatMap]
  refine (s.gather_bucket _).trans (List.flatMap_congr ?_)
  intro b _
  exact Std.ExtTreeMap.map_fst_toList_eq_keys.symm

theorem gather_disconnectedClients (s : Store) (now : Timestamp) :
    s.gather (s.disconnectedClients now) =
      (s.shelf.filter fun x => x.2.isInGraceAt now).map Prod.fst := by
  rw [shelf_eq, List.filter_flatMap, List.map_flatMap]
  exact s.gather_bucket _

theorem gather_chunk (s : Store) (now : Timestamp) (accepts : ClientId → Bool) :
    (s.gather fun i => (s.chunk now accepts i).map Chunk.items) =
      (s.shelf.filter fun x => accepts x.1 && !x.2.isExpiredAt now).map
        fun x => (x.1, x.2.object.withoutWill) := by
  rw [shelf_eq, List.filter_flatMap, List.map_flatMap, ← s.gather_bucket]
  unfold gather
  apply List.flatMap_congr
  intro i _
  unfold chunk
  dsimp only
  cases s.bucket i <;> rfl

theorem gather_pendingWills (s : Store) :
    s.gather s.pendingWills =
      s.shelf.filterMap fun x => x.2.pendingWill?.map fun p => (x.1, p) := by
  rw [shelf_eq, List.filterMap_flatMap]
  exact s.gather_bucket _

end Store

/-! ## Twins show the same -/

theorem Twins.mem_shelf {s : Store} {n : Nat}
    (hrouted : ∀ i c r, s.record? i c = some r → i = Routing.bucketOf c n)
    {x : ClientId × Record} :
    x ∈ s.shelf ↔ s.record? (Routing.bucketOf x.1 n) x.1 = some x.2 := by
  unfold Store.shelf
  rw [List.mem_map]
  constructor
  · rintro ⟨⟨i, c, r⟩, hm, rfl⟩
    have hr := Store.mem_records.1 hm
    rw [← hrouted i c r hr]
    exact hr
  · intro hr
    exact ⟨_, Store.mem_records.2 hr, rfl⟩

theorem Twins.nodup_shelf {s : Store} {n : Nat}
    (hrouted : ∀ i c r, s.record? i c = some r → i = Routing.bucketOf c n) : s.shelf.Nodup := by
  apply s.nodup_records.map_on
  rintro ⟨i, c, r⟩ hx ⟨j, d, r'⟩ hy heq
  obtain ⟨rfl, rfl⟩ := Prod.mk.inj heq
  rw [hrouted i c r (Store.mem_records.1 hx), hrouted j c r (Store.mem_records.1 hy)]

theorem Twins.shelf {n n' : Nat} {l l' : List Nat} {w w' : World Backdrop}
    (h : Twins n n' l l' w w') :
    w'.store.shelf.Perm w.store.shelf := by
  apply (List.perm_ext_iff_of_nodup (Twins.nodup_shelf h.routed') (Twins.nodup_shelf h.routed)).2
  intro x
  rw [Twins.mem_shelf h.routed', Twins.mem_shelf h.routed, h.held x.1]

/-- Two worlds that look alike to those who see all buckets together. -/
structure Alike (w w' : World Backdrop) : Prop where
  sessions : w'.store.sessions = w.store.sessions
  memory : w'.store.memory = w.store.memory
  totalEntries : w'.store.totalEntries = w.store.totalEntries
  ledger : w'.outside.ledger = w.outside.ledger
  events : w'.outside.events.Perm w.outside.events
  clients : (w'.store.gather w'.store.clients).Perm (w.store.gather w.store.clients)
  disconnected : ∀ now, (w'.store.gather (w'.store.disconnectedClients now)).Perm
    (w.store.gather (w.store.disconnectedClients now))
  chunks : ∀ now accepts,
    (w'.store.gather fun i => (w'.store.chunk now accepts i).map Chunk.items).Perm
      (w.store.gather fun i => (w.store.chunk now accepts i).map Chunk.items)
  pending : (w'.store.gather w'.store.pendingWills).Perm (w.store.gather w.store.pendingWills)

theorem Twins.alike {n n' : Nat} {l l' : List Nat} {w w' : World Backdrop}
    (h : Twins n n' l l' w w') : Alike w w' where
  sessions := h.sessions
  memory := h.memory
  totalEntries := by
    rw [Store.totalEntries_eq, Store.totalEntries_eq]
    exact h.shelf.length_eq
  ledger := h.ledger
  events := h.events
  clients := by
    rw [Store.gather_clients, Store.gather_clients]
    exact h.shelf.map _
  disconnected now := by
    rw [Store.gather_disconnectedClients, Store.gather_disconnectedClients]
    exact (h.shelf.filter _).map _
  chunks now accepts := by
    rw [Store.gather_chunk, Store.gather_chunk]
    exact (h.shelf.filter _).map _
  pending := by
    rw [Store.gather_pendingWills, Store.gather_pendingWills]
    exact h.shelf.filterMap _

/-! ## Requests by client -/

/-- What can be asked about a client without naming a bucket. -/
inductive ById where
  | put (client : ClientId) (session : Session) (stamp : Timestamp)
  | disconnect (client : ClientId) (stamp : Timestamp) (sendWill : Bool) (expiry : Option Int64)
  | remove (client : ClientId)
  | setExpiry (client : ClientId) (expiry : Int64)
  | cancelWill (client : ClientId)
  | find (client : ClientId)
  | stampOf (client : ClientId)

namespace ById

/-- What is given when it is granted. -/
def Result : ById → Type
  | put .. => Unit
  | disconnect .. => Session
  | remove _ => Unit
  | setExpiry .. => Unit
  | cancelWill _ => Option Record
  | find _ => Option Session
  | stampOf _ => Option Timestamp

/-- The conversation that asks it. -/
def talk {σ : Type} : (q : ById) → Dialogue σ (Except Refusal q.Result)
  | put client session stamp => Dialogue.putById client session stamp
  | disconnect client stamp sendWill expiry => Dialogue.disconnectById client stamp sendWill expiry
  | remove client => Dialogue.removeById client
  | setExpiry client expiry => Dialogue.setExpiryById client expiry
  | cancelWill client => Dialogue.cancelWillById client
  | find client => Dialogue.findById client
  | stampOf client => Dialogue.stampById client

/-- The client that a request names. -/
def client : ById → ClientId
  | put c .. => c
  | disconnect c .. => c
  | remove c => c
  | setExpiry c _ => c
  | cancelWill c => c
  | find c => c
  | stampOf c => c

/-- The request with the bucket of its client among `n`. The time of a record is only read off. -/
def request? (n : Nat) : ById → Option Request
  | put c session stamp => some (.put c session stamp (Routing.bucketOf c n))
  | disconnect c stamp sendWill expiry =>
    some (.disconnect c stamp sendWill (Routing.bucketOf c n) expiry)
  | remove c => some (.remove c (Routing.bucketOf c n))
  | setExpiry c expiry => some (.setExpiry c expiry (Routing.bucketOf c n))
  | cancelWill c => some (.cancelWill c (Routing.bucketOf c n))
  | find c => some (.find c (Routing.bucketOf c n) true true)
  | stampOf _ => none

section

variable {q : ById} {n : Nat} {p : Request}

theorem bucket_request? (h : q.request? n = some p) : p.bucket = Routing.bucketOf q.client n := by
  cases q <;> cases h <;> rfl

theorem result_request? (h : q.request? n = some p) : p.Result = q.Result := by
  cases q <;> cases h <;> rfl

/-- The answer to the request with the bucket, as an answer to the one without it. -/
def reply (h : q.request? n = some p) : p.Reply → Except Refusal q.Result :=
  cast (congrArg (Except Refusal) (result_request? h))

theorem refusalOf_reply (h : q.request? n = some p) (r : p.Reply) :
    refusalOf (q.reply h r) = refusalOf r := by
  cases q <;> cases h <;> rfl

variable {σ : Type} {env : Collaborators σ} {depth : Nat} {w : World σ}

/-- Who names no bucket asks the request with the bucket of the client. -/
theorem run_talk (h : q.request? w.store.bucketCount = some p) :
    (converse env depth q.talk).run w =
      ((perform env depth p).run w).map fun (r, v) => (q.reply h r, v) := by
  have hask : ∀ {α : Type} (m : Act σ α),
      (m >>= pure).run w = (m.run w).map fun (r, v) => (r, v) := by
    intro α m
    rw [bind_pure]
    exact Option.map_id'.symm
  cases q with
  | stampOf => cases h
  | _ =>
    cases h
    exact hask _

theorem run_talk_some (h : q.request? w.store.bucketCount = some p) {r : p.Reply} {w' : World σ}
    (hr : (perform env depth p).run w = some (r, w')) :
    (converse env depth q.talk).run w = some (q.reply h r, w') := by
  rw [run_talk h, hr]
  rfl

/-- The time of a record is read off, and nothing happens. -/
theorem run_stampOf (env : Collaborators σ) (depth : Nat) (c : ClientId) (w : World σ) :
    (converse env depth (stampOf c).talk).run w =
      some (w.store.stamp? (w.store.bucketOf c) c, w) := rfl

/-- Where nothing is asked, nothing happens. -/
theorem run_talk_none (env : Collaborators σ) (depth : Nat)
    (h : q.request? w.store.bucketCount = none) :
    ∃ r, (converse env depth q.talk).run w = some (r, w) := by
  cases q with
  | stampOf c => exact ⟨_, run_stampOf env depth c w⟩
  | _ => cases h

theorem eq_stampOf (h : q.request? n = none) : q = .stampOf q.client := by
  cases q with
  | stampOf => rfl
  | _ => cases h

end

end ById

/-! ## Nobody is sent to a bucket that is not there -/

/-- An answer that names a bucket which the store does not have. -/
def Refusal.isNoSuchBucket : Refusal → Bool
  | .invalidArgument (.noSuchBucket _ _) => true
  | _ => false

theorem objection_inRange {s : Store} {q : Request} (hlt : q.bucket < s.bucketCount) {why : Refusal}
    (h : s.objection q = some why) : why.isNoSuchBucket = false := by
  have hbarrier : ∀ why', s.barrier q.bucket = some why' → why'.isNoSuchBucket = false := by
    intro why' h'
    unfold Store.barrier at h'
    rw [if_pos hlt] at h'
    split at h'
    · cases h'
      rfl
    · cases h'
  unfold Store.objection at h
  split at h
  · split at h
    · exact hbarrier why h
    · cases h
      rfl
  · split at h
    · cases h
      rfl
    · exact hbarrier why h
  · rename_i bucket _ _
    rw [if_pos (show bucket < s.bucketCount from hlt)] at h
    cases h
  · exact hbarrier why h

theorem course_inRange {σ : Type} {env : Collaborators σ} {serve : Server σ} {q : Request}
    {w w' : World σ} {reply : q.Reply} (hlt : q.bucket < w.store.bucketCount)
    (h : Course env serve q w reply w') (why : Refusal) (hwhy : refusalOf reply = some why) :
    why.isNoSuchBucket = false := by
  cases h with
  | turnedAway hdoor =>
    cases hwhy
    exact objection_inRange hlt hdoor
  | noSession =>
    cases hwhy
    rfl
  | _ => cases hwhy

theorem perform_inRange {σ : Type} {env : Collaborators σ} {depth : Nat} {q : Request}
    {w w' : World σ} {reply : q.Reply} (hlt : q.bucket < w.store.bucketCount)
    (h : (perform env depth q).run w = some (reply, w')) (why : Refusal)
    (hwhy : refusalOf reply = some why) : why.isNoSuchBucket = false := by
  cases depth with
  | zero => cases h
  | succ depth =>
    obtain ⟨w₁, hc, -⟩ := attend_course h
    exact course_inRange (w := w.note (.called q)) hlt hc why hwhy

/-! ## Side by side -/

section

open Operation

variable {n n' : Nat} {w w' : World Backdrop}

/-- The request of a client comes to the same in both stores. -/
theorem ById.attend_paced {q : ById} {p p' : Request} (hp : q.request? n = some p)
    (hp' : q.request? n' = some p') (serve serve' : Server Backdrop) :
    Paced False (Twins n n' [] [])
      (do return q.reply hp (← attend .quiet serve p))
      (do return q.reply hp' (← attend .quiet serve' p')) := by
  have hdoor : Door (Twins n n' [] []) _ _ _ := Twins.door q.client
  have halong : Alongside
      (Twins n n' [Routing.bucketOf q.client n] [Routing.bucketOf q.client n']) _ _ q.client :=
    Twins.alongside q.client
  have hdone : ∀ {α β : Type} {r r' : Request} {m m' : Act Backdrop (Except Refusal α)}
      (f : Except Refusal α → β), Paced False (Twins n n' [] []) m m' →
        Paced False (Twins n n' [] []) (do return f (← noted r m)) (do return f (← noted r' m')) :=
    fun f hm => (noted_paced (fun h => h.note _ _) (fun h _ => h.note _ _) hm).bind
      fun _ => Paced.pure _
  cases q with
  | put client session stamp =>
    cases hp
    cases hp'
    exact hdone _ (put_paced hdoor Twins.attuned halong (Twins.company _ _) session stamp)
  | disconnect client stamp sendWill expiry =>
    cases hp
    cases hp'
    exact hdone _ (disconnect_paced hdoor Twins.attuned halong (Twins.company _ _) stamp sendWill
      expiry)
  | remove client =>
    cases hp
    cases hp'
    exact hdone _ (remove_paced hdoor Twins.attuned halong (Twins.company _ _))
  | setExpiry client expiry =>
    cases hp
    cases hp'
    exact hdone _ (setExpiry_paced hdoor Twins.attuned halong (Twins.company serve serve') expiry)
  | cancelWill client =>
    cases hp
    cases hp'
    exact hdone _ (cancelWill_paced hdoor Twins.attuned halong (Twins.company _ _))
  | find client =>
    cases hp
    cases hp'
    exact hdone _ (find_paced (Twins.alongside client) (fun h => h.clock)
      (fun h => iff_of_true (h.range client).2 (h.range client).1)
      (fun h hle => absurd (h.range client).1 hle) true fun _ => Twins.company _ _)
  | stampOf client => cases hp

/-- Whatever is asked by client, both stores answer alike, and nobody is sent to a bucket that is
not there. -/
theorem ById.agree (h : Twins n n' [] [] w w') (depth depth' : Nat) (q : ById) :
    ∃ reply v v', (converse .quiet (depth + 1) q.talk).run w = some (reply, v) ∧
      (converse .quiet (depth' + 1) q.talk).run w' = some (reply, v') ∧ Twins n n' [] [] v v' ∧
        ∀ why, refusalOf reply = some why → why.isNoSuchBucket = false := by
  obtain rfl := h.count
  obtain rfl := h.count'
  cases hp : q.request? w.store.bucketCount with
  | none =>
    have hstamp := w.store.stamp?_eq (h.range q.client).1 q.client
    have hstamp' := w'.store.stamp?_eq (h.range q.client).2 q.client
    rw [h.held q.client, ← hstamp] at hstamp'
    rw [q.eq_stampOf hp]
    refine ⟨_, w, w', run_stampOf .quiet _ q.client w, ?_, h, ?_⟩
    · rw [run_stampOf]
      exact congrArg (fun t => some (t, w')) hstamp'
    · intro why hwhy
      rw [Store.bucketOf, hstamp] at hwhy
      cases hwhy
  | some p =>
    obtain ⟨p', hp'⟩ : ∃ p', q.request? w'.store.bucketCount = some p' := by
      cases q <;> cases hp <;> exact ⟨_, rfl⟩
    obtain ⟨reply, v, v', hv, hv', ht⟩ :=
      (ById.attend_paced hp hp' (perform .quiet depth) (perform .quiet depth')).agree h
    obtain ⟨r, hr, rfl⟩ := Act.bind_pure_some.1 hv
    obtain ⟨r', hr', hreply⟩ := Act.bind_pure_some.1 hv'
    refine ⟨_, v, v', q.run_talk_some hp hr, hreply ▸ q.run_talk_some hp' hr', ht, ?_⟩
    intro why hwhy
    rw [q.refusalOf_reply] at hwhy
    have hlt : p.bucket < w.store.bucketCount := q.bucket_request? hp ▸ (h.range q.client).1
    have hdone : (perform .quiet (depth + 1) p).run w = some (r, v) := hr
    exact perform_inRange hlt hdone why hwhy

end

/-! ## Any number of buckets -/

/-- Two runs side by side. They begin with empty stores whose settings agree but for the
number of buckets. The same is asked of both, and the same happens outside. -/
inductive Lockstep (c : Config) (buckets : UInt64) : World Backdrop → World Backdrop → Prop where
  | start {walk walk' : Walk} {s s' : Store} (own : Backdrop) (h : Store.ofConfig c walk = .ok s)
      (h' : Store.ofConfig { c with bucketCount := buckets } walk' = .ok s') :
      Lockstep c buckets { store := s, outside := own } { store := s', outside := own }
  | asked {q : ById} {depth depth' : Nat} {reply reply' : Except Refusal q.Result}
      {w w' v v' : World Backdrop} (before : Lockstep c buckets w w')
      (h : (converse .quiet (depth + 1) q.talk).run w = some (reply, v))
      (h' : (converse .quiet (depth' + 1) q.talk).run w' = some (reply', v')) :
      Lockstep c buckets v v'
  | swept {depth depth' removed removed' : Nat} {w w' v v' : World Backdrop}
      (before : Lockstep c buckets w w')
      (h : (converse .quiet (depth + 1) Dialogue.sweep).run w = some (removed, v))
      (h' : (converse .quiet (depth' + 1) Dialogue.sweep).run w' = some (removed', v')) :
      Lockstep c buckets v v'
  /-- The payload ledger changes, and the clock is moved. -/
  | outside {w w' : World Backdrop} (f : PayloadLedger → PayloadLedger) (clock : Timestamp)
      (before : Lockstep c buckets w w') :
      Lockstep c buckets
        { w with outside := { w.outside with ledger := f w.outside.ledger, clock } }
        { w' with outside := { w'.outside with ledger := f w'.outside.ledger, clock } }

/-- Empty stores are twins. -/
theorem Twins.start {c : Config} {buckets : UInt64} {walk walk' : Walk} {s s' : Store}
    (own : Backdrop) (h : Store.ofConfig c walk = .ok s)
    (h' : Store.ofConfig { c with bucketCount := buckets } walk' = .ok s') :
    Twins s.bucketCount s'.bucketCount [] [] { store := s, outside := own }
      { store := s', outside := own } where
  pos := Store.bucketCount_pos_of_ofConfig h
  pos' := Store.bucketCount_pos_of_ofConfig h'
  writing := Store.writing_of_ofConfig h
  writing' := Store.writing_of_ofConfig h'
  count := rfl
  count' := rfl
  routed i c r hr := by
    rw [Store.record?_of_ofConfig h] at hr
    cases hr
  routed' i c r hr := by
    rw [Store.record?_of_ofConfig h'] at hr
    cases hr
  held client := by rw [Store.record?_of_ofConfig h, Store.record?_of_ofConfig h']
  sessions := by
    obtain ⟨-, rfl⟩ := Store.ofConfig_ok h
    obtain ⟨-, rfl⟩ := Store.ofConfig_ok h'
    rfl
  memory := by
    obtain ⟨-, rfl⟩ := Store.ofConfig_ok h
    obtain ⟨-, rfl⟩ := Store.ofConfig_ok h'
    rfl
  defaultExpiry := by
    obtain ⟨-, rfl⟩ := Store.ofConfig_ok h
    obtain ⟨-, rfl⟩ := Store.ofConfig_ok h'
    rfl
  ledger := rfl
  clock := rfl
  events := List.Perm.refl _

theorem Lockstep.twins {c : Config} {buckets : UInt64} {w w' : World Backdrop}
    (h : Lockstep c buckets w w') : ∃ n n', Twins n n' [] [] w w' := by
  induction h with
  | start own h h' => exact ⟨_, _, Twins.start own h h'⟩
  | @asked q depth depth' _ _ _ _ _ _ _ h h' ih =>
    obtain ⟨n, n', ih⟩ := ih
    obtain ⟨reply, v, v', hv, hv', ht, -⟩ := ById.agree ih depth depth' q
    rw [h] at hv
    rw [h'] at hv'
    cases hv
    cases hv'
    exact ⟨n, n', ht⟩
  | @swept depth depth' _ _ _ _ _ _ _ h h' ih =>
    obtain ⟨n, n', ih⟩ := ih
    obtain ⟨removed, v, v', hv, hv', ht⟩ := sweep_agree ih depth depth'
    rw [h] at hv
    rw [h'] at hv'
    cases hv
    cases hv'
    exact ⟨n, n', ht⟩
  | outside f clock before ih =>
    obtain ⟨n, n', ih⟩ := ih
    exact ⟨n, n', ih.outside (congrArg f ih.ledger) rfl ih.events⟩

end BrokerSessions
