-- A store among its collaborators. The world holds the store, the state of those
-- outside it, and a journal of all that happened, the latest first. Nothing in
-- the store ever reads the journal. It is there so that the laws can speak of
-- every moment of a run, and not only of its end.
import BrokerSessions.Dialogue

namespace BrokerSessions

/-- The two counters of a store. -/
inductive Gauge where
  | sessions
  | memory
deriving DecidableEq

/-- Something that happened. -/
inductive Mark where
  /-- A request came in. -/
  | called (q : Request)
  /-- A request was granted, or refused for a reason. -/
  | answered (q : Request) (refusal : Option Refusal)
  /-- A bucket got a writer. -/
  | opened (bucket : Nat)
  /-- The writer of a bucket was done. -/
  | closed (bucket : Nat)
  /-- The payload store was asked to take a reference back. -/
  | released (id : PayloadId)
  /-- The payload store was asked for bytes. -/
  | fetched (id : PayloadId)
  /-- The event log was told of a session that ended. -/
  | announced (instant : Timestamp) (client : ClientId)
  /-- A record lost its will at a disconnect, because the payload was gone. -/
  | dangled (id : PayloadId)
  /-- A record went into a bucket, in place of another one or of none. -/
  | filed (bucket : Nat) (client : ClientId) (displaced : Option Record) (fresh : Record)
  /-- A record is gone for good: out of its bucket and off the counters. -/
  | forgotten (bucket : Nat) (client : ClientId) (r : Record)
  /-- A counter that stood at `level` went up. -/
  | raised (gauge : Gauge) (level amount : Nat)
  /-- A counter that stood at `level` went down. -/
  | lowered (gauge : Gauge) (level amount : Nat)
deriving DecidableEq

/-- A store, those outside it, and what happened so far. -/
structure World (σ : Type) where
  store : Store
  outside : σ
  journal : List Mark := []

namespace World

variable {σ : Type}

def note (w : World σ) (m : Mark) : World σ := { w with journal := m :: w.journal }

/-- A bucket gets a writer. -/
def enter (w : World σ) (bucket : Nat) : World σ :=
  { w with store := { w.store with writing := bucket :: w.store.writing } }.note (.opened bucket)

/-- The writer of a bucket is done. -/
def leave (w : World σ) (bucket : Nat) : World σ :=
  { w with store := { w.store with writing := w.store.writing.erase bucket } }.note (.closed bucket)

def raiseMemory (w : World σ) (amount : UInt64) : World σ :=
  { w with store := { w.store with memory := w.store.memory + amount } }.note
    (.raised .memory w.store.memory.toNat amount.toNat)

def lowerMemory (w : World σ) (amount : UInt64) : World σ :=
  { w with store := { w.store with memory := w.store.memory - amount } }.note
    (.lowered .memory w.store.memory.toNat amount.toNat)

/-- The count of live sessions follows one record that was live or not before, and
is live or not after. -/
def recount (w : World σ) (before after : Bool) : World σ :=
  match before, after with
  | false, true =>
    { w with store := { w.store with sessions := w.store.sessions + 1 } }.note
      (.raised .sessions w.store.sessions.toNat 1)
  | true, false =>
    { w with store := { w.store with sessions := w.store.sessions - 1 } }.note
      (.lowered .sessions w.store.sessions.toNat 1)
  | _, _ => w

def file (w : World σ) (bucket : Nat) (client : ClientId) (r : Record) : World σ :=
  { w with store := w.store.file bucket client r }.note
    (.filed bucket client (w.store.record? bucket client) r)

def erase (w : World σ) (bucket : Nat) (client : ClientId) : World σ :=
  { w with store := w.store.erase bucket client }

@[simp] theorem store_note (w : World σ) (m : Mark) : (w.note m).store = w.store := rfl

@[simp] theorem outside_note (w : World σ) (m : Mark) : (w.note m).outside = w.outside := rfl

@[simp] theorem journal_note (w : World σ) (m : Mark) : (w.note m).journal = m :: w.journal := rfl

@[simp] theorem writing_enter (w : World σ) (bucket : Nat) :
    (w.enter bucket).store.writing = bucket :: w.store.writing := rfl

@[simp] theorem store_erase (w : World σ) (bucket : Nat) (client : ClientId) :
    (w.erase bucket client).store = w.store.erase bucket client := rfl

@[simp] theorem writing_lowerMemory (w : World σ) (n : UInt64) :
    (w.lowerMemory n).store.writing = w.store.writing := rfl

@[simp] theorem bucketCount_enter (w : World σ) (bucket : Nat) :
    (w.enter bucket).store.bucketCount = w.store.bucketCount := rfl

@[simp] theorem bucketCount_lowerMemory (w : World σ) (n : UInt64) :
    (w.lowerMemory n).store.bucketCount = w.store.bucketCount := rfl

@[simp] theorem writing_recount (w : World σ) (before after : Bool) :
    (w.recount before after).store.writing = w.store.writing := by
  cases before <;> cases after <;> rfl

@[simp] theorem bucketCount_recount (w : World σ) (before after : Bool) :
    (w.recount before after).store.bucketCount = w.store.bucketCount := by
  cases before <;> cases after <;> rfl

@[simp] theorem outside_recount (w : World σ) (before after : Bool) :
    (w.recount before after).outside = w.outside := by
  cases before <;> cases after <;> rfl

@[simp] theorem buckets_enter (w : World σ) (bucket : Nat) :
    (w.enter bucket).store.buckets = w.store.buckets := rfl

@[simp] theorem buckets_raiseMemory (w : World σ) (n : UInt64) :
    (w.raiseMemory n).store.buckets = w.store.buckets := rfl

@[simp] theorem buckets_lowerMemory (w : World σ) (n : UInt64) :
    (w.lowerMemory n).store.buckets = w.store.buckets := rfl

@[simp] theorem record?_enter (w : World σ) (bucket i : Nat) (c : ClientId) :
    (w.enter bucket).store.record? i c = w.store.record? i c := rfl

@[simp] theorem record?_leave (w : World σ) (bucket i : Nat) (c : ClientId) :
    (w.leave bucket).store.record? i c = w.store.record? i c := rfl

@[simp] theorem record?_raiseMemory (w : World σ) (n : UInt64) (i : Nat) (c : ClientId) :
    (w.raiseMemory n).store.record? i c = w.store.record? i c := rfl

@[simp] theorem record?_lowerMemory (w : World σ) (n : UInt64) (i : Nat) (c : ClientId) :
    (w.lowerMemory n).store.record? i c = w.store.record? i c := rfl

@[simp] theorem record?_recount (w : World σ) (before after : Bool) (i : Nat) (c : ClientId) :
    (w.recount before after).store.record? i c = w.store.record? i c := by
  cases before <;> cases after <;> rfl

end World

/-- A step of a world that gives a value. There is no outcome when calls would
nest deeper than the caller allows. -/
abbrev Act (σ α : Type) := StateT (World σ) Option α

/-- Somebody who answers requests. -/
abbrev Server (σ : Type) := (q : Request) → Act σ q.Reply

/-- A conversation takes place: its requests are answered one after the other. -/
def Dialogue.run {σ α : Type} (serve : Server σ) : Dialogue σ α → Act σ α
  | .done a => pure a
  | .look next => do
    let w ← get
    (next w.store w.outside).run serve
  | .keep own next => do
    modify fun w => { w with outside := own }
    next.run serve
  | .ask q next => do
    let reply ← serve q
    (next reply).run serve

/-- Holds the only writer of a bucket during `body`, and gives it back whatever
comes of it. A bucket that is being written already is refused. -/
def writing {σ α : Type} (bucket : Nat) (body : Act σ (Except Refusal α)) :
    Act σ (Except Refusal α) := do
  let s := (← get).store
  if bucket < s.bucketCount then
    if bucket ∈ s.writing then
      return .error (.preconditionViolated (.alreadyWriting bucket))
    else
      modify fun w => w.enter bucket
      let result ← body
      modify fun w => w.leave bucket
      return result
  else
    return .error (s.noSuchBucket bucket)

end BrokerSessions
