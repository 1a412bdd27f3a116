-- The session store as a value, and what can be read off it. Records lie in
-- buckets, by client id. Two counters follow them: how many sessions are live,
-- and how much all records weigh. No read ever recomputes a counter; the two
-- recounts below are there to compare with.
import BrokerSessions.Config
import BrokerSessions.Entry
import BrokerSessions.Expiry
import BrokerSessions.Refusal
import BrokerSessions.Routing
import Std.Data.ExtTreeMap

namespace BrokerSessions

/-- The records of one part of the clients, in the order of their ids. -/
abbrev Bucket := Std.ExtTreeMap ClientId Record

/-- A will that waits for its moment: the seconds from the disconnect until it is
due, and the seconds its client asked for. -/
structure PendingWill where
  delay : Int64
  requestedDelay : Int64
deriving DecidableEq

/-- A part of a bucket. A store in memory always hands out the whole bucket. -/
structure Chunk where
  items : List (ClientId × Session)
  finished : Bool
  lastKey : Option ClientId
  bucket : Nat
deriving DecidableEq

/-- The chunk that is a whole bucket. -/
def Chunk.whole (items : List (ClientId × Session)) (bucket : Nat) : Chunk :=
  { items, finished := true, lastKey := none, bucket }

/-- How a store walks through the records of a bucket when it weeds out those that are
over. A hash map walks through them as it likes, so nothing is promised but that each
record comes up once. -/
structure Walk where
  order : Nat → List (ClientId × Record) → List (ClientId × Record)
  perm : ∀ index rows, (order index rows).Perm rows

/-- The walk in the order of the client ids. -/
def Walk.ascending : Walk where
  order _ rows := rows
  perm _ rows := .refl rows

/-- The session store. `sessions` and `memory` are the two counters, `writing` lists the
buckets that are being written at this moment, the latest first, and `walk` never changes. -/
structure Store where
  defaultExpiry : Int64
  buckets : Array Bucket
  sessions : UInt64 := 0
  memory : UInt64 := 0
  writing : List Nat := []
  walk : Walk := .ascending

/-- Whether the session of a record is over when the clock shows `now`. -/
def Entry.isExpiredAt (r : Record) (now : Timestamp) : Bool :=
  r.object.isExpired (now.millisSince r.stamp)

/-- Whether the client of a record is away but may come back, when the clock shows `now`. -/
def Entry.isInGraceAt (r : Record) (now : Timestamp) : Bool :=
  r.object.isInGrace (now.millisSince r.stamp)

/-- The will of a record that waits to be published: the client is away. The will
is due after its own delay or when the session ends, whichever comes first. -/
def Entry.pendingWill? (r : Record) : Option PendingWill :=
  if r.object.connected then none
  else r.object.will.map fun w =>
    { delay := min w.publication.delay r.object.expiry, requestedDelay := w.publication.delay }

namespace Store

/-- An empty store with usable settings. -/
def ofConfig (c : Config) (walk : Walk := .ascending) : Except ConfigFault Store :=
  c.check.map fun _ =>
    { defaultExpiry := c.defaultExpiry, buckets := Array.replicate c.bucketCount.toNat ∅, walk }

/-! ## Buckets and counters -/

def bucketCount (s : Store) : Nat := s.buckets.size

/-- The bucket to which a client belongs. -/
def bucketOf (s : Store) (client : ClientId) : Nat := Routing.bucketOf client s.bucketCount

/-- The refusal for a bucket that the store does not have. -/
def noSuchBucket (s : Store) (index : Nat) : Refusal :=
  .invalidArgument (.noSuchBucket index s.bucketCount)

/-- The bucket with the given index. -/
def bucket (s : Store) (index : Nat) : Except Refusal Bucket :=
  match s.buckets[index]? with
  | some b => .ok b
  | none => .error (s.noSuchBucket index)

/-- What the store holds for a client in a bucket, tombstones too. -/
def record? (s : Store) (index : Nat) (client : ClientId) : Option Record :=
  s.buckets[index]?.bind fun b => b[client]?

/-- Every record, with its bucket and its client. -/
def records (s : Store) : List (Nat × ClientId × Record) :=
  s.buckets.toList.zipIdx.flatMap fun (b, index) => b.toList.map fun (client, r) => (index, client, r)

/-- How many records there are, tombstones too. -/
def totalEntries (s : Store) : Nat := s.buckets.toList.foldl (fun n b => n + b.size) 0

/-- How many records are live sessions, by a look at each. -/
def recountSessions (s : Store) : Nat := s.records.countP fun (_, _, r) => r.object.isLive

/-- What all records weigh, by a look at each. -/
def reweigh (s : Store) : UInt64 := s.records.foldl (fun n (_, _, r) => n + r.weight) 0

/-- Gives up what is held for a bucket. In memory there is nothing to give up. -/
def closeBucket (s : Store) (index : Nat) : Except Refusal Unit := (s.bucket index).map fun _ => ()

/-! ## Reads -/

/-- When the record of a client was last changed. -/
def stamp? (s : Store) (index : Nat) (client : ClientId) : Except Refusal (Option Timestamp) :=
  (s.bucket index).map fun b => b[client]?.map fun r => r.stamp

/-- All clients of a bucket, those with a tombstone too. -/
def clients (s : Store) (index : Nat) : Except Refusal (List ClientId) :=
  (s.bucket index).map fun b => b.keys

/-- The clients of a bucket that are away but may come back. -/
def disconnectedClients (s : Store) (now : Timestamp) (index : Nat) :
    Except Refusal (List ClientId) :=
  (s.bucket index).map fun b => (b.toList.filter fun (_, r) => r.isInGraceAt now).map Prod.fst

/-- The sessions of a bucket that are not over and whose client is accepted,
without their wills. -/
def chunk (s : Store) (now : Timestamp) (accepts : ClientId → Bool) (index : Nat) :
    Except Refusal Chunk :=
  (s.bucket index).map fun b =>
    .whole ((b.toList.filter fun (client, r) => accepts client && !r.isExpiredAt now).map
      fun (client, r) => (client, r.object.withoutWill)) index

/-- The wills of a bucket that wait to be published. -/
def pendingWills (s : Store) (index : Nat) : Except Refusal (List (ClientId × PendingWill)) :=
  (s.bucket index).map fun b =>
    b.toList.filterMap fun (client, r) => r.pendingWill?.map fun p => (client, p)

/-- The records of a bucket whose sessions are over, in the order of the walk. -/
def expired (s : Store) (index : Nat) (now : Timestamp) : List (ClientId × Record) :=
  (s.buckets[index]?.map fun b =>
    (s.walk.order index b.toList).filter fun (_, r) => r.isExpiredAt now).getD []

/-! ## One bucket changed -/

/-- The store with a record for a client, in place of the one it had. -/
def file (s : Store) (index : Nat) (client : ClientId) (r : Record) : Store :=
  { s with buckets := s.buckets.modify index fun b => b.insert client r }

/-- The store without the record of a client. -/
def erase (s : Store) (index : Nat) (client : ClientId) : Store :=
  { s with buckets := s.buckets.modify index fun b => b.erase client }

@[simp] theorem bucketCount_file (s : Store) (index : Nat) (client : ClientId) (r : Record) :
    (s.file index client r).bucketCount = s.bucketCount := by
  simp [file, bucketCount]

@[simp] theorem bucketCount_erase (s : Store) (index : Nat) (client : ClientId) :
    (s.erase index client).bucketCount = s.bucketCount := by
  simp [erase, bucketCount]

@[simp] theorem writing_erase (s : Store) (index : Nat) (client : ClientId) :
    (s.erase index client).writing = s.writing := rfl

/-- A bucket that the store does not have holds nothing. -/
theorem record?_of_le (s : Store) {index : Nat} (h : s.bucketCount ≤ index) (client : ClientId) :
    s.record? index client = none := by
  unfold bucketCount at h
  simp [record?, h]

theorem lt_of_record? {s : Store} {index : Nat} {client : ClientId} {r : Record}
    (h : s.record? index client = some r) : index < s.bucketCount := by
  rcases Nat.lt_or_ge index s.bucketCount with hlt | hle
  · exact hlt
  · rw [s.record?_of_le hle] at h
    cases h

/-- A record is filed under its bucket and its client, and nowhere else. -/
theorem record?_file (s : Store) (index : Nat) (client : ClientId) (r : Record) (i : Nat)
    (c : ClientId) :
    (s.file index client r).record? i c =
      if index < s.bucketCount ∧ i = index ∧ c = client then some r else s.record? i c := by
  unfold record? file bucketCount
  rw [Array.getElem?_modify]
  by_cases hi : index = i
  · subst hi
    by_cases hb : index < s.buckets.size
    · by_cases hc : client = c
      · simp [hb, hc]
      · have hc' : ¬ c = client := fun h => hc h.symm
        simp [hb, hc, hc', Std.ExtTreeMap.getElem?_insert]
    · simp [hb]
  · have hi' : ¬ i = index := fun h => hi h.symm
    simp [hi, hi']

/-- Erasing takes one record away, and no other. -/
theorem record?_erase (s : Store) (index : Nat) (client : ClientId) (i : Nat) (c : ClientId) :
    (s.erase index client).record? i c =
      if i = index ∧ c = client then none else s.record? i c := by
  unfold record? erase
  rw [Array.getElem?_modify]
  by_cases hi : index = i
  · subst hi
    by_cases hb : index < s.buckets.size
    · by_cases hc : client = c
      · simp [hb, hc]
      · have hc' : ¬ c = client := fun h => hc h.symm
        simp [hb, hc, hc', Std.ExtTreeMap.getElem?_erase]
    · simp [hb]
  · have hi' : ¬ i = index := fun h => hi h.symm
    simp [hi, hi']

end Store

end BrokerSessions
