-- Whole runs of a store, written down beforehand. A scenario says how the store
-- is set up, which steps are taken one after the other, and which steps the
-- collaborators take when the store calls them. The report says what each step
-- gave, what the counters showed after it, and what the collaborators found.
import BrokerSessions.Backdrop
import BrokerSessions.ClientFilter
import BrokerSessions.Operation
import BrokerSessions.Summary
import BrokerSessions.Sweeper

namespace BrokerSessions.Rehearsal

/-- One step of a run. Where a bucket may be left out, the client decides. -/
inductive Step where
  | addPayload (bytes : Bytes)
  | retain (id : PayloadId)
  | discard (id : PayloadId)
  | references (id : PayloadId)
  | payload (id : PayloadId)
  | setClock (millis : Int64)
  | advanceClock (millis : Int64)
  | counters
  | recount
  | bucketOf (client : ClientId)
  | closeBucket (bucket : Nat)
  | summarize
  | inspect (bucket : Nat) (client : ClientId)
  | find (client : ClientId) (bucket : Nat) (hideExpired withWill : Bool)
  | findById (client : ClientId)
  | stamp (client : ClientId) (bucket : Option Nat)
  | clients (bucket : Nat)
  | disconnected (bucket : Nat)
  | chunk (bucket : Nat) (filter : ClientFilter) (lastKey : Option ClientId)
      (maxMemory : Option Nat)
  | pendingWills (bucket : Nat)
  | put (client : ClientId) (session : Session) (stamp : Timestamp) (bucket : Option Nat)
  | disconnect (client : ClientId) (stamp : Timestamp) (sendWill : Bool) (expiry : Option Int64)
      (bucket : Option Nat)
  | remove (client : ClientId) (bucket : Option Nat)
  | purge (bucket : Nat)
  | sweep
  | setExpiry (client : ClientId) (expiry : Int64) (bucket : Option Nat)
  | cancelWill (client : ClientId) (bucket : Option Nat)
  | clean (sweeper : Sweeper) (stopFirst : Bool)
deriving DecidableEq

/-- What a step gives when it is granted. -/
inductive Finding where
  | nothing
  | number (n : Int)
  | pair (a b : Nat)
  | payload (bytes : Option Bytes)
  | texts (line block : String)
  | shelf (size : Nat) (record : Option Record)
  | session (s : Option Session)
  | record (r : Option Record)
  | stamp (t : Option Timestamp)
  | clients (ids : List ClientId)
  | chunk (c : Chunk)
  | pendingWills (wills : List (ClientId × PendingWill))
  | sweeper (before after : Sweeper)

/-- What a step gives, or why it was refused. -/
abbrev Outcome : Type := Except Refusal Finding

/-- The moments at which the store calls a collaborator. -/
inductive Occasion where
  | release
  | fetch
  | announce
deriving DecidableEq

/-- Steps that a collaborator takes before it returns, in its first `times` calls
or in all of them. -/
structure Hook where
  steps : List Step
  times : Option Int := none

/-- Whether a hook acts in a call, when `started` calls came before. -/
def Hook.isDue (h : Hook) (started : Nat) : Bool :=
  match h.times with
  | some n => started < n
  | none => true

/-- The hooks of the collaborators. -/
structure Hooks where
  onRelease : Option Hook := none
  onFetch : Option Hook := none
  onAnnounce : Option Hook := none

def Hooks.at (h : Hooks) : Occasion → Option Hook
  | .release => h.onRelease
  | .fetch => h.onFetch
  | .announce => h.onAnnounce

/-- How often each collaborator met its hook. -/
structure HookCounts where
  release : Nat := 0
  fetch : Nat := 0
  announce : Nat := 0

def HookCounts.at (c : HookCounts) : Occasion → Nat
  | .release => c.release
  | .fetch => c.fetch
  | .announce => c.announce

/-- One more call met its hook. -/
def HookCounts.add (c : HookCounts) : Occasion → HookCounts
  | .release => { c with release := c.release + 1 }
  | .fetch => { c with fetch := c.fetch + 1 }
  | .announce => { c with announce := c.announce + 1 }

/-- What a collaborator found in one call. -/
structure HookReport where
  occasion : Occasion
  outcomes : List Outcome

/-- The state outside the store in a run. With a `wall` clock the store reads that
clock and has no event log. `started` counts the calls that met a hook, and
`reports` are those of the step at hand, the latest first. -/
structure Stage where
  backdrop : Backdrop
  wall : Option Timestamp := none
  started : HookCounts := {}
  reports : List HookReport := []

namespace Stage

def withLedger (s : Stage) (l : PayloadLedger) : Stage :=
  { s with backdrop := { s.backdrop with ledger := l } }

def withClock (s : Stage) (t : Timestamp) : Stage :=
  { s with backdrop := { s.backdrop with clock := t } }

/-- The time that the store reads. -/
def now (s : Stage) : Timestamp := s.wall.getD s.backdrop.clock

def begin (s : Stage) (o : Occasion) : Stage :=
  { s with started := s.started.add o }

end Stage

/-! ## Steps as conversations -/

open Dialogue

/-- The bucket that a step names, or else the one to which the client belongs. -/
def bucketOr (bucket : Option Nat) (client : ClientId) : Dialogue Stage Nat := do
  return bucket.getD ((← store).bucketOf client)

/-- A look at the store. -/
def look (f : Store → Timestamp → Except Refusal Finding) : Dialogue Stage Outcome := do
  return f (← store) (← own).now

/-- A look at the payload ledger. -/
def lookLedger (f : PayloadLedger → Finding) : Dialogue Stage Outcome := do
  return .ok (f (← own).backdrop.ledger)

/-- A change of the payload ledger. -/
def changeLedger (f : PayloadLedger → PayloadLedger) : Dialogue Stage Outcome := do
  change fun s => s.withLedger (f s.backdrop.ledger)
  return .ok .nothing

/-- A move of the clock. -/
def moveClock (f : Int64 → Int64) : Dialogue Stage Outcome := do
  let millis := f (← own).backdrop.clock.millis
  change fun s => s.withClock ⟨millis⟩
  return .ok (.number millis.toInt)

/-- What a step does, and what it gives. A clock that is advanced wraps around. -/
def Step.play : Step → Dialogue Stage Outcome
  | addPayload bytes => do
    let (id, ledger) := (← own).backdrop.ledger.add bytes
    change fun s => s.withLedger ledger
    return .ok (.number id.toNat)
  | retain id => changeLedger fun l => l.retain id
  | discard id => changeLedger fun l => l.discard id
  | references id => lookLedger fun l => .number (l.references id)
  | payload id => lookLedger fun l => .payload (l.bytes? id)
  | setClock millis => moveClock fun _ => millis
  | advanceClock millis => moveClock fun now => now + millis
  | counters => look fun s _ => .ok (.pair s.sessions.toNat s.memory.toNat)
  | recount => look fun s _ => .ok (.pair s.recountSessions s.reweigh.toNat)
  | bucketOf client => look fun s _ => .ok (.number (s.bucketOf client))
  | closeBucket bucket => look fun s _ => (s.closeBucket bucket).map fun _ => .nothing
  | summarize => look fun s _ => .ok (.texts s.summary.line s.summary.block)
  | inspect bucket client => look fun s _ =>
    (s.bucket bucket).map fun b => .shelf b.size b[client]?
  | find client bucket hideExpired withWill => do
    return (← request (.find client bucket hideExpired withWill)).map .session
  | findById client => do
    return (← Dialogue.findById client).map .session
  | stamp client bucket => do
    let bucket ← bucketOr bucket client
    look fun s _ => (s.stamp? bucket client).map .stamp
  | clients bucket => look fun s _ => (s.clients bucket).map .clients
  | disconnected bucket => look fun s now => (s.disconnectedClients now bucket).map .clients
  | chunk bucket filter _ _ => look fun s now => (s.chunk now filter.accepts bucket).map .chunk
  | pendingWills bucket => look fun s _ => (s.pendingWills bucket).map .pendingWills
  | put client session time bucket => do
    let bucket ← bucketOr bucket client
    return (← request (.put client session time bucket)).map fun _ => .nothing
  | disconnect client time sendWill expiry bucket => do
    let bucket ← bucketOr bucket client
    return (← request (.disconnect client time sendWill bucket expiry)).map
      fun s => .session (some s)
  | remove client bucket => do
    let bucket ← bucketOr bucket client
    return (← request (.remove client bucket)).map fun _ => .nothing
  | purge bucket => do
    return (← request (.purge bucket)).map .clients
  | sweep => do
    return .ok (.number (← Dialogue.sweep))
  | setExpiry client expiry bucket => do
    let bucket ← bucketOr bucket client
    return (← request (.setExpiry client expiry bucket)).map fun _ => .nothing
  | cancelWill client bucket => do
    let bucket ← bucketOr bucket client
    return (← request (.cancelWill client bucket)).map .record
  | clean sweeper stopFirst => do
    let started := if stopFirst then sweeper.stop else sweeper
    let _ ← started.round
    return .ok (.sweeper sweeper started.stop)

/-! ## Collaborators with hooks -/

/-- Some steps, one after the other. The outcomes follow those that are there
already, the latest first. -/
def playAll (outcomes : List Outcome) : List Step → Dialogue Stage (List Outcome)
  | [] => pure outcomes.reverse
  | step :: rest => do
    let outcome ← step.play
    playAll (outcome :: outcomes) rest

/-- A collaborator was called: its hook acts if it is due. A call counts when it
starts, and it is reported when it ends. -/
def playHook (hooks : Hooks) (o : Occasion) : Dialogue Stage Unit :=
  match hooks.at o with
  | some hook => do
    let started := (← own).started.at o
    change fun s => s.begin o
    if hook.isDue started then
      let outcomes ← playAll [] hook.steps
      change fun s => { s with reports := { occasion := o, outcomes } :: s.reports }
  | none => pure ()

/-- Collaborators that do their own work first and then play their hooks. -/
def scripted (hooks : Hooks) : Collaborators Stage where
  release id := do
    change fun s => { s with backdrop := s.backdrop.release id }
    playHook hooks .release
  fetch id := do
    let bytes := (← own).backdrop.ledger.bytes? id
    playHook hooks .fetch
    return bytes
  announce instant client := do
    match (← own).wall with
    | some _ => pure ()
    | none =>
      change fun s => { s with backdrop := s.backdrop.announce instant client }
      playHook hooks .announce
  now s := s.now

/-! ## Runs -/

/-- How a run is set up, and its steps. -/
structure Scenario where
  config : Config := {}
  start : Timestamp := ⟨1000⟩
  wall : Option Timestamp := none
  hooks : Hooks := {}
  steps : List Step

/-- What a step gave, what the counters of the store and of the ledger showed after
it, the sessions that ended, by client and then by time, and the hooks in the order
in which they ended. -/
structure StepReport where
  outcome : Outcome
  sessions : Nat
  memory : Nat
  entries : Nat
  releases : Nat
  outstanding : Int
  events : List (Timestamp × ClientId)
  hooks : List HookReport

/-- What a run gave, and what the store held at its end. -/
structure RunReport where
  bucketCount : Nat
  steps : List StepReport
  records : List (Nat × ClientId × Record)
  recount : Nat
  reweigh : Nat

/-- The order of events in a report: by client, and for one client by time. -/
def eventLE (a b : Timestamp × ClientId) : Bool :=
  if a.2 = b.2 then a.1 ≤ b.1 else a.2 < b.2

/-- One step of a run and what it gave. -/
def playStep (env : Collaborators Stage) (depth : Nat) (step : Step) : Act Stage StepReport := do
  modify fun w => { w with outside := { w.outside with reports := [] } }
  let earlier := (← get).outside.backdrop.events.length
  let outcome ← converse env depth step.play
  let w ← get
  let b := w.outside.backdrop
  return {
    outcome
    sessions := w.store.sessions.toNat
    memory := w.store.memory.toNat
    entries := w.store.totalEntries
    releases := b.ledger.releases
    outstanding := b.ledger.outstanding
    events := (b.events.take (b.events.length - earlier)).mergeSort eventLE
    hooks := w.outside.reports.reverse }

namespace Scenario

/-- How deep requests may nest in a run. Changes of buckets nest no deeper than there
are buckets. But a look for a session may lead to another look, and so on for as long
as a hook asks, so the settings give no limit. This one is more than a run has room
for. -/
def depth : Nat := 4294967296

/-- The run of a scenario. There is none when the settings are unusable, and no
report when requests nest too deep. -/
def run (s : Scenario) : Except ConfigFault (Option RunReport) :=
  (Store.ofConfig s.config).map fun store =>
    let world : World Stage :=
      { store, outside := { backdrop := { clock := s.start }, wall := s.wall } }
    ((s.steps.mapM (playStep (scripted s.hooks) depth)).run world).map fun (steps, w) =>
      { bucketCount := w.store.bucketCount
        steps
        records := w.store.records
        recount := w.store.recountSessions
        reweigh := w.store.reweigh.toNat }

end Scenario

end BrokerSessions.Rehearsal
