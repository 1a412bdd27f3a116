-- How long sessions live. A connected client keeps its session whatever the clock shows.
-- One that is away keeps it until its interval is over, in exact numbers, however the clock
-- jumps, and the first purge after that takes it away and tells the event log when it ended.
import BrokerSessions.Proofs.Deadlines
import BrokerSessions.Proofs.Fates
import BrokerSessions.Proofs.Runs

namespace BrokerSessions

variable {σ α : Type}

/-! ## The end of a session, in exact numbers -/

/-- The millisecond since the epoch at which the session of a client that is away is over. -/
def Entry.deadline (r : Record) : Int := r.stamp.millis.toInt + 1000 * r.object.expiry.toInt

/-- A client is away but may come back for some time. -/
structure Entry.Waits (r : Record) : Prop where
  away : r.object.connected = false
  stamped : 0 < r.stamp.millis.toInt
  lasting : 0 < r.object.expiry.toInt

namespace Entry.Waits

variable {r : Record} {now : Timestamp}

/-- Arithmetic saturates, but not where it would matter. A time after the epoch leaves room
for the longest time that can have gone by. -/
theorem isExpiredAt_iff (h : r.Waits) :
    r.isExpiredAt now = true ↔ r.deadline ≤ now.millis.toInt := by
  have hover : r.isExpiredAt now = true ↔ r.object.IsOver r.stamp now :=
    Session.isExpired_millisSince_iff.trans (or_iff_left (Session.not_outlastsRange h.stamped))
  have hlasting := h.lasting
  rw [hover]
  unfold Session.IsOver deadline
  simp only [h.away, true_and]
  omega

/-- The instant that the event log is told is the exact one, once the session is over. -/
theorem toInt_expiresAt (h : r.Waits) (hover : r.deadline ≤ now.millis.toInt) :
    (r.object.expiresAt r.stamp).millis.toInt = r.deadline := by
  have hthousand : (1000 : Int64).toInt = 1000 := rfl
  have hstamped := h.stamped
  have hlasting := h.lasting
  have hnow := now.millis.toInt_lt
  unfold Session.expiresAt Timestamp.addSeconds
  rw [Saturating.toInt_add, Saturating.toInt_mul, hthousand]
  unfold Entry.deadline at hover ⊢
  unfold Saturating.clamp Saturating.lowest Saturating.highest
  omega

end Entry.Waits

/-! ## What one request leaves alone -/

namespace Request

/-- A put, a disconnect or a removal of this client. -/
def settles (bucket : Nat) (client : ClientId) : Request → Bool
  | put c _ _ b => bucket = b ∧ client = c
  | disconnect c _ _ b _ => bucket = b ∧ client = c
  | remove c b => bucket = b ∧ client = c
  | _ => false

/-- A change of the interval of this client. -/
def resets (bucket : Nat) (client : ClientId) : Request → Bool
  | setExpiry c _ b => bucket = b ∧ client = c
  | _ => false

end Request

namespace Fate

variable {s : Store} {now : Timestamp} {bucket : Nat} {client : ClientId} {q : Request}
  {refusal : Option Refusal} {r : Record} {r' : Option Record}

theorem connected (h : Fate s now bucket client q refusal (some r) r')
    (hr : r.object.connected = true)
    (hq : refusal = none → q.settles bucket client = false) :
    ∃ x, r' = some x ∧ x.object.connected = true := by
  cases h with
  | refused => exact ⟨r, rfl, hr⟩
  | spared => exact ⟨r, rfl, hr⟩
  | put => simp [Request.settles] at hq
  | clientLeft => simp [Request.settles] at hq
  | removed => simp [Request.settles] at hq
  | outlived => exact ⟨r, rfl, hr⟩
  | purged hover => simp [Entry.isExpiredAt, Session.isExpired, hr] at hover
  | expirySet => exact ⟨_, rfl, hr⟩
  | willStays => exact ⟨r, rfl, hr⟩
  | willCancelled => exact ⟨_, rfl, hr⟩

theorem waits (h : Fate s now bucket client q refusal (some r) r') (hr : r.Waits)
    (hq : refusal = none → q.settles bucket client = false ∧ q.resets bucket client = false ∧
      (q = .purge bucket → now.millis.toInt < r.deadline)) :
    ∃ x, r' = some x ∧ x.Waits ∧ x.stamp = r.stamp ∧ x.object.expiry = r.object.expiry := by
  cases h with
  | refused => exact ⟨r, rfl, hr, rfl, rfl⟩
  | spared => exact ⟨r, rfl, hr, rfl, rfl⟩
  | put => simp [Request.settles] at hq
  | clientLeft => simp [Request.settles] at hq
  | removed => simp [Request.settles] at hq
  | outlived => exact ⟨r, rfl, hr, rfl, rfl⟩
  | purged hover =>
    have hearly := (hq rfl).2.2 rfl
    have hlate := hr.isExpiredAt_iff.1 hover
    omega
  | expirySet => simp [Request.resets] at hq
  | willStays => exact ⟨r, rfl, hr, rfl, rfl⟩
  | willCancelled => exact ⟨_, rfl, ⟨hr.away, hr.stamped, hr.lasting⟩, rfl, rfl⟩

end Fate

/-! ## What a run leaves alone -/

/-- Nobody settles the session of a client. -/
def sparing (bucket : Nat) (client : ClientId) (_ : World σ) (q : Request)
    (refusal : Option Refusal) : Bool :=
  decide (refusal = none → q.settles bucket client = false)

/-- Nobody settles the session of a client or changes its interval, and its bucket is purged
only before the deadline. -/
def sparingUntil (now : σ → Timestamp) (deadline : Int) (bucket : Nat) (client : ClientId)
    (w : World σ) (q : Request) (refusal : Option Refusal) : Bool :=
  decide (refusal = none → q.settles bucket client = false ∧ q.resets bucket client = false ∧
    (q = .purge bucket → (now w.outside).millis.toInt < deadline))

section

variable {env : Collaborators σ} {w w' : World σ} {bucket : Nat} {client : ClientId}

/-- What each fate that is allowed leaves of a record, a whole run leaves of it. -/
theorem Collaborators.Passive.run_record (h : env.Passive)
    {allowed : World σ → Request → Option Refusal → Bool} (Good : Record → Prop)
    (step : ∀ (v : World σ) q refusal r r',
      Fate v.store (env.now v.outside) bucket client q refusal (some r) r' →
        allowed v q refusal = true → Good r → ∃ x, r' = some x ∧ Good x)
    {depth : Nat} {d : Dialogue σ α} {a : α}
    (hrun : (d.run ((perform env depth).only allowed)).run w = some (a, w'))
    (hw : ∃ r, w.store.record? bucket client = some r ∧ Good r) :
    ∃ r, w'.store.record? bucket client = some r ∧ Good r := by
  let R (v v' : World σ) : Prop := (∃ r, v.store.record? bucket client = some r ∧ Good r) →
    ∃ r, v'.store.record? bucket client = some r ∧ Good r
  have hR : Chatty R := ⟨fun _ => id, fun h₁ h₂ hv => h₂ (h₁ hv), fun _ _ => id⟩
  have hkeeps : ((perform env depth).only allowed).Keeps R := by
    rintro q v reply v' hr ⟨r, hknown, hgood⟩
    obtain ⟨hr, hallowed⟩ := Server.only_some.1 hr
    have hfate := h.perform_fate hr bucket client
    rw [hknown] at hfate
    exact step v q _ r _ hfate hallowed hgood
  exact Dialogue.run_keeps hR hkeeps d hrun hw

/-- A purge after the deadline takes the session away and tells the event log once. -/
theorem Collaborators.Passive.purge_late (h : env.Passive) {r : Record}
    (hfree : bucket ∉ w.store.writing) (known : w.store.record? bucket client = some r)
    (hr : r.Waits) (hlate : r.deadline ≤ (env.now w.outside).millis.toInt) (depth : Nat) :
    ∃ (gone : List ClientId) (v : World σ) (instant : Timestamp),
      (perform env (depth + 1) (.purge bucket)).run w = some (.ok gone, v) ∧
        client ∈ gone ∧ v.store.record? bucket client = none ∧
        heard client v.journal = instant :: heard client w.journal ∧
        instant.millis.toInt = r.deadline := by
  obtain ⟨v, hpurge, hheard⟩ := h.perform_purge depth (Store.lt_of_record? known) hfree
  have hover : r.isExpiredAt (env.now w.outside) = true := hr.isExpiredAt_iff.2 hlate
  have hmem : (client, r) ∈ w.store.expired bucket (env.now w.outside) :=
    Store.mem_expired.2 ⟨known, hover⟩
  refine ⟨_, v, r.object.expiresAt r.stamp, hpurge, List.mem_map_of_mem hmem, ?_, ?_,
    hr.toInt_expiresAt hlate⟩
  · have hfate := h.perform_fate hpurge bucket client
    rw [known] at hfate
    generalize v.store.record? bucket client = r' at hfate
    cases hfate with
    | spared hs => simp [Request.addresses] at hs
    | outlived hs => simp [hs r rfl] at hover
    | purged => rfl
  · rw [hheard, endings_of_mem (w.store.nodup_expired bucket _) hmem]
    rfl

/-- No session is lost early or kept late. While nobody settles its session, a connected
client stays connected. A client that is away stays until its deadline, if its interval is
not changed either. The first purge after that takes it away and tells the event log once,
with the exact instant. -/
theorem sessions_end_in_time (h : env.Passive) (hw : Reached env w) {r : Record}
    (known : w.store.record? bucket client = some r) :
    (r.object.connected = true → ∀ (α : Type) (d : Dialogue σ α) (depth : Nat) (a : α)
      (w' : World σ),
      (d.run ((perform env depth).only (sparing bucket client))).run w = some (a, w') →
        ∃ x, w'.store.record? bucket client = some x ∧ x.object.connected = true) ∧
    (r.Waits → ∀ (α : Type) (d : Dialogue σ α) (depth : Nat) (a : α) (w' : World σ),
      (d.run ((perform env depth).only (sparingUntil env.now r.deadline bucket client))).run w =
          some (a, w') →
        (∃ x, w'.store.record? bucket client = some x ∧ x.object.connected = false ∧
          x.stamp = r.stamp ∧ x.object.expiry = r.object.expiry) ∧
        (r.deadline ≤ (env.now w'.outside).millis.toInt → ∀ depth',
          ∃ (gone : List ClientId) (v : World σ) (instant : Timestamp),
            (perform env (depth' + 1) (.purge bucket)).run w' = some (.ok gone, v) ∧
              client ∈ gone ∧ v.store.record? bucket client = none ∧
              heard client v.journal = instant :: heard client w'.journal ∧
              instant.millis.toInt = r.deadline)) := by
  constructor
  · intro hconnected α d depth a w' hrun
    refine h.run_record (fun x => x.object.connected = true) ?_ hrun ⟨r, known, hconnected⟩
    intro v q refusal x x' hfate hallowed hx
    exact hfate.connected hx (of_decide_eq_true hallowed)
  · intro hr α d depth a w' hrun
    have hdeadline : ∀ x : Record, x.stamp = r.stamp ∧ x.object.expiry = r.object.expiry →
        x.deadline = r.deadline := by
      rintro x ⟨hstamp, hexpiry⟩
      simp only [Entry.deadline, hstamp, hexpiry]
    have hstays := h.run_record
      (fun x => x.Waits ∧ x.stamp = r.stamp ∧ x.object.expiry = r.object.expiry) (by
        rintro v q refusal x x' hfate hallowed ⟨hx, hsame⟩
        obtain ⟨y, hy, hywaits, hystamp, hyexpiry⟩ :=
          hfate.waits hx (hdeadline x hsame ▸ of_decide_eq_true hallowed)
        exact ⟨y, hy, hywaits, hystamp.trans hsame.1, hyexpiry.trans hsame.2⟩)
      hrun ⟨r, known, hr, rfl, rfl⟩
    obtain ⟨x, hx, hxwaits, hsame⟩ := hstays
    refine ⟨⟨x, hx, hxwaits.away, hsame⟩, fun hlate depth' => ?_⟩
    have hreached : Reached env w' := .conversed hw (Dialogue.run_only hrun)
    rw [← hdeadline x hsame] at hlate ⊢
    exact h.purge_late (by simp [hreached.writing]) hx hxwaits hlate depth'

end

/-- One client leaves a session behind for five seconds, and another one is connected. -/
def twoClients : Dialogue Backdrop Unit := do
  let _ ← Dialogue.request (.put "a" { connected := false, expiry := 5 } ⟨1000⟩ 0)
  let _ ← Dialogue.request (.put "b" { connected := true, expiry := 9 } ⟨1000⟩ 0)

/-- The connected client wants no session afterwards, and the bucket is purged at the last
moment at which the other session is not over. Then the clock moves on. -/
def lastMoment : Dialogue Backdrop Unit := do
  let _ ← Dialogue.request (.setExpiry "b" 0 0)
  let _ ← Dialogue.request (.purge 0)
  Dialogue.change fun b => { b with clock := ⟨6000⟩ }

/-- The event log knows of no end before the clock moved on, and of one after the next purge. -/
theorem sessions_end_in_time_lastMoment :
    ∃ (w w' : World Backdrop), Reached .quiet w ∧
      (∃ r, w.store.record? 0 "b" = some r ∧ r.object.connected = true) ∧
      (∃ r, w'.store.record? 0 "b" = some r ∧ r.object.connected = true) ∧
      (∃ r, w.store.record? 0 "a" = some r ∧ r.Waits ∧ r.deadline = 6000) ∧
      (∃ r, w'.store.record? 0 "a" = some r) ∧ w'.outside.events = [] ∧
      ∃ (gone : List ClientId) (v : World Backdrop),
        (perform .quiet 1 (.purge 0)).run w' = some (.ok gone, v) ∧ "a" ∈ gone ∧
          v.store.record? 0 "a" = none ∧ heard "a" v.journal = ⟨6000⟩ :: heard "a" w'.journal ∧
          v.outside.events = [(⟨6000⟩, "a")] := by
  let waiting : Record := Session.keptAt { connected := false, expiry := 5 } ⟨1000⟩
  let present : Record := Session.keptAt { connected := true, expiry := 9 } ⟨1000⟩
  let empty : World Backdrop :=
    { store := { defaultExpiry := 9, buckets := Array.replicate 2 ∅ },
      outside := { clock := ⟨5999⟩ } }
  have hend : ((converse .quiet 1 twoClients).run empty).bind (fun (_, w) =>
      ((lastMoment.run ((perform .quiet 1).only (sparing 0 "b"))).run w).bind fun (_, _) =>
        ((lastMoment.run ((perform .quiet 1).only
          (sparingUntil Collaborators.quiet.now 6000 0 "a"))).run w).map fun (_, w') =>
            (w.store.record? 0 "a", w.store.record? 0 "b", w'.outside.clock)) =
        some (some waiting, some present, ⟨6000⟩) := by
    decide +kernel
  have hlog : ((converse .quiet 1 twoClients).run empty).bind (fun (_, w) =>
      ((lastMoment.run (perform .quiet 1)).run w).bind fun (_, w') =>
        ((perform .quiet 1 (.purge 0)).run w').map fun (_, v) =>
          (w'.outside.events, v.outside.events)) = some ([], [(⟨6000⟩, "a")]) := by
    decide +kernel
  obtain ⟨⟨_, w⟩, hcame, hend⟩ := Option.bind_eq_some_iff.1 hend
  obtain ⟨⟨_, w₁⟩, hspared, hend⟩ := Option.bind_eq_some_iff.1 hend
  obtain ⟨⟨_, w'⟩, hlast, hfacts⟩ := Option.map_eq_some_iff.1 hend
  obtain ⟨ha, hb, hclock⟩ : w.store.record? 0 "a" = some waiting ∧
      w.store.record? 0 "b" = some present ∧ w'.outside.clock = ⟨6000⟩ := by
    simpa using hfacts
  -- Both servers answered all that was asked, so both runs are the same one.
  have hsame : w' = w₁ := by
    have hboth := (Dialogue.run_only hlast).symm.trans (Dialogue.run_only hspared)
    simpa using hboth
  have hreached : Reached .quiet w :=
    .conversed (.start _ (c := { bucketCount := 2, defaultExpiry := 9 }) rfl) hcame
  have hpassive := Collaborators.passive_quiet
  have hwaits : waiting.Waits := ⟨rfl, by decide, by decide⟩
  obtain ⟨⟨x, hx, -⟩, hpurge⟩ :=
    (sessions_end_in_time hpassive hreached ha).2 hwaits _ lastMoment 1 _ w' hlast
  have hnow : waiting.deadline ≤ (Collaborators.quiet.now w'.outside).millis.toInt := by
    rw [show Collaborators.quiet.now w'.outside = ⟨6000⟩ from hclock]
    decide
  obtain ⟨gone, v, instant, hrun, hmem, hnone, hheard, hinstant⟩ := hpurge hnow 0
  obtain rfl : instant = ⟨6000⟩ := by
    obtain ⟨millis⟩ := instant
    exact congrArg Timestamp.mk (Int64.toInt.inj (hinstant.trans (by decide)))
  obtain ⟨hsilent, htold⟩ : w'.outside.events = [] ∧ v.outside.events = [(⟨6000⟩, "a")] := by
    simpa [hcame, Dialogue.run_only hlast, hrun] using hlog
  exact ⟨w, w', hreached, ⟨present, hb, rfl⟩,
    hsame ▸ (sessions_end_in_time hpassive hreached hb).1 rfl _ lastMoment 1 _ w₁ hspared,
    ⟨waiting, ha, hwaits, by decide⟩, ⟨x, hx⟩, hsilent, gone, v, hrun, hmem, hnone, hheard, htold⟩

end BrokerSessions
