-- A will that is resolved to be sent, and a will that is only checked. Both come to the same
-- decision, and whoever checks first and attaches later gets what attaching alone would give.
-- A will is lost with its payload and for no other reason. The payload store is asked for bytes
-- once at most, and nothing but that happens to it.
import BrokerSessions.Proofs.Departures

namespace BrokerSessions

namespace Session

variable {s : Session} {bytes? : PayloadId → Option Bytes}

/-! ## How a will is found -/

/-- The will of a session is lost when it carries no bytes and its payload is gone. -/
def HasLostWill (s : Session) (bytes? : PayloadId → Option Bytes) : Prop :=
  ∃ will, s.will = some will ∧ will.payload = none ∧ bytes? will.payloadId = none

/-- What there is to find out about a session: nothing is missing from it, or its will can have
the bytes that it lacks, or it cannot. -/
inductive Finding (s : Session) (bytes? : PayloadId → Option Bytes) : Prop where
  | complete (hwhole : ∀ will, s.will = some will → will.payload.isSome = true)
  | there {will : Will} {bytes : Bytes} (hwill : s.will = some will) (hbare : will.payload = none)
    (hthere : bytes? will.payloadId = some bytes)
  | gone {will : Will} (hwill : s.will = some will) (hbare : will.payload = none)
    (hgone : bytes? will.payloadId = none)

theorem finding (s : Session) (bytes? : PayloadId → Option Bytes) : s.Finding bytes? := by
  cases hwill : s.will with
  | none => exact .complete fun _ h => by cases hwill.symm.trans h
  | some will =>
    cases hbare : will.payload with
    | some bytes =>
      refine .complete fun other hother => ?_
      cases hwill.symm.trans hother
      exact Option.isSome_of_eq_some hbare
    | none =>
      cases hbytes : bytes? will.payloadId with
      | some bytes => exact .there hwill hbare hbytes
      | none => exact .gone hwill hbare hbytes

theorem awaited?_of_bareWill {will : Will} (hwill : s.will = some will)
    (hbare : will.payload = none) : s.awaited? = some will.payloadId := by
  simp [awaited?, hwill, hbare]

/-- Nothing is looked up for a session that lacks nothing. -/
theorem resolvedBy_of_complete (hwhole : ∀ will, s.will = some will → will.payload.isSome = true)
    (bytes? : PayloadId → Option Bytes) (r : Resolution) : s.resolvedBy bytes? r = (s, true) := by
  refine resolvedBy_of_none ?_ bytes? r
  unfold awaited?
  cases hwill : s.will with
  | none => rfl
  | some will => exact if_pos (hwhole will hwill)

/-- Bytes that a will carries are not replaced, and nobody looks for others. -/
theorem resolvedBy_of_resident {will : Will} (hwill : s.will = some will)
    (hresident : will.payload.isSome = true) (bytes? : PayloadId → Option Bytes) (r : Resolution) :
    s.resolvedBy bytes? r = (s, true) := by
  refine resolvedBy_of_complete (fun other hother => ?_) bytes? r
  cases hwill.symm.trans hother
  exact hresident

theorem resolvedBy_of_there {will : Will} {bytes : Bytes} (hwill : s.will = some will)
    (hbare : will.payload = none) (hthere : bytes? will.payloadId = some bytes) (r : Resolution) :
    s.resolvedBy bytes? r = (r.found s bytes, true) := by
  rw [resolvedBy_of_awaited (awaited?_of_bareWill hwill hbare), hthere]
  rfl

theorem resolvedBy_of_gone {will : Will} (hwill : s.will = some will)
    (hbare : will.payload = none) (hgone : bytes? will.payloadId = none) (r : Resolution) :
    s.resolvedBy bytes? r = (s.withoutWill, false) := by
  rw [resolvedBy_of_awaited (awaited?_of_bareWill hwill hbare), hgone]
  rfl

/-! ## What a resolution decides -/

/-- A will is lost whatever was to become of the bytes. -/
theorem resolvedBy_of_lost (hlost : s.HasLostWill bytes?) (r : Resolution) :
    s.resolvedBy bytes? r = (s.withoutWill, false) := by
  obtain ⟨will, hwill, hbare, hgone⟩ := hlost
  exact resolvedBy_of_gone hwill hbare hgone r

@[simp] theorem withoutPayload_found (r : Resolution) (s : Session) (bytes : Bytes) :
    (r.found s bytes).withoutPayload = s.withoutPayload := by
  cases r with
  | attach => cases hwill : s.will <;> simp [Resolution.found, withoutPayload, hwill]
  | check => rfl

/-- Any other session stays as it is, as far as it can be told without the bytes of its will. -/
theorem resolvedBy_of_not_lost (hkept : ¬ s.HasLostWill bytes?) (r : Resolution) :
    (s.resolvedBy bytes? r).2 = true ∧
      (s.resolvedBy bytes? r).1.withoutPayload = s.withoutPayload := by
  cases s.finding bytes? with
  | complete hwhole => simp [resolvedBy_of_complete hwhole]
  | there hwill hbare hthere => simp [resolvedBy_of_there hwill hbare hthere]
  | gone hwill hbare hgone => exact absurd ⟨_, hwill, hbare, hgone⟩ hkept

/-- What a resolution may do to a session, whatever becomes of the bytes of its will. -/
structure Resolved (s : Session) (bytes? : PayloadId → Option Bytes) (after : Session)
    (whole : Bool) : Prop where
  connected : after.connected = s.connected
  expiry : after.expiry = s.expiry
  verdict : whole = false ↔ s.HasLostWill bytes?
  removed : s.will.isSome = true ∧ after.will = none ↔ s.HasLostWill bytes?
  metadata : ∀ will, after.will = some will →
    ∃ before, s.will = some before ∧ will.withoutPayload = before.withoutPayload

theorem resolvedBy_resolved (s : Session) (bytes? : PayloadId → Option Bytes) (r : Resolution) :
    s.Resolved bytes? (s.resolvedBy bytes? r).1 (s.resolvedBy bytes? r).2 := by
  by_cases hlost : s.HasLostWill bytes?
  · have hwas : s.will.isSome = true := by
      obtain ⟨before, hbefore, -⟩ := hlost
      exact Option.isSome_of_eq_some hbefore
    rw [resolvedBy_of_lost hlost]
    exact ⟨rfl, rfl, ⟨fun _ => hlost, fun _ => rfl⟩, ⟨fun _ => hlost, fun _ => ⟨hwas, rfl⟩⟩, nofun⟩
  · obtain ⟨hwhole, hsame⟩ := resolvedBy_of_not_lost hlost r
    have hconnected := congrArg Session.connected hsame
    have hexpiry := congrArg Session.expiry hsame
    have hwills : (s.resolvedBy bytes? r).1.will.map Will.withoutPayload =
        s.will.map Will.withoutPayload := congrArg Session.will hsame
    refine ⟨hconnected, hexpiry, by simp [hwhole, hlost], ?_, ?_⟩
    · refine ⟨fun ⟨hwas, hnone⟩ => ?_, fun h => absurd h hlost⟩
      rw [hnone] at hwills
      simp [Option.map_eq_none_iff.1 hwills.symm] at hwas
    · intro will hwill
      rw [hwill] at hwills
      obtain ⟨before, hbefore, hbytes⟩ := Option.map_eq_some_iff.1 hwills.symm
      exact ⟨before, hbefore, hbytes.symm⟩

/-- It makes no difference for the answer, and none beside the bytes, what becomes of them. -/
theorem resolvedBy_alike (s : Session) (bytes? : PayloadId → Option Bytes) (r r' : Resolution) :
    (s.resolvedBy bytes? r).2 = (s.resolvedBy bytes? r').2 ∧
      (s.resolvedBy bytes? r).1.withoutPayload = (s.resolvedBy bytes? r').1.withoutPayload := by
  by_cases hlost : s.HasLostWill bytes?
  · simp only [resolvedBy_of_lost hlost, and_self]
  · obtain ⟨hwhole, hsame⟩ := resolvedBy_of_not_lost hlost r
    obtain ⟨hwhole', hsame'⟩ := resolvedBy_of_not_lost hlost r'
    exact ⟨hwhole.trans hwhole'.symm, hsame.trans hsame'.symm⟩

end Session

/-! ## One resolution after the other -/

/-- What two resolutions come to together. Bytes are attached if one of the two attaches them. -/
def Resolution.andThen : Resolution → Resolution → Resolution
  | .check, r => r
  | .attach, _ => .attach

@[simp] theorem Resolution.andThen_self (r : Resolution) : r.andThen r = r := by cases r <;> rfl

namespace Session

/-- A second resolution finds nothing missing that the first did not see to. -/
theorem resolvedBy_resolvedBy (s : Session) (bytes? : PayloadId → Option Bytes)
    (r r' : Resolution) :
    (s.resolvedBy bytes? r).1.resolvedBy bytes? r' =
      ((s.resolvedBy bytes? (r.andThen r')).1, true) := by
  cases s.finding bytes? with
  | complete hwhole => simp only [resolvedBy_of_complete hwhole]
  | there hwill hbare hthere =>
    simp only [resolvedBy_of_there hwill hbare hthere]
    cases r with
    | attach =>
      refine resolvedBy_of_complete (fun will hafter => ?_) bytes? r'
      simp only [Resolution.found, hwill, Option.map_some, Option.some.injEq] at hafter
      rw [← hafter]
      rfl
    | check => exact resolvedBy_of_there hwill hbare hthere r'
  | gone hwill hbare hgone =>
    simp only [resolvedBy_of_gone hwill hbare hgone]
    exact resolvedBy_willless rfl bytes? r'

/-- Whoever only checks leaves the will as it is, or takes it away. -/
theorem will_resolvedBy_check {s : Session} {bytes? : PayloadId → Option Bytes} {will : Will}
    (h : (s.resolvedBy bytes? .check).1.will = some will) : s.will = some will := by
  cases s.finding bytes? with
  | complete hwhole => rwa [resolvedBy_of_complete hwhole] at h
  | there hwill hbare hthere => rwa [resolvedBy_of_there hwill hbare hthere] at h
  | gone hwill hbare hgone =>
    rw [resolvedBy_of_gone hwill hbare hgone] at h
    cases h

/-- Bytes that are attached are those of the payload. -/
theorem resolvedBy_attach_of_there {s : Session} {bytes? : PayloadId → Option Bytes} {will : Will}
    {bytes : Bytes} (hwill : s.will = some will) (hbare : will.payload = none)
    (hthere : bytes? will.payloadId = some bytes) :
    s.resolvedBy bytes? .attach = ({ s with will := some (will.withPayload bytes) }, true) := by
  rw [resolvedBy_of_there hwill hbare hthere, Resolution.found, hwill]
  rfl

/-! ## What a resolution asks of the payload store -/

open Operation in
/-- The payload store is asked for the bytes of a bare will, and for nothing else. It stays as it
is, and so does everything but the journal. -/
theorem resolve_run_quiet (s : Session) (r : Resolution) (serve : Server Backdrop)
    (w : World Backdrop) :
    (s.resolveM (fetch .quiet serve) r).run w =
      some (s.resolvedBy w.outside.ledger.bytes? r,
        { w with journal := s.awaited?.toList.map .fetched ++ w.journal }) := by
  have hfetch : ∀ id, (fetch .quiet serve id).run w =
      some (w.outside.ledger.bytes? id, w.note (.fetched id)) := fun _ => rfl
  unfold resolveM
  cases hid : s.awaited? with
  | none =>
    rw [resolvedBy_of_none hid]
    rfl
  | some id =>
    rw [resolvedBy_of_awaited hid]
    refine Act.bind_some.2 ⟨_, _, hfetch id, ?_⟩
    cases w.outside.ledger.bytes? id <;> rfl

end Session

/-! ## Attaching and checking agree -/

/-- Whoever attaches the bytes of a will and whoever only checks for them gets the same answer,
and the same session but for the bytes. A will is lost when its payload is gone and it carries no
bytes itself, and in no other case. One who checks never adds bytes, one who attaches adds those
of the payload and replaces none. It makes no difference for the session to check it before, nor
to do the same twice, and the second time nothing is missing. The payload store gives nothing back
and counts nothing: the world is the same but for the note that bytes were asked for. -/
theorem resolutions_agree (s : Session) (bytes? : PayloadId → Option Bytes) :
    let attached := s.resolvedBy bytes? .attach
    let checked := s.resolvedBy bytes? .check
    (attached.2 = checked.2 ∧ attached.1.withoutPayload = checked.1.withoutPayload) ∧
    (∀ r, s.Resolved bytes? (s.resolvedBy bytes? r).1 (s.resolvedBy bytes? r).2) ∧
    (∀ will, checked.1.will = some will → s.will = some will) ∧
    (∀ will, s.will = some will → will.payload.isSome = true → attached = (s, true)) ∧
    (∀ will bytes, s.will = some will → will.payload = none →
      bytes? will.payloadId = some bytes →
        attached = ({ s with will := some (will.withPayload bytes) }, true)) ∧
    checked.1.resolvedBy bytes? .attach = (attached.1, true) ∧
    (∀ r, (s.resolvedBy bytes? r).1.resolvedBy bytes? r = ((s.resolvedBy bytes? r).1, true)) ∧
    ∀ (serve : Server Backdrop) (w : World Backdrop) (r : Resolution),
      (s.resolveM (Operation.fetch .quiet serve) r).run w =
        some (s.resolvedBy w.outside.ledger.bytes? r,
          { w with journal := s.awaited?.toList.map .fetched ++ w.journal }) := by
  intro attached checked
  refine ⟨s.resolvedBy_alike bytes? .attach .check, s.resolvedBy_resolved bytes?,
    fun _ => Session.will_resolvedBy_check,
    fun _ hwill hresident => Session.resolvedBy_of_resident hwill hresident bytes? .attach,
    fun _ _ => Session.resolvedBy_attach_of_there, s.resolvedBy_resolvedBy bytes? .check .attach,
    fun r => ?_, fun serve w r => s.resolve_run_quiet r serve w⟩
  rw [s.resolvedBy_resolvedBy, Resolution.andThen_self]

/-- One payload is there and another one is gone. A will that names the one gets its bytes, a will
that names the other is lost, and one that has bytes of its own keeps those. -/
theorem resolutions_agree_bye :
    let l := PayloadLedger.ofPayloads [[98, 121, 101]]
    let bare (id : PayloadId) : Will := { publication := { topic := "t" }, payloadId := id }
    let session (will : Will) : Session := { connected := false, expiry := 30, will := some will }
    (session (bare 1)).resolvedBy l.bytes? .attach =
        (session ((bare 1).withPayload [98, 121, 101]), true) ∧
      ((session (bare 1)).resolvedBy l.bytes? .check).1.will = some (bare 1) ∧
      (∀ r, ((session (bare 2)).resolvedBy l.bytes? r).2 = false ∧
        ((session (bare 2)).resolvedBy l.bytes? r).1.will = none) ∧
      (session ((bare 2).withPayload [7])).resolvedBy l.bytes? .attach =
        (session ((bare 2).withPayload [7]), true) := by
  intro l bare session
  have hthere : l.bytes? 1 = some [98, 121, 101] := by decide +kernel
  have hgone : l.bytes? 2 = none := by decide +kernel
  obtain ⟨-, hresolved, hcheck, -, hattach, -⟩ := resolutions_agree (session (bare 1)) l.bytes?
  obtain ⟨-, hlost, -⟩ := resolutions_agree (session (bare 2)) l.bytes?
  obtain ⟨-, -, -, hresident, -⟩ :=
    resolutions_agree (session ((bare 2).withPayload [7])) l.bytes?
  have hnamed : (session (bare 2)).HasLostWill l.bytes? := ⟨_, rfl, rfl, hgone⟩
  have hkept : ((session (bare 1)).resolvedBy l.bytes? .check).1.will = some (bare 1) := by
    cases hwill : ((session (bare 1)).resolvedBy l.bytes? .check).1.will with
    | some will => exact (hcheck will hwill).symm
    | none =>
      obtain ⟨other, hother, -, hmissing⟩ := (hresolved .check).removed.1 ⟨rfl, hwill⟩
      cases hother
      cases hthere.symm.trans hmissing
  exact ⟨hattach _ _ rfl rfl hthere, hkept,
    fun r => ⟨(hlost r).verdict.2 hnamed, ((hlost r).removed.2 hnamed).2⟩, hresident _ rfl rfl⟩

end BrokerSessions
