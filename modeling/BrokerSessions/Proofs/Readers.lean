-- What readers see of a session that is over. A session is connected, or its client may still
-- come back, or it is over: one of the three, whatever the numbers are. Those who look at
-- sessions and the purge that takes them away go by the same rule.
import BrokerSessions.Proofs.Nesting

namespace BrokerSessions

variable {σ : Type}

/-! ## Over or not over -/

/-- A client that is away may come back exactly as long as its session is not over. -/
theorem Session.isInGrace_eq (s : Session) (elapsed : Int64) :
    s.isInGrace elapsed = (!s.connected && !s.isExpired elapsed) := by
  have hlt : ∀ a b : Int64, decide (a < b) = !decide (b ≤ a) := by
    intro a b
    rw [← decide_not, decide_eq_decide]
    exact Int64.not_le.symm
  unfold isInGrace isExpired isPersistent
  rw [hlt 0 s.expiry, hlt elapsed s.expiryMillis]
  cases s.connected with
  | true => rfl
  | false => simp

namespace Entry

variable {r : Record} {now : Timestamp}

theorem isInGraceAt_eq (r : Record) (now : Timestamp) :
    r.isInGraceAt now = (!r.object.connected && !r.isExpiredAt now) := r.object.isInGrace_eq _

theorem isExpiredAt_of_connected (h : r.object.connected = true) : r.isExpiredAt now = false := by
  simp [isExpiredAt, Session.isExpired, h]

/-- A session that is not over is connected, or its client may come back. -/
theorem isExpiredAt_eq_false_iff :
    r.isExpiredAt now = false ↔ r.object.connected = true ∨ r.isInGraceAt now = true := by
  rw [isInGraceAt_eq]
  cases hcon : r.object.connected with
  | true => simp [isExpiredAt_of_connected hcon]
  | false => simp

end Entry

/-! ## What the reads list -/

namespace Store

variable {s : Store} {i : Nat} {now : Timestamp}

/-- A bucket that is there can be read, and it holds the records. -/
theorem bucket_ok (hlt : i < s.bucketCount) :
    ∃ b, s.bucket i = .ok b ∧ ∀ c, b[c]? = s.record? i c := by
  unfold bucketCount at hlt
  refine ⟨s.buckets[i], ?_, fun c => ?_⟩
  · simp [bucket, Array.getElem?_eq_getElem hlt]
  · simp [record?, Array.getElem?_eq_getElem hlt]

theorem clients_ok (hlt : i < s.bucketCount) :
    ∃ all, s.clients i = .ok all ∧ ∀ c, c ∈ all ↔ ∃ r, s.record? i c = some r := by
  obtain ⟨b, hb, hget⟩ := bucket_ok hlt
  refine ⟨b.keys, by rw [clients, hb]; rfl, fun c => ?_⟩
  rw [Std.ExtTreeMap.mem_keys, Std.ExtTreeMap.mem_iff_isSome_getElem?, hget,
    Option.isSome_iff_exists]

theorem disconnectedClients_ok (now : Timestamp) (hlt : i < s.bucketCount) :
    ∃ waiting, s.disconnectedClients now i = .ok waiting ∧
      ∀ c, c ∈ waiting ↔ ∃ r, s.record? i c = some r ∧ r.isInGraceAt now = true := by
  obtain ⟨b, hb, hget⟩ := bucket_ok hlt
  refine ⟨_, by rw [disconnectedClients, hb]; rfl, fun c => ?_⟩
  simp [← hget]

/-- The record that is shown of a client, if there is one and it is not over and hidden. -/
def shown? (s : Store) (now : Timestamp) (hideExpired : Bool) (i : Nat) (c : ClientId) :
    Option Record :=
  (s.record? i c).filter fun r => !(hideExpired && r.isExpiredAt now)

theorem chunk_ok (now : Timestamp) (accepts : ClientId → Bool) (hlt : i < s.bucketCount) :
    ∃ items, s.chunk now accepts i = .ok (.whole items i) ∧ ∀ c x, (c, x) ∈ items ↔
      accepts c = true ∧ (s.shown? now true i c).map (fun r => r.object.withoutWill) = some x := by
  obtain ⟨b, hb, hget⟩ := bucket_ok hlt
  refine ⟨_, by rw [chunk, hb]; rfl, fun c x => ?_⟩
  simp only [shown?, ← hget, List.mem_map, List.mem_filter, Prod.exists, Option.map_eq_some_iff,
    Option.filter_eq_some_iff, Std.ExtTreeMap.mem_toList_iff_getElem?_eq_some, Bool.and_eq_true,
    Bool.true_and]
  constructor
  · rintro ⟨c', r, ⟨hr, haccepts, hover⟩, hx⟩
    obtain ⟨rfl, rfl⟩ := Prod.mk.inj hx
    exact ⟨haccepts, r, ⟨hr, hover⟩, rfl⟩
  · rintro ⟨haccepts, r, ⟨hr, hover⟩, rfl⟩
    exact ⟨c, r, ⟨hr, haccepts, hover⟩, rfl⟩

theorem pendingWills_ok (hlt : i < s.bucketCount) :
    ∃ pending, s.pendingWills i = .ok pending ∧
      ∀ c p, (c, p) ∈ pending ↔ (s.record? i c).bind Entry.pendingWill? = some p := by
  obtain ⟨b, hb, hget⟩ := bucket_ok hlt
  refine ⟨_, by rw [pendingWills, hb]; rfl, fun c p => ?_⟩
  simp only [← hget, List.mem_filterMap, Prod.exists, Option.map_eq_some_iff,
    Std.ExtTreeMap.mem_toList_iff_getElem?_eq_some, Option.bind_eq_some_iff]
  constructor
  · rintro ⟨c', r, hr, p', hp, heq⟩
    obtain ⟨rfl, rfl⟩ := Prod.mk.inj heq
    exact ⟨r, hr, hp⟩
  · rintro ⟨r, hr, hp⟩
    exact ⟨c, r, hr, p, hp, rfl⟩

end Store

/-! ## What is granted, whoever listens -/

/-- A request is granted, with a result of this kind, whenever it is answered. It is answered
if the collaborators ask for no bytes, at the latest when requests may nest a bit deeper than
there are buckets. -/
structure Grants (env : Collaborators σ) (w : World σ) (q : Request) (P : q.Result → Prop) :
    Prop where
  granted : ∀ depth reply w', (perform env depth q).run w = some (reply, w') →
    ∃ a, reply = .ok a ∧ P a
  answered : env.Brief → ∀ depth, w.store.bucketCount + 2 ≤ depth →
    ∃ reply w', (perform env depth q).run w = some (reply, w')

section

variable {env : Collaborators σ} {w : World σ} {i : Nat} {c : ClientId} {r : Record}

theorem Grants.of_course {q : Request} {P : q.Result → Prop}
    (h : ∀ (serve : Server σ) (reply : q.Reply) (w₁ : World σ),
      Course env serve q (w.note (.called q)) reply w₁ → ∃ a, reply = .ok a ∧ P a) :
    Grants env w q P where
  granted depth reply w' hr := by
    cases depth with
    | zero => cases hr
    | succ depth =>
      obtain ⟨w₁, hc, -⟩ := attend_course hr
      exact h _ reply w₁ hc
  answered hbrief _ hdepth := hbrief.performs w hdepth q

theorem Grants.run {q : Request} {P : q.Result → Prop} (h : Grants env w q P)
    (hbrief : env.Brief) {depth : Nat} (hdepth : w.store.bucketCount + 2 ≤ depth) :
    ∃ a w', (perform env depth q).run w = some (.ok a, w') ∧ P a := by
  obtain ⟨reply, w', hr⟩ := h.answered hbrief depth hdepth
  obtain ⟨a, rfl, ha⟩ := h.granted depth reply w' hr
  exact ⟨a, w', hr, ha⟩

theorem Grants.mono {q : Request} {P Q : q.Result → Prop} (h : Grants env w q P)
    (hPQ : ∀ a, P a → Q a) : Grants env w q Q where
  granted depth reply w' hr := by
    obtain ⟨a, ha, hP⟩ := h.granted depth reply w' hr
    exact ⟨a, ha, hPQ a hP⟩
  answered := h.answered

/-- A purge of a bucket that nobody writes names those whose sessions are over. -/
theorem purge_grants (hlt : i < w.store.bucketCount) (hfree : i ∉ w.store.writing) :
    Grants env w (.purge i) fun (gone : List ClientId) => ∀ c, c ∈ gone ↔
      ∃ r, w.store.record? i c = some r ∧ r.isExpiredAt (env.now w.outside) = true := by
  apply Grants.of_course
  intro serve reply w₁ hc
  cases hc with
  | turnedAway hdoor =>
    have hnone : w.store.objection (.purge i) = none :=
      (w.store.barrier_eq_none_iff i).2 ⟨hlt, hfree⟩
    rw [World.store_note, hnone] at hdoor
    cases hdoor
  | @purged _ expired _ _ _ _ ended =>
    refine ⟨_, rfl, fun c => ?_⟩
    rw [← ended]
    exact Store.mem_expired_clients

/-- A look finds what is shown, and without the bytes of the will that is all it finds. -/
theorem find_grants (hlt : i < w.store.bucketCount) (c : ClientId) (hideExpired withWill : Bool) :
    Grants env w (.find c i hideExpired withWill) fun (found : Option Session) =>
      found.isSome = (w.store.shown? (env.now w.outside) hideExpired i c).isSome ∧
        (withWill = false → found = (w.store.shown? (env.now w.outside) hideExpired i c).map
          fun r => r.object.withoutPayload) := by
  apply Grants.of_course
  intro serve reply w₁ hc
  have hshown : ∀ {r}, w.store.record? i c = some r →
      (hideExpired && r.isExpiredAt (env.now w.outside)) = false →
        w.store.shown? (env.now w.outside) hideExpired i c = some r := by
    intro r known shown
    rw [Store.shown?, known, Option.filter_some, shown]
    rfl
  cases hc with
  | turnedAway hdoor => simp [Store.objection, hlt] at hdoor
  | notFound door hidden =>
    have hnone : w.store.shown? (env.now w.outside) hideExpired i c = none := by
      rw [Store.shown?, Option.filter_eq_none_iff]
      intro r known
      simpa using hidden r known
    exact ⟨none, rfl, by rw [hnone]; rfl, fun _ => by rw [hnone]; rfl⟩
  | foundBare door known shown =>
    refine ⟨_, rfl, by rw [hshown known shown]; rfl, fun _ => by rw [hshown known shown]; rfl⟩
  | foundWhole door known shown =>
    exact ⟨_, rfl, by rw [hshown known shown]; rfl, fun h => by cases h⟩

end

/-! ## One rule for all -/

/-- One of three holds, and the other two do not. -/
def OneOf (p q r : Prop) : Prop := (p ∧ ¬q ∧ ¬r) ∨ (¬p ∧ q ∧ ¬r) ∨ (¬p ∧ ¬q ∧ r)

/-- All who look at sessions agree with the purge on which of them are over. A client that the
store knows is connected, or it is listed as away, or a purge at this moment takes it away. A
look that hides what is over finds it in the first two cases, and a chunk contains it then, if
it is wanted. It contains what the look finds, without the will, and nothing else. Those who do
not ask for the time see the client in all three cases. -/
theorem readers_agree_on_expiry {env : Collaborators σ} {w : World σ} (hw : Reached env w)
    {i : Nat} (hlt : i < w.store.bucketCount) :
    ∃ (b : Bucket) (waiting all : List ClientId)
      (items : (ClientId → Bool) → List (ClientId × Session)),
      w.store.bucket i = .ok b ∧ w.store.clients i = .ok all ∧
      w.store.disconnectedClients (env.now w.outside) i = .ok waiting ∧
      (∀ accepts, w.store.chunk (env.now w.outside) accepts i = .ok (.whole (items accepts) i)) ∧
      (∀ c accepts, Grants env w (.find c i true false) fun (found : Option Session) =>
        ∀ x, (c, x) ∈ items accepts ↔ accepts c = true ∧ found.map Session.withoutWill = some x) ∧
      ∀ c r, w.store.record? i c = some r →
        Grants env w (.purge i) (fun (gone : List ClientId) =>
          OneOf (r.object.connected = true) (c ∈ waiting) (c ∈ gone)) ∧
        (∀ withWill, Grants env w (.find c i true withWill) fun (found : Option Session) =>
          found.isSome = true ↔ r.object.connected = true ∨ c ∈ waiting) ∧
        (∀ accepts, accepts c = true → (c ∈ (items accepts).map Prod.fst ↔
          r.object.connected = true ∨ c ∈ waiting)) ∧
        c ∈ all ∧ b.contains c = true ∧ w.store.stamp? i c = .ok (some r.stamp) ∧
        ∀ withWill, Grants env w (.find c i false withWill) fun (found : Option Session) =>
          found.isSome = true := by
  obtain ⟨b, hb, hget⟩ := Store.bucket_ok hlt
  obtain ⟨all, hall, hmem⟩ := Store.clients_ok hlt
  obtain ⟨waiting, hwaiting, hgrace⟩ :=
    Store.disconnectedClients_ok (env.now w.outside) hlt
  choose items hitems hlisted using
    fun accepts => Store.chunk_ok (env.now w.outside) accepts hlt
  refine ⟨b, waiting, all, items, hb, hall, hwaiting, hitems, fun c accepts => ?_, ?_⟩
  · apply (find_grants hlt c true false).mono
    rintro found ⟨-, hfound⟩ x
    rw [hlisted, hfound rfl, Option.map_map]
    rfl
  intro c r known
  have hwait : c ∈ waiting ↔ r.isInGraceAt (env.now w.outside) = true := by
    simp [hgrace, known]
  have hshown : (w.store.shown? (env.now w.outside) true i c).isSome = true ↔
      r.object.connected = true ∨ c ∈ waiting := by
    rw [hwait, ← Entry.isExpiredAt_eq_false_iff, Store.shown?, known, Option.filter_some]
    cases r.isExpiredAt (env.now w.outside) <;> simp
  refine ⟨?_, fun withWill => ?_, fun accepts haccepts => ?_, ?_, ?_, ?_, fun withWill => ?_⟩
  · apply (purge_grants hlt (by simp [hw.writing])).mono
    intro (gone : List ClientId) hgone
    have hover : c ∈ gone ↔ r.isExpiredAt (env.now w.outside) = true := by
      simp [hgone, known]
    rw [hwait, hover, Entry.isInGraceAt_eq]
    unfold OneOf
    cases hcon : r.object.connected with
    | true => simp [Entry.isExpiredAt_of_connected hcon]
    | false => cases r.isExpiredAt (env.now w.outside) <;> simp
  · apply (find_grants hlt c true withWill).mono
    rintro found ⟨hfound, -⟩
    rw [hfound, hshown]
  · rw [← hshown, List.mem_map, Option.isSome_iff_exists]
    constructor
    · rintro ⟨⟨_, x⟩, hx, rfl⟩
      obtain ⟨y, hy, -⟩ := Option.map_eq_some_iff.1 ((hlisted accepts _ x).1 hx).2
      exact ⟨y, hy⟩
    · rintro ⟨y, hy⟩
      exact ⟨(c, _), (hlisted accepts c _).2 ⟨haccepts, by rw [hy]; rfl⟩, rfl⟩
  · exact (hmem c).2 ⟨r, known⟩
  · rw [Std.ExtTreeMap.contains_eq_isSome_getElem?, hget, known]
    rfl
  · rw [Store.stamp?_eq _ hlt, known]
    rfl
  · apply (find_grants hlt c false withWill).mono
    rintro found ⟨hfound, -⟩
    rw [hfound, Store.shown?, known, Option.filter_some]
    rfl

/-- One client is connected, one may come back within five seconds, and one may not. -/
def threeClients : Dialogue Backdrop Unit := do
  let _ ← Dialogue.request (.put "a" { connected := true, expiry := 0 } ⟨1000⟩ 0)
  let _ ← Dialogue.request (.put "b" { connected := false, expiry := 5 } ⟨1000⟩ 0)
  let _ ← Dialogue.request (.put "c" { connected := false, expiry := 0 } ⟨1000⟩ 0)

/-- At the last moment at which the second client may come back, a purge takes the third one
away and nobody else, and a look does not find it any more. -/
theorem readers_agree_on_expiry_threeClients :
    ∃ w, Reached .quiet w ∧ w.store.disconnectedClients ⟨5999⟩ 0 = .ok ["b"] ∧
      (∃ (gone : List ClientId) (v : World Backdrop),
        (perform .quiet 4 (.purge 0)).run w = some (.ok gone, v) ∧
          "a" ∉ gone ∧ "b" ∉ gone ∧ "c" ∈ gone) ∧
      ∃ (found : Option Session) (v : World Backdrop),
        (perform .quiet 4 (.find "c" 0 true true)).run w = some (.ok found, v) ∧
          found = none := by
  let present : Record := Session.keptAt { connected := true, expiry := 0 } ⟨1000⟩
  let waits : Record := Session.keptAt { connected := false, expiry := 5 } ⟨1000⟩
  let ended : Record := Session.keptAt { connected := false, expiry := 0 } ⟨1000⟩
  have hend : ((converse .quiet 1 threeClients).run
      { store := { defaultExpiry := 9, buckets := Array.replicate 2 ∅ },
        outside := { clock := ⟨5999⟩ } }).map (fun (_, w) =>
          (["a", "b", "c"].map (w.store.record? 0),
            (w.store.disconnectedClients ⟨5999⟩ 0).toOption, w.store.bucketCount,
            w.outside.clock)) =
      some ([some present, some waits, some ended], some ["b"], 2, ⟨5999⟩) := by
    decide +kernel
  obtain ⟨⟨_, w⟩, hrun, hfacts⟩ := Option.map_eq_some_iff.1 hend
  obtain ⟨⟨ha, hb, hc⟩, haway, hcount, hclock⟩ : (w.store.record? 0 "a" = some present ∧
      w.store.record? 0 "b" = some waits ∧ w.store.record? 0 "c" = some ended) ∧
        (w.store.disconnectedClients ⟨5999⟩ 0).toOption = some ["b"] ∧
          w.store.bucketCount = 2 ∧ w.outside.clock = ⟨5999⟩ := by
    simpa using hfacts
  have hreached : Reached .quiet w :=
    .conversed (.start _ (c := { bucketCount := 2, defaultExpiry := 9 }) rfl) hrun
  have hnow : Collaborators.quiet.now w.outside = ⟨5999⟩ := hclock
  have hdepth : w.store.bucketCount + 2 ≤ 4 := by omega
  have hon : present.object.connected = true := rfl
  have hoff : ended.object.connected = false := rfl
  have hoff' : waits.object.connected = false := rfl
  have hbrief := Collaborators.passive_quiet.brief
  obtain ⟨_, waiting, _, _, -, -, hwaiting, -, -, hall⟩ :=
    readers_agree_on_expiry hreached (Store.lt_of_record? ha)
  rw [hnow] at hwaiting
  obtain rfl : waiting = ["b"] := by simpa [hwaiting, Except.toOption] using haway
  obtain ⟨gone, v, hpurge, hfirst⟩ := (hall "a" present ha).1.run hbrief hdepth
  obtain ⟨_, hsame, hsecond⟩ := (hall "b" waits hb).1.granted 4 _ v hpurge
  cases hsame
  obtain ⟨_, hsame, hthird⟩ := (hall "c" ended hc).1.granted 4 _ v hpurge
  cases hsame
  obtain ⟨found, v', hfind, hhidden⟩ := ((hall "c" ended hc).2.1 true).run hbrief hdepth
  have hnone : found = none :=
    Option.not_isSome_iff_eq_none.1 fun h => absurd (hhidden.1 h) (by simp [hoff])
  refine ⟨w, hreached, hwaiting, ⟨gone, v, hpurge, ?_, ?_, ?_⟩, found, v', hfind, hnone⟩
  · simpa [OneOf, hon] using hfirst
  · simpa [OneOf, hoff'] using hsecond
  · simpa [OneOf, hoff] using hthird

end BrokerSessions
