-- What becomes of one record. While nobody talks back, a request does to a record what it
-- was asked to do, or it leaves it alone, and `Fate` lists all that can happen. A purge
-- tells the event log of each record that it takes away, and of nothing else.
import BrokerSessions.Proofs.Abreast
import BrokerSessions.Proofs.Sweep

namespace BrokerSessions

variable {σ : Type}

/-! ## Fates -/

/-- Whether a request may change the record of a client. -/
def Request.addresses (bucket : Nat) (client : ClientId) : Request → Bool
  | put c _ _ b => bucket = b ∧ client = c
  | disconnect c _ _ b _ => bucket = b ∧ client = c
  | remove c b => bucket = b ∧ client = c
  | purge b => bucket = b
  | setExpiry c _ b => bucket = b ∧ client = c
  | cancelWill c b => bucket = b ∧ client = c
  | find .. => false

/-- What a request, with the refusal it met if it met one, makes of the record of a client,
when the clock shows `now`. -/
inductive Fate (s : Store) (now : Timestamp) (bucket : Nat) (client : ClientId) :
    Request → Option Refusal → Option Record → Option Record → Prop where
  /-- A request that is refused changes nothing. -/
  | refused {q why r} : Fate s now bucket client q (some why) r r
  /-- The request is about others, or it is a look. -/
  | spared {q r} (h : q.addresses bucket client = false) : Fate s now bucket client q none r r
  /-- A session is kept, whatever there was before. -/
  | put {session stamp r} : Fate s now bucket client (.put client session stamp bucket) none r
      (some (session.withoutPayload.keptAt stamp))
  /-- A stranger goes away. -/
  | strangerLeft {stamp sendWill expiry} :
      Fate s now bucket client (.disconnect client stamp sendWill bucket expiry) none none
        (some (s.stranger.keptAt stamp))
  /-- A known client goes away, and its will may be lost. -/
  | clientLeft {stamp sendWill expiry old kept}
      (h : kept = old.object ∨ kept = old.object.withoutWill) :
      Fate s now bucket client (.disconnect client stamp sendWill bucket expiry) none (some old)
        (some ({ kept with connected := false,
                           expiry := expiry.getD old.object.expiry }.keptAt stamp))
  /-- A client is forgotten. -/
  | removed {r} : Fate s now bucket client (.remove client bucket) none r none
  /-- A session that is not over outlives a purge. -/
  | outlived {r} (h : ∀ x, r = some x → x.isExpiredAt now = false) :
      Fate s now bucket client (.purge bucket) none r r
  /-- A session that is over does not. -/
  | purged {old} (h : old.isExpiredAt now = true) :
      Fate s now bucket client (.purge bucket) none (some old) none
  /-- The interval of a session is changed, and its record is stamped anew. -/
  | expirySet {old expiry} (live : old.object.isLive = true) :
      Fate s now bucket client (.setExpiry client expiry bucket) none (some old)
        (some ({ old.object with expiry }.keptAt now))
  /-- The client is unknown or connected, and there is no will to be cancelled. -/
  | willStays {r} (h : ∀ x, r = some x → x.object.connected = true) :
      Fate s now bucket client (.cancelWill client bucket) none r r
  /-- A client that is away loses its will. -/
  | willCancelled {old} (away : old.object.connected = false) :
      Fate s now bucket client (.cancelWill client bucket) none (some old)
        (some (old.object.withoutWill.keptAt old.stamp))

/-! ## Nobody talks back -/

/-- The store is as it was. -/
def SameStore (w w' : World σ) : Prop := w'.store = w.store

theorem SameStore.lasting : Lasting (SameStore (σ := σ)) where
  refl _ := rfl
  trans h₁ h₂ := Eq.trans h₂ h₁
  outside _ _ := rfl
  idle _ _ _ := rfl

section

open Operation

variable {env : Collaborators σ} {serve : Server σ} {w w' : World σ}

theorem release_sameStore (hs : serve.Keeps SameStore) {s : Session} {u : Unit}
    (h : (release env serve s).run w = some (u, w')) : w'.store = w.store := by
  have hkept := release_keeps SameStore.lasting hs h
  rwa [SameStore, World.store_givenBack] at hkept

theorem willOrNone_sameStore (hs : serve.Keeps SameStore) {s kept : Session} {sendWill : Bool}
    (h : (willOrNone env serve s sendWill).run w = some (kept, w')) : w'.store = w.store := by
  rcases willOrNone_cases SameStore.lasting hs h with ⟨_, rfl⟩ | ⟨_, hback⟩
  · rfl
  · rwa [SameStore, World.store_givenBack] at hback

theorem dropDangling_sameStore (hs : serve.Keeps SameStore) {s away : Session}
    (h : (dropDangling env serve s).run w = some (away, w')) : w'.store = w.store := by
  rcases dropDangling_cases SameStore.lasting hs h with ⟨_, hf⟩ | ⟨_, _, _, _, hf, rfl⟩
  · exact hf
  · exact hf

theorem dismissals_record? (hs : serve.Keeps SameStore) {bucket : Nat}
    {l : List (ClientId × Record)} {u : Unit}
    (h : (l.forM fun (client, r) => dismiss env serve bucket client r).run w = some (u, w'))
    (i : Nat) (c : ClientId) :
    w'.store.record? i c =
      if i = bucket ∧ c ∈ l.map Prod.fst then none else w.store.record? i c := by
  induction l generalizing w with
  | nil =>
    obtain ⟨_, rfl⟩ := Act.pure_some.1 h
    simp
  | cons x rest ih =>
    obtain ⟨w₁, h₁, h₂⟩ := forM_cons_some.1 h
    obtain ⟨w₂, hg, rfl⟩ := dismiss_some h₁
    have hstore := release_sameStore hs hg
    rw [ih h₂, World.store_note, World.store_erase, Store.record?_erase,
      World.record?_lowerMemory, hstore, World.record?_recount]
    have hmem : c ∈ (x :: rest).map Prod.fst ↔ c = x.1 ∨ c ∈ rest.map Prod.fst := List.mem_cons
    grind

/-- A record that is kept lies where it belongs, and the others are where they were. -/
theorem record?_kept {w : World σ} {bucket : Nat} {client : ClientId} {fresh : Record}
    (hlt : bucket < w.store.bucketCount) (i : Nat) (c : ClientId) :
    (w.keep bucket client fresh).store.record? i c =
      if i = bucket ∧ c = client then some fresh else w.store.record? i c := by
  change ((w.raiseMemory fresh.weight).store.file bucket client fresh).record? i c = _
  rw [Store.record?_file]
  have hlt' : bucket < (w.raiseMemory fresh.weight).store.bucketCount := hlt
  simp [hlt']

/-- A request that is about one client leaves the records of all others alone. -/
theorem Fate.of_client {s : Store} {now : Timestamp} {q : Request} {bucket : Nat}
    {client : ClientId} {fresh : Option Record}
    (hq : ∀ i c, q.addresses i c = decide (i = bucket ∧ c = client))
    (hrecord : ∀ i c, w'.store.record? i c =
      if i = bucket ∧ c = client then fresh else w.store.record? i c)
    (hfate : Fate s now bucket client q none (w.store.record? bucket client) fresh)
    (i : Nat) (c : ClientId) :
    Fate s now i c q none (w.store.record? i c) (w'.store.record? i c) := by
  rw [hrecord]
  by_cases hat : i = bucket ∧ c = client
  · rw [if_pos hat]
    obtain ⟨rfl, rfl⟩ := hat
    exact hfate
  · rw [if_neg hat]
    exact .spared (by rw [hq, decide_eq_false hat])

theorem record?_unchanged (w : World σ) (bucket : Nat) (client : ClientId) (i : Nat)
    (c : ClientId) :
    ((w.enter bucket).leave bucket).store.record? i c =
      if i = bucket ∧ c = client then w.store.record? bucket client
      else w.store.record? i c := by
  rw [World.record?_leave, World.record?_enter]
  split
  · rename_i hat
    rw [hat.1, hat.2]
  · rfl

/-- Each course is one of the fates of a record. -/
theorem course_fate (hs : serve.Keeps SameStore) {q : Request} {reply : q.Reply}
    (h : Course env serve q w reply w') (i : Nat) (c : ClientId) :
    Fate w.store (env.now w.outside) i c q (refusalOf reply) (w.store.record? i c)
      (w'.store.record? i c) := by
  have hL := SameStore.lasting (σ := σ)
  cases h with
  | turnedAway => exact .refused
  | @putNew client session stamp bucket _ door vacant =>
    have hlt : bucket < w.store.bucketCount := (Store.open_of_objection rfl door).1
    refine Fate.of_client (fun _ _ => rfl) (fun i c => ?_) .put i c
    rw [World.record?_leave, record?_kept (by simpa using hlt), World.record?_recount,
      World.record?_enter]
  | @putOver client session stamp bucket old _ w₁ door known given =>
    have hlt : bucket < w.store.bucketCount := (Store.open_of_objection rfl door).1
    have hstore := release_sameStore hs given
    refine Fate.of_client (fun _ _ => rfl) (fun i c => ?_) .put i c
    rw [World.record?_leave, record?_kept (by simpa [hstore] using hlt), World.record?_recount,
      hstore, World.record?_lowerMemory, World.record?_enter]
  | @strangerLeft client stamp sendWill bucket expiry _ door vacant =>
    have hlt : bucket < w.store.bucketCount := (Store.open_of_objection rfl door).1
    refine Fate.of_client (fun _ _ => rfl) (fun i c => ?_) (by rw [vacant]; exact .strangerLeft) i c
    rw [World.record?_leave, record?_kept (by simpa using hlt), World.record?_recount,
      World.record?_enter]
  | @clientLeft client stamp sendWill bucket expiry old kept away _ _ w₁ w₂ w₃ door known will
      checked resolved =>
    have hlt : bucket < w.store.bucketCount := (Store.open_of_objection rfl door).1
    have h₁ : w₁.store = ((w.enter bucket).lowerMemory old.weight).store :=
      willOrNone_sameStore hs will
    have h₂ : w₂.store = w₁.store := dropDangling_sameStore hs checked
    have h₃ : w₃.store =
        ((w₂.recount old.object.isLive away.isLive).keep bucket client (away.keptAt stamp)).store :=
      attachPayload_keeps hL hs resolved
    have haway : ∃ s, (s = old.object ∨ s = old.object.withoutWill) ∧
        away = { s with connected := false, expiry := expiry.getD old.object.expiry } := by
      rcases willOrNone_cases hL hs will with ⟨rfl, _⟩ | ⟨rfl, _⟩
      · rcases dropDangling_cases hL hs checked with ⟨rfl, _⟩ | ⟨_, _, _, rfl, _⟩
        · exact ⟨_, .inl rfl, rfl⟩
        · exact ⟨_, .inr rfl, rfl⟩
      · rcases dropDangling_cases hL hs checked with ⟨rfl, _⟩ | ⟨_, _, _, rfl, _⟩
        · exact ⟨_, .inr rfl, rfl⟩
        · exact ⟨_, .inr rfl, rfl⟩
    obtain ⟨s, hs', rfl⟩ := haway
    refine Fate.of_client (fun _ _ => rfl) (fun i c => ?_)
      (by rw [known]; exact .clientLeft hs') i c
    rw [World.record?_leave, h₃, record?_kept (by simpa [h₂, h₁] using hlt), World.record?_recount,
      h₂, h₁, World.record?_lowerMemory, World.record?_enter]
  | @removedNone client bucket _ door vacant =>
    exact Fate.of_client (fun _ _ => rfl) (record?_unchanged w bucket client)
      (vacant ▸ .removed) i c
  | @removed client bucket old _ w₁ door known given =>
    have hstore := release_sameStore hs given
    refine Fate.of_client (fun _ _ => rfl) (fun i c => ?_) .removed i c
    rw [World.record?_leave, World.store_note, World.record?_lowerMemory, hstore,
      World.record?_recount, World.store_erase, Store.record?_erase, World.record?_enter]
  | @purged bucket expired _ w₁ w₂ door ended dismissed announced =>
    have hstore : w₂.store = w₁.store := announcements_keep hL hs announced
    rw [World.record?_leave, hstore, dismissals_record? hs dismissed, World.record?_enter]
    by_cases hi : i = bucket
    · subst hi
      by_cases hc : c ∈ expired.map Prod.fst
      · obtain ⟨x, hx, rfl⟩ := List.mem_map.1 hc
        rw [← ended] at hx
        obtain ⟨hr, hover⟩ := Store.mem_expired.1 hx
        rw [if_pos ⟨rfl, hc⟩, hr]
        exact .purged hover
      · rw [if_neg fun h => hc h.2]
        apply Fate.outlived
        intro r hr
        by_contra hover
        rw [Bool.not_eq_false] at hover
        apply hc
        rw [← ended]
        exact List.mem_map_of_mem (Store.mem_expired.2 ⟨hr, hover⟩ : (c, r) ∈ _)
    · rw [if_neg fun h => hi h.1]
      exact .spared (by simp [Request.addresses, hi])
  | noSession => exact .refused
  | @expirySet client expiry bucket old _ door known live =>
    have hlt : bucket < w.store.bucketCount := (Store.open_of_objection rfl door).1
    refine Fate.of_client (fun _ _ => rfl) (fun i c => ?_)
      (by rw [known]; exact .expirySet live) i c
    rw [World.record?_leave, record?_kept (by simpa using hlt), World.record?_lowerMemory,
      World.record?_recount, World.record?_enter]
  | @willStays client bucket _ door stays =>
    exact Fate.of_client (fun _ _ => rfl) (record?_unchanged w bucket client)
      (.willStays stays) i c
  | @willCancelled client bucket old _ w₁ door known away given =>
    have hlt : bucket < w.store.bucketCount := (Store.open_of_objection rfl door).1
    have hstore := release_sameStore hs given
    refine Fate.of_client (fun _ _ => rfl) (fun i c => ?_)
      (by rw [known]; exact .willCancelled away) i c
    rw [World.record?_leave, record?_kept (by simpa [hstore] using hlt), hstore,
      World.record?_lowerMemory, World.record?_enter]
  | notFound => exact .spared rfl
  | foundBare => exact .spared rfl
  | foundWhole _ _ _ resolved =>
    have hstore : w'.store = w.store := attachPayload_keeps hL hs resolved
    rw [hstore]
    exact .spared rfl

end

/-! ## What the event log hears -/

/-- When the sessions of a client ended, as the event log was told, the latest first. -/
def heard (client : ClientId) (journal : List Mark) : List Timestamp :=
  journal.filterMap fun
    | .announced instant c => if c = client then some instant else none
    | _ => none

/-- When the sessions of a client ended that are among these records. -/
def endings (client : ClientId) (l : List (ClientId × Record)) : List Timestamp :=
  l.filterMap fun x => if x.1 = client then some (ending x).1 else none

theorem endings_of_mem {client : ClientId} {r : Record} {l : List (ClientId × Record)}
    (hl : (l.map Prod.fst).Nodup) (hr : (client, r) ∈ l) :
    endings client l = [r.object.expiresAt r.stamp] := by
  obtain ⟨l₁, l₂, rfl⟩ := List.append_of_mem hr
  have hnone : ∀ l' : List (ClientId × Record), client ∉ l'.map Prod.fst →
      endings client l' = [] := by
    intro l' hl'
    refine List.filterMap_eq_nil_iff.2 fun x hx => if_neg ?_
    rintro rfl
    exact hl' (List.mem_map_of_mem hx)
  simp only [List.map_append, List.map_cons, List.nodup_append, List.nodup_cons] at hl
  obtain ⟨-, ⟨hl₂, -⟩, hdisjoint⟩ := hl
  have hl₁ : client ∉ l₁.map Prod.fst := fun h =>
    hdisjoint client h client List.mem_cons_self rfl
  have hsplit : endings client (l₁ ++ (client, r) :: l₂) =
      endings client l₁ ++ r.object.expiresAt r.stamp :: endings client l₂ := by
    simp [endings, ending]
  rw [hsplit, hnone l₁ hl₁, hnone l₂ hl₂, List.nil_append]

namespace Collaborators.Passive

open Operation

variable {env : Collaborators σ} {serve : Server σ} {w w' : World σ} (h : env.Passive)

include h

theorem release_heard {s : Session} {u : Unit}
    (hr : (Operation.release env serve s).run w = some (u, w')) (client : ClientId) :
    heard client w'.journal = heard client w.journal := by
  unfold Operation.release at hr
  split at hr
  · rename_i id _
    simp only [Act.bind_some, Act.modify_some] at hr
    obtain ⟨_, _, rfl, hr⟩ := hr
    rw [(h.release id).run_some hr]
    rfl
  · obtain ⟨_, rfl⟩ := Act.pure_some.1 hr
    rfl

theorem dismissals_heard {bucket : Nat} {l : List (ClientId × Record)} {u : Unit}
    (hr : (l.forM fun (client, r) => dismiss env serve bucket client r).run w = some (u, w'))
    (client : ClientId) : heard client w'.journal = heard client w.journal := by
  induction l generalizing w with
  | nil =>
    obtain ⟨_, rfl⟩ := Act.pure_some.1 hr
    rfl
  | cons x rest ih =>
    obtain ⟨w₁, h₁, h₂⟩ := forM_cons_some.1 hr
    obtain ⟨w₂, hg, rfl⟩ := dismiss_some h₁
    rw [ih h₂]
    change heard client w₂.journal = _
    rw [h.release_heard hg]
    cases x.2.object.isLive <;> rfl

theorem announcements_heard {l : List (ClientId × Record)} {u : Unit}
    (hr : (l.forM fun (client, r) =>
      Operation.announce env serve (r.object.expiresAt r.stamp) client).run w = some (u, w'))
    (client : ClientId) :
    heard client w'.journal = (endings client l).reverse ++ heard client w.journal := by
  induction l generalizing w with
  | nil =>
    obtain ⟨_, rfl⟩ := Act.pure_some.1 hr
    rfl
  | cons x rest ih =>
    obtain ⟨w₁, h₁, h₂⟩ := forM_cons_some.1 hr
    simp only [Operation.announce, Act.bind_some, Act.modify_some] at h₁
    obtain ⟨_, _, rfl, h₁⟩ := h₁
    have hjournal : w₁.journal = .announced (ending x).1 x.1 :: w.journal := by
      rw [(h.announce _ _).run_some h₁]
      rfl
    rw [ih h₂, hjournal]
    by_cases hx : x.1 = client
    · simp [heard, endings, hx]
    · simp [heard, endings, hx]

/-- What a request does to one record is one of its fates. -/
theorem perform_fate {depth : Nat} {q : Request} {reply : q.Reply}
    (hr : (perform env depth q).run w = some (reply, w')) (bucket : Nat) (client : ClientId) :
    Fate w.store (env.now w.outside) bucket client q (refusalOf reply)
      (w.store.record? bucket client) (w'.store.record? bucket client) := by
  obtain ⟨w₁, hc, rfl⟩ := h.perform_course hr
  exact course_fate (perform_zero_keeps env _) hc bucket client

/-- A purge of a bucket that nobody writes is granted. It names all clients whose sessions
are over, and the event log hears of each of them. -/
theorem perform_purge (depth : Nat) {bucket : Nat} (hlt : bucket < w.store.bucketCount)
    (hfree : bucket ∉ w.store.writing) :
    ∃ v, (perform env (depth + 1) (.purge bucket)).run w =
        some (.ok ((w.store.expired bucket (env.now w.outside)).map Prod.fst), v) ∧
      ∀ client, heard client v.journal =
        (endings client (w.store.expired bucket (env.now w.outside))).reverse ++
          heard client w.journal := by
  obtain ⟨reply, v, hc, hr⟩ := h.perform_runs depth (.purge bucket) w
  cases hc with
  | turnedAway hdoor =>
    have hnone : w.store.objection (.purge bucket) = none :=
      (w.store.barrier_eq_none_iff bucket).2 ⟨hlt, hfree⟩
    rw [World.store_note, hnone] at hdoor
    cases hdoor
  | @purged _ expired _ w₁ w₂ door ended dismissed announced =>
    obtain rfl := ended
    refine ⟨_, hr, fun client => ?_⟩
    change heard client w₂.journal = _
    rw [h.announcements_heard announced, h.dismissals_heard dismissed]
    rfl

end Collaborators.Passive

end BrokerSessions
