-- What lasts while others talk. The store calls its collaborators in the middle
-- of its work, and they may ask it for more before they return. A relation between
-- worlds that no request breaks lasts through all of that. The first such relation
-- is `Frame`: a bucket that is being written is left alone by everybody else.
import BrokerSessions.Proofs.Course

namespace BrokerSessions

variable {σ α : Type}

/-! ## Lasting relations -/

/-- A mark that a collaborator was asked or told something, without giving anything back. -/
def Mark.isIdle : Mark → Bool
  | .fetched _ | .announced _ _ => true
  | _ => false

/-- A relation that talk alone does not break. -/
structure Chatty (R : World σ → World σ → Prop) : Prop where
  refl : ∀ w, R w w
  trans : ∀ {w w₁ w₂}, R w w₁ → R w₁ w₂ → R w w₂
  outside : ∀ w own, R w { w with outside := own }

/-- A relation that neither talk breaks nor a question to a collaborator. -/
structure Lasting (R : World σ → World σ → Prop) : Prop extends Chatty R where
  idle : ∀ w m, m.isIdle = true → R w (w.note m)

/-- Every answer of a server leaves a world that is related to the one before. -/
def Server.Keeps (serve : Server σ) (R : World σ → World σ → Prop) : Prop :=
  ∀ (q : Request) (w : World σ) (reply : q.Reply) (w' : World σ),
    (serve q).run w = some (reply, w') → R w w'

variable {R : World σ → World σ → Prop} {env : Collaborators σ} {serve : Server σ}

theorem Server.Keeps.mono {S : World σ → World σ → Prop} (hs : serve.Keeps R)
    (hRS : ∀ w w', R w w' → S w w') : serve.Keeps S :=
  fun q w reply w' h => hRS w w' (hs q w reply w' h)

/-- Somebody who answers like `serve`, but who knows no answer where something else is asked
than is allowed, or is answered otherwise. -/
def Server.only (serve : Server σ) (allowed : World σ → Request → Option Refusal → Bool) :
    Server σ := fun q => do
  let w ← get
  let reply ← serve q
  if allowed w q (refusalOf reply) then return reply else failure

theorem Server.only_some {allowed : World σ → Request → Option Refusal → Bool} {q : Request}
    {reply : q.Reply} {w w' : World σ} :
    (serve.only allowed q).run w = some (reply, w') ↔
      (serve q).run w = some (reply, w') ∧ allowed w q (refusalOf reply) = true := by
  simp only [Server.only, Act.bind_some, Act.get_some]
  constructor
  · rintro ⟨_, _, ⟨rfl, rfl⟩, r, v, hr, h⟩
    split at h
    · rename_i hallowed
      obtain ⟨rfl, rfl⟩ := Act.pure_some.1 h
      exact ⟨hr, hallowed⟩
    · cases h
  · rintro ⟨hr, hallowed⟩
    refine ⟨w, w, ⟨rfl, rfl⟩, reply, w', hr, ?_⟩
    rw [if_pos hallowed]
    rfl

/-- A whole conversation keeps what each answer keeps. -/
theorem Dialogue.run_keeps (hR : Chatty R) (hs : serve.Keeps R) (d : Dialogue σ α) {a : α}
    {w w' : World σ} (h : (d.run serve).run w = some (a, w')) : R w w' := by
  induction d generalizing w with
  | done value =>
    obtain ⟨_, rfl⟩ := Act.pure_some.1 h
    exact hR.refl w
  | look next ih =>
    simp only [Dialogue.run, Act.bind_some, Act.get_some] at h
    obtain ⟨_, _, ⟨rfl, rfl⟩, h⟩ := h
    exact ih _ _ h
  | keep own next ih =>
    simp only [Dialogue.run, Act.bind_some, Act.modify_some] at h
    obtain ⟨_, _, rfl, h⟩ := h
    exact hR.trans (hR.outside w own) (ih h)
  | ask q next ih =>
    simp only [Dialogue.run, Act.bind_some] at h
    obtain ⟨reply, w₁, hq, h⟩ := h
    exact hR.trans (hs q w reply w₁ hq) (ih _ h)

/-- Where only what is allowed is asked and answered, nothing else happens than elsewhere. -/
theorem Dialogue.run_only {allowed : World σ → Request → Option Refusal → Bool}
    {d : Dialogue σ α} {a : α} {w w' : World σ}
    (h : (d.run (serve.only allowed)).run w = some (a, w')) :
    (d.run serve).run w = some (a, w') := by
  induction d generalizing w with
  | done value => exact h
  | look next ih =>
    obtain ⟨_, _, ⟨rfl, rfl⟩, h⟩ := Act.bind_some.1 h
    exact Act.bind_some.2 ⟨w, w, Act.get_some.2 ⟨rfl, rfl⟩, ih _ _ h⟩
  | keep own next ih =>
    obtain ⟨_, v, hv, h⟩ := Act.bind_some.1 h
    exact Act.bind_some.2 ⟨_, v, hv, ih h⟩
  | ask q next ih =>
    obtain ⟨reply, v, hq, h⟩ := Act.bind_some.1 h
    exact Act.bind_some.2 ⟨reply, v, (Server.only_some.1 hq).1, ih _ h⟩

/-- What attending to one request keeps, whoever serves inside it, is kept at any depth. -/
theorem perform_keeps (h : ∀ serve : Server σ, serve.Keeps R → (attend env serve).Keeps R)
    (depth : Nat) : (perform env depth).Keeps R := by
  induction depth with
  | zero =>
    intro q w reply w' hr
    cases hr
  | succ depth ih => exact h _ ih

/-! ## Calls to the collaborators -/

/-- The world in which the payload store is asked to take a reference back, if there is
one to give. -/
def World.givenBack (w : World σ) : Option PayloadId → World σ
  | some id => w.note (.released id)
  | none => w

@[simp] theorem World.store_givenBack (w : World σ) (id? : Option PayloadId) :
    (w.givenBack id?).store = w.store := by
  cases id? <;> rfl

section

open Operation

theorem release_keeps (hR : Lasting R) (hs : serve.Keeps R) {s : Session} {u : Unit}
    {w w' : World σ} (h : (release env serve s).run w = some (u, w')) :
    R (w.givenBack s.payloadId?) w' := by
  unfold release at h
  split at h
  · rename_i id hid
    simp only [Act.bind_some, Act.modify_some] at h
    obtain ⟨_, _, rfl, h⟩ := h
    rw [hid]
    exact Dialogue.run_keeps hR.toChatty hs _ h
  · rename_i hid
    obtain ⟨_, rfl⟩ := Act.pure_some.1 h
    rw [hid]
    exact hR.refl w

theorem fetch_keeps (hR : Lasting R) (hs : serve.Keeps R) {id : PayloadId} {bytes : Option Bytes}
    {w w' : World σ} (h : (fetch env serve id).run w = some (bytes, w')) : R w w' := by
  simp only [fetch, Act.bind_some, Act.modify_some] at h
  obtain ⟨_, _, rfl, h⟩ := h
  exact hR.trans (hR.idle w _ rfl) (Dialogue.run_keeps hR.toChatty hs _ h)

theorem announce_keeps (hR : Lasting R) (hs : serve.Keeps R) {instant : Timestamp}
    {client : ClientId} {u : Unit} {w w' : World σ}
    (h : (announce env serve instant client).run w = some (u, w')) : R w w' := by
  simp only [announce, Act.bind_some, Act.modify_some] at h
  obtain ⟨_, _, rfl, h⟩ := h
  exact hR.trans (hR.idle w _ rfl) (Dialogue.run_keeps hR.toChatty hs _ h)

/-- A will is resolved without a question, or its payload is fetched once. -/
theorem resolve_some {s s' : Session} {r : Resolution} {whole : Bool} {w w' : World σ}
    (h : (s.resolveM (fetch env serve) r).run w = some ((s', whole), w')) :
    (s' = s ∧ whole = true ∧ w' = w) ∨
      ∃ id bytes, s.awaited? = some id ∧ (fetch env serve id).run w = some (bytes, w') ∧
        (∀ b, bytes = some b → s' = r.found s b ∧ whole = true) ∧
        (bytes = none → s' = s.withoutWill ∧ whole = false) := by
  unfold Session.resolveM at h
  split at h
  · obtain ⟨he, rfl⟩ := Act.pure_some.1 h
    cases he
    exact .inl ⟨rfl, rfl, rfl⟩
  · rename_i id hid
    obtain ⟨bytes, w₁, hf, h⟩ := Act.bind_some.1 h
    cases bytes with
    | some b =>
      obtain ⟨he, rfl⟩ := Act.pure_some.1 h
      cases he
      exact .inr ⟨id, some b, hid, hf, fun b' hb => by cases hb; exact ⟨rfl, rfl⟩, nofun⟩
    | none =>
      obtain ⟨he, rfl⟩ := Act.pure_some.1 h
      cases he
      exact .inr ⟨id, none, hid, hf, nofun, fun _ => ⟨rfl, rfl⟩⟩

theorem attachPayload_keeps (hR : Lasting R) (hs : serve.Keeps R) {s s' : Session}
    {w w' : World σ} (h : (attachPayload env serve s).run w = some (s', w')) : R w w' := by
  obtain ⟨⟨_, whole⟩, hr, rfl⟩ := Act.bind_pure_some.1 h
  rcases resolve_some hr with ⟨_, _, rfl⟩ | ⟨id, bytes, _, hf, _⟩
  · exact hR.refl w'
  · exact fetch_keeps hR hs hf

theorem payloadId?_of_awaited? {s : Session} {id : PayloadId} (h : s.awaited? = some id) :
    s.payloadId? = some id := by
  unfold Session.awaited? at h
  unfold Session.payloadId?
  split at h
  · rename_i will hw
    split at h
    · cases h
    · simpa [hw] using h
  · cases h

/-- A will that is checked stays as it is, or it is dropped and the journal gets to know. -/
theorem dropDangling_cases (hR : Lasting R) (hs : serve.Keeps R) {s away : Session}
    {w w' : World σ} (h : (dropDangling env serve s).run w = some (away, w')) :
    (away = s ∧ R w w') ∨
      ∃ id w₁, s.payloadId? = some id ∧ away = s.withoutWill ∧ R w w₁ ∧
        w' = w₁.note (.dangled id) := by
  simp only [dropDangling, Act.bind_some, Act.pure_some] at h
  obtain ⟨⟨kept, whole⟩, w₁, hr, _, _, hn, rfl, rfl⟩ := h
  rcases resolve_some hr with ⟨rfl, rfl, rfl⟩ | ⟨id, bytes, hid, hf, hfound, hgone⟩
  · obtain ⟨_, rfl⟩ := Act.pure_some.1 hn
    exact .inl ⟨rfl, hR.refl w₁⟩
  · have hkeep : R w w₁ := fetch_keeps hR hs hf
    cases bytes with
    | some b =>
      obtain ⟨rfl, rfl⟩ := hfound b rfl
      obtain ⟨_, rfl⟩ := Act.pure_some.1 hn
      exact .inl ⟨rfl, hkeep⟩
    | none =>
      obtain ⟨rfl, rfl⟩ := hgone rfl
      have hpid := payloadId?_of_awaited? hid
      rw [noteDangling, Act.modify_some] at hn
      rw [hpid] at hn
      exact .inr ⟨id, w₁, hpid, rfl, hkeep, hn.symm⟩

theorem willOrNone_cases (hR : Lasting R) (hs : serve.Keeps R) {s kept : Session}
    {sendWill : Bool} {w w' : World σ}
    (h : (willOrNone env serve s sendWill).run w = some (kept, w')) :
    (kept = s ∧ w' = w) ∨ (kept = s.withoutWill ∧ R (w.givenBack s.payloadId?) w') := by
  cases sendWill with
  | true =>
    obtain ⟨rfl, rfl⟩ := Act.pure_some.1 h
    exact .inl ⟨rfl, rfl⟩
  | false =>
    simp only [willOrNone, Act.bind_some, Act.pure_some] at h
    obtain ⟨_, w₁, hr, rfl, rfl⟩ := h
    exact .inr ⟨rfl, release_keeps hR hs hr⟩

/-- What is kept when a reference is given back is kept when a will is sent or given up. -/
theorem willOrNone_keeps (hR : Lasting R) (hs : serve.Keeps R)
    (hback : ∀ v id?, R v (v.givenBack id?)) {s kept : Session} {sendWill : Bool}
    {w w' : World σ} (h : (willOrNone env serve s sendWill).run w = some (kept, w')) : R w w' := by
  rcases willOrNone_cases hR hs h with ⟨_, rfl⟩ | ⟨_, hgiven⟩
  · exact hR.refl w'
  · exact hR.trans (hback w _) hgiven

/-- What is kept when the journal gets to know of a lost will is kept when a will is checked. -/
theorem dropDangling_keeps (hR : Lasting R) (hs : serve.Keeps R)
    (hlost : ∀ v id, R v (v.note (.dangled id))) {s away : Session} {w w' : World σ}
    (h : (dropDangling env serve s).run w = some (away, w')) : R w w' := by
  rcases dropDangling_cases hR hs h with ⟨_, hkept⟩ | ⟨_, _, _, _, hkept, rfl⟩
  · exact hkept
  · exact hR.trans hkept (hlost _ _)

theorem dismiss_some {bucket : Nat} {client : ClientId} {r : Record} {u : Unit} {w w' : World σ}
    (h : (dismiss env serve bucket client r).run w = some (u, w')) :
    ∃ w₁, (release env serve r.object).run (w.recount r.object.isLive false) = some ((), w₁) ∧
      w' = ((w₁.lowerMemory r.weight).erase bucket client).note (.forgotten bucket client r) := by
  simp only [dismiss, Act.bind_some, Act.modify_some] at h
  obtain ⟨_, _, rfl, _, w₁, hr, _, _, rfl, _, _, rfl, rfl⟩ := h
  exact ⟨w₁, hr, rfl⟩

theorem forM_cons_some {β : Type} {f : β → Act σ Unit} {x : β} {xs : List β} {u : Unit}
    {w w' : World σ} :
    ((x :: xs).forM f).run w = some (u, w') ↔
      ∃ w₁, (f x).run w = some ((), w₁) ∧ (xs.forM f).run w₁ = some (u, w') := by
  change (f x >>= fun _ => xs.forM f).run w = some (u, w') ↔ _
  rw [Act.bind_some]
  constructor
  · rintro ⟨_, w₁, h₁, h₂⟩
    exact ⟨w₁, h₁, h₂⟩
  · rintro ⟨w₁, h₁, h₂⟩
    exact ⟨_, w₁, h₁, h₂⟩

/-- Announcements are only talk. -/
theorem announcements_keep (hR : Lasting R) (hs : serve.Keeps R) {l : List (ClientId × Record)}
    {u : Unit} {w w' : World σ}
    (h : (l.forM fun (client, r) =>
      announce env serve (r.object.expiresAt r.stamp) client).run w = some (u, w')) : R w w' := by
  induction l generalizing w with
  | nil =>
    obtain ⟨_, rfl⟩ := Act.pure_some.1 h
    exact hR.refl w
  | cons x rest ih =>
    obtain ⟨w₁, h₁, h₂⟩ := forM_cons_some.1 h
    exact hR.trans (announce_keeps hR hs h₁) (ih h₂)

end

/-! ## What others leave alone -/

/-- Between two worlds the same buckets are being written, and their records stayed. -/
structure Frame (w w' : World σ) : Prop where
  writing : w'.store.writing = w.store.writing
  count : w'.store.bucketCount = w.store.bucketCount
  defaultExpiry : w'.store.defaultExpiry = w.store.defaultExpiry
  walk : w'.store.walk = w.store.walk
  held : ∀ i ∈ w.store.writing, ∀ c, w'.store.record? i c = w.store.record? i c
  journal : w.journal <:+ w'.journal

/-- Only the records of one bucket, the counters and the journal differ. -/
structure Touches (bucket : Nat) (w w' : World σ) : Prop where
  writing : w'.store.writing = w.store.writing
  count : w'.store.bucketCount = w.store.bucketCount
  defaultExpiry : w'.store.defaultExpiry = w.store.defaultExpiry
  walk : w'.store.walk = w.store.walk
  others : ∀ i, i ≠ bucket → ∀ c, w'.store.record? i c = w.store.record? i c
  journal : w.journal <:+ w'.journal

/-- The second world lies inside an operation that began in the first one and holds a
bucket. -/
structure Inside (bucket : Nat) (w w₁ : World σ) : Prop where
  writing : w₁.store.writing = bucket :: w.store.writing
  count : w₁.store.bucketCount = w.store.bucketCount
  defaultExpiry : w₁.store.defaultExpiry = w.store.defaultExpiry
  walk : w₁.store.walk = w.store.walk
  held : ∀ i ∈ w.store.writing, ∀ c, w₁.store.record? i c = w.store.record? i c
  journal : w.journal <:+ w₁.journal

theorem Frame.lasting : Lasting (Frame (σ := σ)) where
  refl _ := ⟨rfl, rfl, rfl, rfl, fun _ _ _ => rfl, List.suffix_refl _⟩
  trans h₁ h₂ :=
    ⟨h₂.writing.trans h₁.writing, h₂.count.trans h₁.count, h₂.defaultExpiry.trans h₁.defaultExpiry,
      h₂.walk.trans h₁.walk, fun i hi c => (h₂.held i (h₁.writing ▸ hi) c).trans (h₁.held i hi c),
      h₁.journal.trans h₂.journal⟩
  outside _ _ := ⟨rfl, rfl, rfl, rfl, fun _ _ _ => rfl, List.suffix_refl _⟩
  idle _ _ _ := ⟨rfl, rfl, rfl, rfl, fun _ _ _ => rfl, List.suffix_cons _ _⟩

theorem Frame.note (w : World σ) (m : Mark) : Frame w (w.note m) :=
  ⟨rfl, rfl, rfl, rfl, fun _ _ _ => rfl, List.suffix_cons _ _⟩

theorem Frame.givenBack (w : World σ) (id? : Option PayloadId) : Frame w (w.givenBack id?) := by
  cases id? with
  | some id => exact note w _
  | none => exact lasting.refl w

/-- What an operation on a bucket knows of the record that it is about, it still knows
after others had their turn. -/
theorem Frame.holds {w w' : World σ} (h : Frame w w') (bucket : Nat) (client : ClientId)
    {old : Option Record} (hb : bucket ∈ w.store.writing) (hlt : bucket < w.store.bucketCount)
    (known : w.store.record? bucket client = old) :
    bucket ∈ w'.store.writing ∧ bucket < w'.store.bucketCount ∧
      w'.store.record? bucket client = old :=
  ⟨h.writing ▸ hb, h.count ▸ hlt, (h.held bucket hb client).trans known⟩

namespace Touches

variable {bucket : Nat} {w w₁ w₂ : World σ}

theorem trans (h₁ : Touches bucket w w₁) (h₂ : Touches bucket w₁ w₂) : Touches bucket w w₂ :=
  ⟨h₂.writing.trans h₁.writing, h₂.count.trans h₁.count, h₂.defaultExpiry.trans h₁.defaultExpiry,
    h₂.walk.trans h₁.walk, fun i hi c => (h₂.others i hi c).trans (h₁.others i hi c),
    h₁.journal.trans h₂.journal⟩

theorem note (w : World σ) (m : Mark) : Touches bucket w (w.note m) :=
  ⟨rfl, rfl, rfl, rfl, fun _ _ _ => rfl, List.suffix_cons _ _⟩

theorem lowerMemory (w : World σ) (n : UInt64) : Touches bucket w (w.lowerMemory n) :=
  ⟨rfl, rfl, rfl, rfl, fun _ _ _ => rfl, List.suffix_cons _ _⟩

theorem recount (w : World σ) (before after : Bool) :
    Touches bucket w (w.recount before after) := by
  cases before <;> cases after
  · exact ⟨rfl, rfl, rfl, rfl, fun _ _ _ => rfl, List.suffix_refl _⟩
  · exact ⟨rfl, rfl, rfl, rfl, fun _ _ _ => rfl, List.suffix_cons _ _⟩
  · exact ⟨rfl, rfl, rfl, rfl, fun _ _ _ => rfl, List.suffix_cons _ _⟩
  · exact ⟨rfl, rfl, rfl, rfl, fun _ _ _ => rfl, List.suffix_refl _⟩

theorem givenBack (w : World σ) (id? : Option PayloadId) : Touches bucket w (w.givenBack id?) := by
  cases id? with
  | some id => exact note w _
  | none => exact ⟨rfl, rfl, rfl, rfl, fun _ _ _ => rfl, List.suffix_refl _⟩

theorem erase (w : World σ) (client : ClientId) : Touches bucket w (w.erase bucket client) where
  writing := rfl
  count := Store.bucketCount_erase ..
  defaultExpiry := rfl
  walk := rfl
  others i hi c := by
    change (w.store.erase bucket client).record? i c = _
    rw [Store.record?_erase, if_neg (fun h => hi h.1)]
  journal := List.suffix_refl _

theorem keep (w : World σ) (client : ClientId) (fresh : Record) :
    Touches bucket w (w.keep bucket client fresh) where
  writing := rfl
  count := Store.bucketCount_file ..
  defaultExpiry := rfl
  walk := rfl
  others i hi c := by
    change ((w.raiseMemory fresh.weight).store.file bucket client fresh).record? i c = _
    rw [Store.record?_file, if_neg (fun h => hi h.2.1)]
    rfl
  journal := (List.suffix_cons _ _).trans (List.suffix_cons _ _)

end Touches

namespace Inside

variable {bucket : Nat} {w w₁ w₂ : World σ}

theorem enter (w : World σ) (bucket : Nat) : Inside bucket w (w.enter bucket) :=
  ⟨rfl, rfl, rfl, rfl, fun _ _ _ => rfl, List.suffix_cons _ _⟩

theorem touch (h : Inside bucket w w₁) (hb : bucket ∉ w.store.writing)
    (ht : Touches bucket w₁ w₂) : Inside bucket w w₂ where
  writing := ht.writing.trans h.writing
  count := ht.count.trans h.count
  defaultExpiry := ht.defaultExpiry.trans h.defaultExpiry
  walk := ht.walk.trans h.walk
  held i hi c := (ht.others i (fun e => hb (e ▸ hi)) c).trans (h.held i hi c)
  journal := h.journal.trans ht.journal

theorem talk (h : Inside bucket w w₁) (hf : Frame w₁ w₂) : Inside bucket w w₂ where
  writing := hf.writing.trans h.writing
  count := hf.count.trans h.count
  defaultExpiry := hf.defaultExpiry.trans h.defaultExpiry
  walk := hf.walk.trans h.walk
  held i hi c := by
    have hmem : i ∈ w₁.store.writing := by
      rw [h.writing]
      exact List.mem_cons_of_mem _ hi
    exact (hf.held i hmem c).trans (h.held i hi c)
  journal := h.journal.trans hf.journal

theorem leave (h : Inside bucket w w₁) : Frame w (w₁.leave bucket) where
  writing := by
    change w₁.store.writing.erase bucket = _
    rw [h.writing, List.erase_cons_head]
  count := h.count
  defaultExpiry := h.defaultExpiry
  walk := h.walk
  held := h.held
  journal := h.journal.trans (List.suffix_cons _ _)

end Inside

/-! ## Every request leaves the others alone -/

section

open Operation

theorem dismissals_inside (hs : serve.Keeps Frame) {bucket : Nat} {w : World σ}
    (hb : bucket ∉ w.store.writing) {l : List (ClientId × Record)} {u : Unit} {w₁ w₂ : World σ}
    (hw : Inside bucket w w₁)
    (h : (l.forM fun (client, r) => dismiss env serve bucket client r).run w₁ = some (u, w₂)) :
    Inside bucket w w₂ := by
  induction l generalizing w₁ with
  | nil =>
    obtain ⟨_, rfl⟩ := Act.pure_some.1 h
    exact hw
  | cons x rest ih =>
    obtain ⟨w₃, h₁, h₂⟩ := forM_cons_some.1 h
    obtain ⟨w₄, hg, rfl⟩ := dismiss_some h₁
    refine ih ?_ h₂
    have hout : Touches bucket w₁
        ((w₁.recount x.2.object.isLive false).givenBack x.2.object.payloadId?) :=
      (Touches.recount _ _ _).trans (.givenBack _ _)
    have hback := (hw.touch hb hout).talk (release_keeps Frame.lasting hs hg)
    exact hback.touch hb (((Touches.lowerMemory _ _).trans (.erase _ _)).trans (.note _ _))

/-- While one record is dismissed, the others of its bucket stay where they are. -/
theorem dismissal_leaves (hs : serve.Keeps Frame) {bucket : Nat} {client : ClientId} {r : Record}
    {u : Unit} {w w' : World σ} (hb : bucket ∈ w.store.writing)
    (h : (dismiss env serve bucket client r).run w = some (u, w')) :
    w'.store.writing = w.store.writing ∧ w'.store.bucketCount = w.store.bucketCount ∧
      ∀ c, c ≠ client → w'.store.record? bucket c = w.store.record? bucket c := by
  obtain ⟨w₁, hg, rfl⟩ := dismiss_some h
  have hf := release_keeps Frame.lasting hs hg
  refine ⟨by simpa using hf.writing, by simpa using hf.count, ?_⟩
  intro c hc
  have hheld := hf.held bucket (by simpa using hb) c
  simpa [Store.record?_erase, hc] using hheld

/-- What the dismissal of one record keeps, the dismissal of all keeps. Those that are
still to be dismissed are always there. -/
theorem dismissals_keep (hs : serve.Keeps Frame) {bucket : Nat} {P : World σ → Prop}
    (step : ∀ (client : ClientId) (r : Record) (w w' : World σ), bucket ∈ w.store.writing →
      bucket < w.store.bucketCount → w.store.record? bucket client = some r → P w →
        (dismiss env serve bucket client r).run w = some ((), w') → P w')
    {l : List (ClientId × Record)} (hl : (l.map Prod.fst).Nodup) {u : Unit} {w w' : World σ}
    (hb : bucket ∈ w.store.writing) (hlt : bucket < w.store.bucketCount)
    (known : ∀ x ∈ l, w.store.record? bucket x.1 = some x.2) (hw : P w)
    (h : (l.forM fun (client, r) => dismiss env serve bucket client r).run w = some (u, w')) :
    P w' := by
  induction l generalizing w with
  | nil =>
    obtain ⟨_, rfl⟩ := Act.pure_some.1 h
    exact hw
  | cons x rest ih =>
    obtain ⟨w₁, h₁, h₂⟩ := forM_cons_some.1 h
    obtain ⟨hx, hrest⟩ := List.nodup_cons.1 hl
    obtain ⟨hwriting, hcount, hothers⟩ := dismissal_leaves hs hb h₁
    refine ih hrest (hwriting ▸ hb) (hcount ▸ hlt) ?_
      (step x.1 x.2 w w₁ hb hlt (known x List.mem_cons_self) hw h₁) h₂
    intro y hy
    have hne : y.1 ≠ x.1 := fun heq => hx (heq ▸ List.mem_map_of_mem hy)
    exact (hothers y.1 hne).trans (known y (List.mem_cons_of_mem _ hy))

theorem Store.open_of_objection {s : Store} {q : Request} (hm : q.isMutation = true)
    (h : s.objection q = none) : q.bucket < s.bucketCount ∧ q.bucket ∉ s.writing := by
  rw [← s.barrier_eq_none_iff]
  unfold objection at h
  split at h
  · split at h
    · exact h
    · cases h
  · split at h
    · cases h
    · exact h
  · cases hm
  · exact h

theorem course_frame (hs : serve.Keeps Frame) {q : Request} {w w' : World σ} {reply : q.Reply}
    (h : Course env serve q w reply w') : Frame w w' := by
  have hL := Frame.lasting (σ := σ)
  cases h with
  | turnedAway => exact hL.refl w
  | @putNew client session stamp bucket _ door =>
    have hb : bucket ∉ w.store.writing := (Store.open_of_objection rfl door).2
    exact ((Inside.enter w bucket).touch hb ((Touches.recount _ _ _).trans (.keep _ _ _))).leave
  | @putOver client session stamp bucket old _ w₁ door known given =>
    have hb : bucket ∉ w.store.writing := (Store.open_of_objection rfl door).2
    have hout : Touches bucket (w.enter bucket)
        (((w.enter bucket).lowerMemory old.weight).givenBack old.object.payloadId?) :=
      (Touches.lowerMemory _ _).trans (.givenBack _ _)
    have hback := ((Inside.enter w bucket).touch hb hout).talk (release_keeps hL hs given)
    exact (hback.touch hb ((Touches.recount _ _ _).trans (.keep _ _ _))).leave
  | @strangerLeft client stamp sendWill bucket expiry _ door =>
    have hb : bucket ∉ w.store.writing := (Store.open_of_objection rfl door).2
    exact ((Inside.enter w bucket).touch hb ((Touches.recount _ _ _).trans (.keep _ _ _))).leave
  | @clientLeft client stamp sendWill bucket expiry old kept away _ _ w₁ w₂ w₃ door known will
      checked resolved =>
    have hb : bucket ∉ w.store.writing := (Store.open_of_objection rfl door).2
    have h₀ := (Inside.enter w bucket).touch hb (Touches.lowerMemory _ old.weight)
    have h₁ : Inside bucket w w₁ := by
      rcases willOrNone_cases hL hs will with ⟨_, rfl⟩ | ⟨_, hback⟩
      · exact h₀
      · exact (h₀.touch hb (.givenBack _ _)).talk hback
    have h₂ : Inside bucket w w₂ := by
      rcases dropDangling_cases hL hs checked with ⟨_, hf⟩ | ⟨_, _, _, _, hf, rfl⟩
      · exact h₁.talk hf
      · exact (h₁.talk hf).touch hb (.note _ _)
    have h₃ := (h₂.touch hb ((Touches.recount _ _ _).trans (.keep _ _ _))).talk
      (attachPayload_keeps hL hs resolved)
    exact h₃.leave
  | @removedNone client bucket _ door => exact (Inside.enter w bucket).leave
  | @removed client bucket old _ w₁ door known given =>
    have hb : bucket ∉ w.store.writing := (Store.open_of_objection rfl door).2
    have hout : Touches bucket (w.enter bucket)
        ((((w.enter bucket).erase bucket client).recount old.object.isLive false).givenBack
          old.object.payloadId?) :=
      ((Touches.erase _ _).trans (.recount _ _ _)).trans (.givenBack _ _)
    have hback := ((Inside.enter w bucket).touch hb hout).talk (release_keeps hL hs given)
    exact (hback.touch hb ((Touches.lowerMemory _ _).trans (.note _ _))).leave
  | @purged bucket expired _ w₁ w₂ door ended dismissed announced =>
    have hb : bucket ∉ w.store.writing := (Store.open_of_objection rfl door).2
    have h₁ := dismissals_inside hs hb (Inside.enter w bucket) dismissed
    exact (h₁.talk (announcements_keep hL hs announced)).leave
  | @noSession client expiry bucket => exact (Inside.enter w bucket).leave
  | @expirySet client expiry bucket old _ door =>
    have hb : bucket ∉ w.store.writing := (Store.open_of_objection rfl door).2
    exact ((Inside.enter w bucket).touch hb
      (((Touches.recount _ _ _).trans (.lowerMemory _ _)).trans (.keep _ _ _))).leave
  | @willStays client bucket => exact (Inside.enter w bucket).leave
  | @willCancelled client bucket old _ w₁ door known away given =>
    have hb : bucket ∉ w.store.writing := (Store.open_of_objection rfl door).2
    have hout : Touches bucket (w.enter bucket)
        (((w.enter bucket).lowerMemory old.weight).givenBack old.object.payloadId?) :=
      (Touches.lowerMemory _ _).trans (.givenBack _ _)
    have hback := ((Inside.enter w bucket).touch hb hout).talk (release_keeps hL hs given)
    exact (hback.touch hb (.keep _ _ _)).leave
  | notFound => exact hL.refl w
  | foundBare => exact hL.refl w
  | foundWhole _ _ _ resolved => exact attachPayload_keeps hL hs resolved

end

theorem attend_frame (hs : serve.Keeps Frame) : (attend env serve).Keeps Frame := by
  intro q w reply w' h
  obtain ⟨w₁, hc, rfl⟩ := attend_course h
  have hf := course_frame hs hc
  exact ⟨hf.writing, hf.count, hf.defaultExpiry, hf.walk, hf.held,
    ((List.suffix_cons _ _).trans hf.journal).trans (List.suffix_cons _ _)⟩

/-- Whatever happens meanwhile, a bucket that is being written is left alone. -/
theorem perform_frame (env : Collaborators σ) (depth : Nat) : (perform env depth).Keeps Frame :=
  perform_keeps (fun _ => attend_frame) depth

end BrokerSessions
