-- What a request does itself. Between the door and its answer it works on its bucket, it
-- talks to the collaborators, and it may give references back. A relation that none of
-- this breaks holds from the door to the answer, whatever the request is.
import BrokerSessions.Proofs.Meanwhile

namespace BrokerSessions

variable {σ : Type}

/-! ## Steps of work -/

/-- A mark that a request came in or was answered. -/
def Mark.isBracket : Mark → Bool
  | .called _ | .answered _ _ => true
  | _ => false

def Mark.isRelease : Mark → Bool
  | .released _ => true
  | _ => false

/-- A step of work of one's own: nobody else has a turn, nobody becomes a writer or stops
being one, and nothing is given back. -/
structure OwnWork (w w' : World σ) : Prop where
  writing : w'.store.writing = w.store.writing
  count : w'.store.bucketCount = w.store.bucketCount
  outside : w'.outside = w.outside
  marks : ∃ since, w'.journal = since ++ w.journal ∧
    ∀ m ∈ since, m.isBracket = false ∧ m.isRelease = false

namespace OwnWork

variable {w w₁ w₂ : World σ}

theorem refl (w : World σ) : OwnWork w w := ⟨rfl, rfl, rfl, [], rfl, by simp⟩

theorem trans (h₁ : OwnWork w w₁) (h₂ : OwnWork w₁ w₂) : OwnWork w w₂ := by
  obtain ⟨since₁, hj₁, hm₁⟩ := h₁.marks
  obtain ⟨since₂, hj₂, hm₂⟩ := h₂.marks
  refine ⟨h₂.writing.trans h₁.writing, h₂.count.trans h₁.count, h₂.outside.trans h₁.outside,
    since₂ ++ since₁, by rw [hj₂, hj₁, List.append_assoc], ?_⟩
  intro m hm
  rcases List.mem_append.1 hm with hm | hm
  · exact hm₂ m hm
  · exact hm₁ m hm

theorem note (w : World σ) {m : Mark} (hb : m.isBracket = false) (hr : m.isRelease = false) :
    OwnWork w (w.note m) := ⟨rfl, rfl, rfl, [m], rfl, by simp [hb, hr]⟩

theorem lowerMemory (w : World σ) (n : UInt64) : OwnWork w (w.lowerMemory n) :=
  ⟨rfl, rfl, rfl, [_], rfl, by simp [Mark.isBracket, Mark.isRelease]⟩

theorem recount (w : World σ) (before after : Bool) : OwnWork w (w.recount before after) := by
  cases before <;> cases after
  · exact refl w
  · exact ⟨rfl, rfl, rfl, [_], rfl, by simp [Mark.isBracket, Mark.isRelease]⟩
  · exact ⟨rfl, rfl, rfl, [_], rfl, by simp [Mark.isBracket, Mark.isRelease]⟩
  · exact refl w

theorem keep (w : World σ) (bucket : Nat) (client : ClientId) (fresh : Record) :
    OwnWork w (w.keep bucket client fresh) :=
  ⟨rfl, Store.bucketCount_file .., rfl, [_, _], rfl, by simp [Mark.isBracket, Mark.isRelease]⟩

theorem erase (w : World σ) (bucket : Nat) (client : ClientId) :
    OwnWork w (w.erase bucket client) :=
  ⟨rfl, Store.bucketCount_erase .., rfl, [], rfl, by simp⟩

end OwnWork

/-! ## From the door to the answer -/

/-- Whether a request may give references back. A look and a change of an interval do
not, and a connected client keeps its will. -/
def Request.mayRelease (s : Store) : Request → Prop
  | .find .. => False
  | .setExpiry .. => False
  | .cancelWill client bucket =>
    ∃ old, s.record? bucket client = some old ∧ old.object.connected = false
  | _ => True

section

open Operation

variable {R : World σ → World σ → Prop} {env : Collaborators σ} {serve : Server σ}

theorem Chatty.lasting (hR : Chatty R) (hown : ∀ v v', OwnWork v v' → R v v') : Lasting R where
  toChatty := hR
  idle w m hm := by
    apply hown
    cases m with
    | fetched => exact OwnWork.note w rfl rfl
    | announced => exact OwnWork.note w rfl rfl
    | _ => cases hm

theorem release_work (hR : Chatty R) (hown : ∀ v v', OwnWork v v' → R v v')
    (hs : serve.Keeps R) (hrel : ∀ v id, R v (v.note (.released id))) {s : Session} {u : Unit}
    {w w' : World σ} (h : (release env serve s).run w = some (u, w')) : R w w' := by
  refine hR.trans ?_ (release_keeps (hR.lasting hown) hs h)
  cases s.payloadId? with
  | some id => exact hrel w id
  | none => exact hR.refl w

theorem dismissals_work (hR : Chatty R) (hown : ∀ v v', OwnWork v v' → R v v')
    (hs : serve.Keeps R) (hrel : ∀ v id, R v (v.note (.released id))) {bucket : Nat}
    {l : List (ClientId × Record)} {u : Unit} {w w' : World σ}
    (h : (l.forM fun (client, r) => dismiss env serve bucket client r).run w = some (u, w')) :
    R w w' := by
  induction l generalizing w with
  | nil =>
    obtain ⟨_, rfl⟩ := Act.pure_some.1 h
    exact hR.refl w
  | cons x rest ih =>
    obtain ⟨w₁, h₁, h₂⟩ := forM_cons_some.1 h
    obtain ⟨w₂, hg, rfl⟩ := dismiss_some h₁
    have hback : R w w₂ := hR.trans (hown _ _ (.recount w _ _)) (release_work hR hown hs hrel hg)
    have hout : OwnWork w₂ (((w₂.lowerMemory x.2.weight).erase bucket x.1).note
        (.forgotten bucket x.1 x.2)) :=
      ((OwnWork.lowerMemory w₂ _).trans (.erase _ bucket x.1)).trans (.note _ rfl rfl)
    exact hR.trans hback (hR.trans (hown _ _ hout) (ih h₂))

/-- What a request does between the door and its answer. It is turned away there, or it is
a look, or it works inside its bucket. All steps inside are work of its own, or talk, or a
reference is given back, if it may do that. -/
theorem course_inside (hR : Chatty R) (hown : ∀ v v', OwnWork v v' → R v v') (hs : serve.Keeps R)
    {q : Request} {w w' : World σ} {reply : q.Reply} (h : Course env serve q w reply w')
    (hrel : refusalOf reply = none → q.mayRelease w.store → ∀ v id, R v (v.note (.released id))) :
    (∃ why, w.store.objection q = some why ∧ refusalOf reply = some why ∧ w' = w) ∨
      (w.store.objection q = none ∧ (∀ rule, refusalOf reply ≠ some (.preconditionViolated rule)) ∧
        if q.isMutation then ∃ w₁, R (w.enter q.bucket) w₁ ∧ w' = w₁.leave q.bucket
        else R w w') := by
  have hL := hR.lasting hown
  cases h with
  | turnedAway door => exact .inl ⟨_, door, rfl, rfl⟩
  | putNew door =>
    exact .inr ⟨door, nofun, _, hown _ _ ((OwnWork.recount _ _ _).trans (.keep _ _ _ _)), rfl⟩
  | putOver door known given =>
    have hback := release_work hR hown hs (hrel rfl trivial) given
    exact .inr ⟨door, nofun, _, hR.trans (hR.trans (hown _ _ (.lowerMemory _ _)) hback)
      (hown _ _ ((OwnWork.recount _ _ _).trans (.keep _ _ _ _))), rfl⟩
  | strangerLeft door =>
    exact .inr ⟨door, nofun, _, hown _ _ ((OwnWork.recount _ _ _).trans (.keep _ _ _ _)), rfl⟩
  | @clientLeft client stamp sendWill bucket expiry old kept away _ _ w₁ w₂ w₃ door known will
      checked resolved =>
    have hback : ∀ (v : World σ) id?, R v (v.givenBack id?) := by
      rintro v (_ | id)
      · exact hR.refl v
      · exact hrel rfl trivial v id
    have h₁ : R ((w.enter bucket).lowerMemory old.weight) w₁ :=
      willOrNone_keeps hL hs hback will
    have h₂ : R w₁ w₂ :=
      dropDangling_keeps hL hs (fun v _ => hown v _ (.note v rfl rfl)) checked
    have h₃ : R w₂ w₃ := hR.trans (hown _ _ ((OwnWork.recount _ _ _).trans (.keep _ _ _ _)))
      (attachPayload_keeps hL hs resolved)
    exact .inr ⟨door, nofun, w₃, hR.trans (hown _ _ (.lowerMemory _ _))
      (hR.trans h₁ (hR.trans h₂ h₃)), rfl⟩
  | removedNone door => exact .inr ⟨door, nofun, _, hR.refl _, rfl⟩
  | removed door known given =>
    have hback := release_work hR hown hs (hrel rfl trivial) given
    exact .inr ⟨door, nofun, _, hR.trans
      (hR.trans (hown _ _ ((OwnWork.erase _ _ _).trans (.recount _ _ _))) hback)
      (hown _ _ ((OwnWork.lowerMemory _ _).trans (.note _ rfl rfl))), rfl⟩
  | purged door ended dismissed announced =>
    have hgone := dismissals_work hR hown hs (hrel rfl trivial) dismissed
    exact .inr ⟨door, nofun, _, hR.trans hgone (announcements_keep hL hs announced), rfl⟩
  | noSession door => exact .inr ⟨door, nofun, _, hR.refl _, rfl⟩
  | expirySet door =>
    exact .inr ⟨door, nofun, _, hown _ _
      (((OwnWork.recount _ _ _).trans (.lowerMemory _ _)).trans (.keep _ _ _ _)), rfl⟩
  | willStays door => exact .inr ⟨door, nofun, _, hR.refl _, rfl⟩
  | willCancelled door known away given =>
    have hback := release_work hR hown hs (hrel rfl ⟨_, known, away⟩) given
    exact .inr ⟨door, nofun, _, hR.trans (hR.trans (hown _ _ (.lowerMemory _ _)) hback)
      (hown _ _ (.keep _ _ _ _)), rfl⟩
  | notFound door => exact .inr ⟨door, nofun, hR.refl w⟩
  | foundBare door => exact .inr ⟨door, nofun, hR.refl w⟩
  | foundWhole door _ _ resolved =>
    exact .inr ⟨door, nofun, attachPayload_keeps hL hs resolved⟩

end

/-! ## Relations that bear all work -/

/-- A relation that no work on the store breaks, except that a reference is given back. -/
structure Bears (R : World σ → World σ → Prop) : Prop extends Chatty R where
  store : ∀ w s, R w { w with store := s }
  note : ∀ w m, m.isBracket = false → m.isRelease = false → R w (w.note m)

namespace Bears

variable {R : World σ → World σ → Prop}

theorem enter (hR : Bears R) (w : World σ) (bucket : Nat) : R w (w.enter bucket) :=
  hR.trans (hR.store w _) (hR.note _ _ rfl rfl)

theorem leave (hR : Bears R) (w : World σ) (bucket : Nat) : R w (w.leave bucket) :=
  hR.trans (hR.store w _) (hR.note _ _ rfl rfl)

theorem marks (hR : Bears R) (w : World σ) (since : List Mark)
    (h : ∀ m ∈ since, m.isBracket = false ∧ m.isRelease = false) :
    R w { w with journal := since ++ w.journal } := by
  induction since with
  | nil => exact hR.refl w
  | cons m rest ih =>
    obtain ⟨hb, hr⟩ := h m List.mem_cons_self
    exact hR.trans (ih fun m' hm' => h m' (List.mem_cons_of_mem _ hm')) (hR.note _ m hb hr)

theorem ownWork (hR : Bears R) (w w' : World σ) (h : OwnWork w w') : R w w' := by
  obtain ⟨since, hj, hm⟩ := h.marks
  have hw' : w' = { w with store := w'.store, journal := since ++ w.journal } := by
    rw [← hj, ← h.outside]
  rw [hw']
  exact hR.trans (hR.store w w'.store) (hR.marks _ since hm)

/-- Every request works by steps that such a relation bears, and one that may not give
references back does without that step. -/
theorem course {env : Collaborators σ} {serve : Server σ} (hR : Bears R) (hs : serve.Keeps R)
    {q : Request} {w w' : World σ} {reply : q.Reply} (h : Course env serve q w reply w')
    (hrel : refusalOf reply = none → q.mayRelease w.store → ∀ v id, R v (v.note (.released id))) :
    R w w' := by
  rcases course_inside hR.toChatty hR.ownWork hs h hrel with ⟨_, _, _, rfl⟩ | ⟨_, _, hinside⟩
  · exact hR.refl w'
  · split at hinside
    · obtain ⟨w₁, hwork, rfl⟩ := hinside
      exact hR.trans (hR.enter w _) (hR.trans hwork (hR.leave w₁ _))
    · exact hinside

end Bears

end BrokerSessions
