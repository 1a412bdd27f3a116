-- Requests inside requests. A collaborator may ask for changes while it is called, and those
-- changes call collaborators again. Each change holds a bucket that no other one holds until
-- it is done, so every level of nesting takes one more bucket, and the buckets run out before
-- anything can go on forever.
import BrokerSessions.Proofs.Writers

namespace BrokerSessions

variable {σ α β : Type}

/-! ## Programs that come to an end -/

/-- While those of `l` of the `n` buckets are being written, the program comes to an end. The
journal makes no difference to it. -/
def Ends (n : Nat) (l : List Nat) (m : Act σ α) : Prop := Paced False (Abreast n l l) m m

theorem Ends.run {m : Act σ α} {w : World σ} (h : Ends w.store.bucketCount w.store.writing m) :
    ∃ a w', m.run w = some (a, w') := by
  obtain ⟨a, v, _, hv, -⟩ := h.agree (.refl w)
  exact ⟨a, v, hv⟩

/-- Everything but a look for bytes. -/
def Request.isBrief : Request → Bool
  | find _ _ _ withWill => !withWill
  | _ => true

section

variable {n : Nat} {l : List Nat} {env : Collaborators σ} {serve : Server σ}

/-- A change comes to an end if the collaborators do while its bucket is being written too. A
look for bytes comes to an end if they do at once. -/
theorem attend_ends {q : Request}
    (hc : q.isMutation = true → q.bucket < n → q.bucket ∉ l →
      Company False (Abreast n (q.bucket :: l) (q.bucket :: l)) env env serve serve)
    (hlook : q.isBrief = false → Company False (Abreast n l l) env env serve serve) :
    Ends n l (attend env serve q) := by
  by_cases hshut : q.isMutation = true ∧ ¬ (q.bucket < n ∧ q.bucket ∉ l)
  · intro w w' hw
    obtain ⟨why, hwhy⟩ : ∃ why, w.store.objection q = some why := by
      refine Option.ne_none_iff_exists'.1 fun hnone => hshut.2 ?_
      rw [← hw.count, ← hw.writing]
      exact Store.open_of_objection hshut.1 hnone
    have hwhy' : w'.store.objection q = some why := by rw [hw.store_eq, hwhy]
    exact .inr ⟨_, _, _, attend_turnedAway hwhy, attend_turnedAway hwhy', (hw.note _ _).note _ _⟩
  · refine attend_paced (fun _ => Iff.rfl) rfl fun hcall => ?_
    unfold Request.during
    split
    · rename_i hm
      obtain ⟨hlt, hfree⟩ := not_not.1 fun h => hshut ⟨hm, h⟩
      exact hc hm hlt hfree
    · rename_i hm
      cases q with
      | find _ _ _ withWill => exact hlook (by simpa [Request.isBrief, Request.mayCall] using hcall)
      | _ => exact absurd rfl hm

end

/-! ## The buckets run out -/

/-- Only changes are asked for, and looks that want no bytes. -/
def Dialogue.Brief : Dialogue σ α → Prop
  | done _ => True
  | look next => ∀ store own, (next store own).Brief
  | keep _ next => next.Brief
  | ask q next => q.isBrief = true ∧ ∀ reply, (next reply).Brief

/-- The collaborators ask for changes as they like, and for no bytes. -/
structure Collaborators.Brief (env : Collaborators σ) : Prop where
  release : ∀ id, (env.release id).Brief
  fetch : ∀ id, (env.fetch id).Brief
  announce : ∀ instant client, (env.announce instant client).Brief

theorem Dialogue.Silent.brief {d : Dialogue σ α} (h : d.Silent) : d.Brief := by
  induction d with
  | done a => trivial
  | look next ih => exact fun store own => ih store own (h store own)
  | keep own next ih => exact ih h
  | ask q next => exact absurd h id

theorem Collaborators.Passive.brief {env : Collaborators σ} (h : env.Passive) : env.Brief where
  release id := (h.release id).brief
  fetch id := (h.fetch id).brief
  announce instant client := (h.announce instant client).brief

theorem Dialogue.Brief.ends {n : Nat} {l : List Nat} {serve : Server σ} {d : Dialogue σ α}
    (h : d.Brief) (hs : ∀ q : Request, q.isBrief = true → Ends n l (serve q)) :
    Ends n l (d.run serve) := by
  induction d with
  | done a => exact Paced.pure a
  | look next ih =>
    apply Paced.look
    intro v v' hv
    rw [hv.store_eq, hv.outside]
    exact ih _ _ (h v.store v.outside)
  | keep own next ih => exact (Paced.modify fun _ _ hv => hv.keep own).bind fun _ => ih h
  | ask q next ih => exact (hs q h.1).bind fun reply => ih reply (h.2 reply)

/-- How many of `n` buckets are not among those of `l`. -/
def free (n : Nat) (l : List Nat) : Nat := (Finset.range n \ l.toFinset).card

theorem free_le (n : Nat) (l : List Nat) : free n l ≤ n :=
  (Finset.card_le_card Finset.sdiff_subset).trans_eq (Finset.card_range n)

/-- Who takes a free bucket leaves fewer of them. -/
theorem free_cons_lt {n bucket : Nat} {l : List Nat} (hlt : bucket < n) (hfree : bucket ∉ l) :
    free n (bucket :: l) < free n l := by
  unfold free
  rw [List.toFinset_cons, Finset.sdiff_insert]
  apply Finset.card_erase_lt_of_mem
  simp [hlt, hfree]

section

variable {n : Nat} {env : Collaborators σ}

theorem Collaborators.Brief.company (h : env.Brief) {l : List Nat} {serve : Server σ}
    (hs : ∀ q : Request, q.isBrief = true → Ends n l (serve q)) :
    Company False (Abreast n l l) env env serve serve :=
  .of_runs (fun id => (h.release id).ends hs) (fun id => (h.fetch id).ends hs)
    (fun instant client => (h.announce instant client).ends hs) rfl

/-- As many levels as there are free buckets are enough, and one more to be turned away. -/
theorem perform_ends (h : env.Brief) {depth : Nat} {l : List Nat} (hdepth : free n l ≤ depth)
    {q : Request} (hq : q.isBrief = true) : Ends n l (perform env (depth + 1) q) := by
  induction depth generalizing l q with
  | zero =>
    refine attend_ends (fun _ hlt hfree => ?_) fun hlook => ?_
    · have hless := free_cons_lt hlt hfree
      omega
    · simp [hq] at hlook
  | succ depth ih =>
    refine attend_ends (fun _ hlt hfree => h.company fun p hp => ih ?_ hp) fun hlook => ?_
    · have hless := free_cons_lt hlt hfree
      omega
    · simp [hq] at hlook

end

/-- Two more levels than there are buckets are enough for every request, looks for bytes too. -/
theorem Collaborators.Brief.performs {env : Collaborators σ} (h : env.Brief) (w : World σ)
    {depth : Nat} (hdepth : w.store.bucketCount + 2 ≤ depth) (q : Request) :
    ∃ reply w', (perform env depth q).run w = some (reply, w') := by
  have hinner : ∀ (l : List Nat) (p : Request), p.isBrief = true →
      Ends w.store.bucketCount l (perform env (depth - 1) p) := by
    intro l p hp
    obtain ⟨levels, hlevels⟩ : ∃ levels, depth - 1 = levels + 1 := ⟨depth - 2, by omega⟩
    rw [hlevels]
    have henough := free_le w.store.bucketCount l
    exact perform_ends h (by omega) hp
  obtain ⟨reply, w', hrun⟩ := (attend_ends (q := q) (fun _ _ _ => h.company (hinner _))
    fun _ => h.company (hinner _)).run
  obtain ⟨levels, rfl⟩ : ∃ levels, depth = levels + 1 := ⟨depth - 1, by omega⟩
  exact ⟨reply, w', hrun⟩

/-! ## More levels than enough -/

section

variable {n : Nat} {env : Collaborators σ}

/-- What comes to an end comes to the same if requests may nest deeper. -/
theorem perform_deeper {depth depth' : Nat} (hle : depth ≤ depth') (l : List Nat) (q : Request) :
    Paced True (Abreast n l l) (perform env depth q) (perform env depth' q) := by
  induction depth generalizing depth' l q with
  | zero => exact fun _ _ _ => .inl ⟨trivial, rfl⟩
  | succ depth ih =>
    cases depth' with
    | zero => cases hle
    | succ depth' =>
      have hless : depth ≤ depth' := Nat.le_of_succ_le_succ hle
      exact attend_paced (fun _ => Iff.rfl) rfl fun _ =>
        .of_runs (fun _ => Dialogue.run_paced (ih hless _) _)
          (fun _ => Dialogue.run_paced (ih hless _) _)
          (fun _ _ => Dialogue.run_paced (ih hless _) _) rfl

theorem perform_same {depth depth' : Nat} (hle : depth ≤ depth') {q : Request} {reply : q.Reply}
    {w w' : World σ} (h : (perform env depth q).run w = some (reply, w')) :
    ∃ v, (perform env depth' q).run w = some (reply, v) ∧ v.store = w'.store ∧
      v.outside = w'.outside := by
  rcases perform_deeper hle w.store.writing q w w (Abreast.refl w) with
    ⟨-, hnone⟩ | ⟨_, u, v, hu, hv, huv⟩
  · rw [h] at hnone
    cases hnone
  · rw [h] at hu
    cases hu
    exact ⟨v, hv, huv.store_eq, huv.outside⟩

end

/-! ## Every moment of a run -/

/-- These are different buckets out of `n`. -/
structure Apart (n : Nat) (l : List Nat) : Prop where
  distinct : l.Nodup
  below : ∀ i ∈ l, i < n

namespace Apart

variable {n : Nat} {l : List Nat}

theorem cons {bucket : Nat} (h : Apart n l) (hlt : bucket < n) (hfree : bucket ∉ l) :
    Apart n (bucket :: l) where
  distinct := h.distinct.cons hfree
  below := by
    intro i hi
    rcases List.mem_cons.1 hi with rfl | hi
    · exact hlt
    · exact h.below i hi

theorem length_le (h : Apart n l) : l.length ≤ n :=
  (h.distinct.subperm fun i hi => List.mem_range.2 (h.below i hi)).length_le.trans_eq
    List.length_range

/-- Where all buckets are taken, there is no other one to be taken. -/
theorem mem_of_length (h : Apart n l) (hfull : l.length = n) {bucket : Nat} (hlt : bucket < n) :
    bucket ∈ l := by
  by_contra hfree
  have hmore := (h.cons hlt hfree).length_le
  rw [List.length_cons] at hmore
  omega

end Apart

/-- The buckets that are held by unfinished changes at a moment. A request that has only just
come in holds nothing yet. -/
def holding : List Mark → List Nat
  | .called _ :: before => held (pending before)
  | moment => held (pending moment)

/-- At every moment so far, the unfinished changes held different buckets out of `n`. Whenever
a change came in while all buckets were held, the next thing that happened was its refusal. -/
structure Past (n : Nat) (journal : List Mark) : Prop where
  apart : ∀ moment, moment <:+ journal → Apart n (holding moment)
  full : ∀ q before, .called q :: before <:+ journal → q.isMutation = true →
    (holding (.called q :: before)).length = n →
      ∃ why, .answered q (some why) :: .called q :: before <:+ journal

/-- Those of `l` are being written, as the journal says, and so it always was. -/
structure Nested (n : Nat) (l : List Nat) (journal : List Mark) : Prop where
  writers : l = held (pending journal)
  apart : Apart n l
  past : Past n journal

namespace Past

variable {n : Nat} {journal : List Mark}

/-- One more mark. It is not a call that finds all buckets held. -/
theorem cons {m : Mark} (h : Past n journal) (hnow : Apart n (holding (m :: journal)))
    (hcall : ∀ q, m = .called q → q.isMutation = true → (holding (m :: journal)).length ≠ n) :
    Past n (m :: journal) where
  apart moment hs := by
    rcases List.suffix_cons_iff.1 hs with rfl | hs
    · exact hnow
    · exact h.apart moment hs
  full q before hs hm hlen := by
    rcases List.suffix_cons_iff.1 hs with heq | hs
    · cases heq
      exact absurd hlen (hcall q rfl hm)
    · obtain ⟨why, hwhy⟩ := h.full q before hs hm hlen
      exact ⟨why, hwhy.trans (List.suffix_cons _ _)⟩

/-- A request comes in and is refused at once. -/
theorem refused (h : Past n journal) (hnow : Apart n (held (pending journal))) (q : Request)
    (why : Refusal) : Past n (.answered q (some why) :: .called q :: journal) where
  apart moment hs := by
    rcases List.suffix_cons_iff.1 hs with rfl | hs
    · exact hnow
    · rcases List.suffix_cons_iff.1 hs with rfl | hs
      · exact hnow
      · exact h.apart moment hs
  full p before hs hm hlen := by
    rcases List.suffix_cons_iff.1 hs with heq | hs
    · cases heq
    · rcases List.suffix_cons_iff.1 hs with heq | hs
      · cases heq
        exact ⟨why, List.suffix_refl _⟩
      · obtain ⟨why', hwhy⟩ := h.full p before hs hm hlen
        exact ⟨why', hwhy.trans ((List.suffix_cons _ _).trans (List.suffix_cons _ _))⟩

end Past

namespace Nested

variable {n : Nat} {l : List Nat} {journal : List Mark} {q : Request} {outer : List Request}

theorem holding_eq (h : Nested n l journal) : Apart n (held (pending journal)) :=
  h.writers ▸ h.apart

theorem note (h : Nested n l journal) {m : Mark} (hm : m.isBracket = false) :
    Nested n l (m :: journal) := by
  have hpending : pending (m :: journal) = pending journal :=
    @pending_append [m] (by simpa using hm) journal
  have hholding : holding (m :: journal) = held (pending journal) := by
    cases m with
    | called => cases hm
    | _ => exact congrArg held hpending
  refine ⟨h.writers.trans (congrArg held hpending.symm), h.apart, h.past.cons ?_ ?_⟩
  · rw [hholding]
    exact h.holding_eq
  · rintro q rfl
    cases hm

theorem marks (h : Nested n l journal) {since : List Mark}
    (hs : ∀ m ∈ since, m.isBracket = false) : Nested n l (since ++ journal) := by
  induction since with
  | nil => exact h
  | cons m rest ih =>
    exact (ih fun m' hm' => hs m' (List.mem_cons_of_mem _ hm')).note (hs m List.mem_cons_self)

theorem refused (h : Nested n l journal) (why : Refusal) :
    Nested n l (.answered q (some why) :: .called q :: journal) :=
  ⟨h.writers, h.apart, h.past.refused h.holding_eq q why⟩

/-- A look comes in. -/
theorem called (h : Nested n l journal) (hq : q.isMutation = false) :
    Nested n l (.called q :: journal) where
  writers := by simp [pending, held, Request.during, hq, h.writers]
  apart := h.apart
  past := h.past.cons h.holding_eq fun p hp hm => by
    cases hp
    rw [hq] at hm
    cases hm

/-- A change comes in and finds its bucket free. -/
theorem opened (h : Nested n l journal) (hq : q.isMutation = true) (hlt : q.bucket < n)
    (hfree : q.bucket ∉ l) :
    Nested n (q.bucket :: l) (.opened q.bucket :: .called q :: journal) := by
  have hheld : held (pending (.called q :: journal)) = q.bucket :: l := by
    simp [pending, held, Request.during, hq, h.writers]
  have hcalled : Past n (.called q :: journal) := by
    refine h.past.cons h.holding_eq fun p hp _ hlen => hfree ?_
    have hfull : l.length = n := h.writers ▸ hlen
    exact h.apart.mem_of_length hfull hlt
  have happart := h.apart.cons hlt hfree
  refine ⟨hheld.symm, happart, hcalled.cons ?_ fun _ hcall => by cases hcall⟩
  change Apart n (held (pending (.called q :: journal)))
  rwa [hheld]

/-- The latest request is answered. -/
theorem answered (h : Nested n (q.during l) journal) (hpending : pending journal = q :: outer)
    (houter : l = held outer) (happart : Apart n l) (refusal : Option Refusal) :
    Nested n l (.answered q refusal :: journal) := by
  have hheld : held (pending (.answered q refusal :: journal)) = l := by
    simp [pending, hpending, houter]
  refine ⟨hheld.symm, happart, h.past.cons ?_ fun _ hcall => by cases hcall⟩
  change Apart n (held (pending (.answered q refusal :: journal)))
  rwa [hheld]

end Nested

/-- No request was finished that had begun before, and at every moment since, the unfinished
changes held different buckets. -/
structure Nests (w w' : World σ) : Prop where
  count : w'.store.bucketCount = w.store.bucketCount
  writing : w'.store.writing = w.store.writing
  stack : pending w'.journal = pending w.journal
  nested : Nested w.store.bucketCount w.store.writing w.journal →
    Nested w.store.bucketCount w.store.writing w'.journal

namespace Nests

variable {w w' : World σ}

theorem of_marks (since : List Mark) (h : ∀ m ∈ since, m.isBracket = false)
    (hj : w'.journal = since ++ w.journal)
    (hcount : w'.store.bucketCount = w.store.bucketCount)
    (hwriting : w'.store.writing = w.store.writing) : Nests w w' :=
  ⟨hcount, hwriting, by rw [hj, pending_append h], fun hn => hj ▸ hn.marks h⟩

theorem chatty : Chatty (Nests (σ := σ)) where
  refl _ := ⟨rfl, rfl, rfl, id⟩
  trans h₁ h₂ := by
    refine ⟨h₂.count.trans h₁.count, h₂.writing.trans h₁.writing, h₂.stack.trans h₁.stack,
      fun hn => ?_⟩
    have hnested := h₂.nested
    rw [h₁.count, h₁.writing] at hnested
    exact hnested (h₁.nested hn)
  outside _ _ := ⟨rfl, rfl, rfl, id⟩

theorem ownWork (w w' : World σ) (h : OwnWork w w') : Nests w w' := by
  obtain ⟨since, hj, hm⟩ := h.marks
  exact of_marks since (fun m h => (hm m h).1) hj h.count h.writing

theorem release (w : World σ) (id : PayloadId) : Nests w (w.note (.released id)) :=
  of_marks [.released id] (by simp [Mark.isBracket]) rfl rfl rfl

end Nests

section

variable {env : Collaborators σ} {serve : Server σ} {w w' : World σ}

theorem attend_nests (hs : serve.Keeps Nests) : (attend env serve).Keeps Nests := by
  intro q w reply w' h
  obtain ⟨w₁, hc, rfl⟩ := attend_course h
  rcases course_inside Nests.chatty Nests.ownWork hs hc (fun _ _ => Nests.release) with
    ⟨why, -, hwhy, rfl⟩ | ⟨hdoor, -, hinside⟩
  · rw [hwhy]
    exact ⟨rfl, rfl, rfl, fun hn => hn.refused why⟩
  · split at hinside
    · rename_i hm
      obtain ⟨w₂, hwork, rfl⟩ := hinside
      obtain ⟨hlt, hfree⟩ := Store.open_of_objection hm hdoor
      have hpending : pending (w₂.leave q.bucket).journal = q :: pending w.journal := hwork.stack
      refine ⟨hwork.count, ?_, congrArg List.tail hpending, fun hn => ?_⟩
      · change w₂.store.writing.erase q.bucket = _
        rw [hwork.writing]
        exact List.erase_cons_head ..
      · have hopened := hwork.nested (hn.opened hm hlt hfree)
        refine Nested.answered (q := q) ?_ hpending hn.writers hn.apart _
        rw [Request.during, if_pos hm]
        exact hopened.note rfl
    · rename_i hm
      rw [Bool.not_eq_true] at hm
      refine ⟨hinside.count, hinside.writing, congrArg List.tail hinside.stack, fun hn => ?_⟩
      refine Nested.answered (q := q) ?_ hinside.stack hn.writers hn.apart _
      rw [Request.during, hm]
      exact hinside.nested (hn.called hm)

theorem perform_nests (env : Collaborators σ) (depth : Nat) : (perform env depth).Keeps Nests :=
  perform_keeps (fun _ => attend_nests) depth

theorem Reached.past (h : Reached env w) : Past w.store.bucketCount w.journal := by
  obtain ⟨c, walk, s, own, hc, hn⟩ := h.since Nests.chatty (perform_nests env)
  have hstart : Nested s.bucketCount s.writing [] := by
    rw [Store.writing_of_ofConfig hc]
    refine ⟨rfl, ⟨List.nodup_nil, nofun⟩, fun moment hs => ?_, fun q before hs => ?_⟩
    · rw [List.suffix_nil.1 hs]
      exact ⟨List.nodup_nil, nofun⟩
    · cases List.suffix_nil.1 hs
  rw [hn.count]
  exact (hn.nested hstart).past

end

/-! ## Nesting comes to an end -/

/-- Collaborators may ask for changes as they like, in the middle of every change, and each
change comes to an end all the same, and to the same end however deep requests may nest. At
every moment the unfinished changes hold different buckets, so there are never more of them
than buckets. Who asks for a change when all buckets are held is refused at once, and nobody
is called meanwhile. -/
theorem nested_changes_end {env : Collaborators σ} (henv : env.Brief) {w : World σ}
    (hw : Reached env w) :
    (∀ q : Request, q.isMutation = true → ∃ (reply : q.Reply) (s : Store) (own : σ),
      ∀ depth, w.store.bucketCount ≤ depth → ∃ journal,
        (perform env (depth + 1) q).run w = some (reply, { store := s, outside := own, journal })) ∧
    (∀ moment, moment <:+ w.journal → (holding moment).Nodup ∧
      (∀ i ∈ holding moment, i < w.store.bucketCount) ∧
        (holding moment).length ≤ w.store.bucketCount) ∧
    (∀ q before, .called q :: before <:+ w.journal → q.isMutation = true →
      (holding (.called q :: before)).length = w.store.bucketCount →
        ∃ why, .answered q (some why) :: .called q :: before <:+ w.journal) := by
  refine ⟨fun q hm => ?_, fun moment hs => ?_, hw.past.full⟩
  · have hbrief : q.isBrief = true := by
      cases q with
      | find => cases hm
      | _ => rfl
    obtain ⟨reply, v, hv⟩ :=
      (perform_ends henv (free_le w.store.bucketCount w.store.writing) hbrief).run
    refine ⟨reply, v.store, v.outside, fun depth hdepth => ?_⟩
    obtain ⟨u, hu, hstore, houtside⟩ := perform_same (Nat.succ_le_succ hdepth) hv
    refine ⟨u.journal, hu.trans ?_⟩
    rw [← hstore, ← houtside]
  · have hmoment := hw.past.apart moment hs
    exact ⟨hmoment.distinct, hmoment.below, hmoment.length_le⟩

/-- Two clients with wills come, and one of them is forgotten. -/
def domino : Dialogue Timestamp Unit := do
  let will : Will := { publication := { topic := "" }, payloadId := 1 }
  let _ ← Dialogue.request (.put "b" { connected := true, expiry := 0, will } ⟨1⟩ 1)
  let _ ← Dialogue.request (.put "a" { connected := true, expiry := 0, will } ⟨2⟩ 0)
  let _ ← Dialogue.request (.remove "a" 0)

/-- The client that is forgotten takes the other one with it, and when that one gives its will
back, both buckets are held and one more removal is refused at once. -/
theorem nested_changes_end_domino :
    Collaborators.meddling.Brief ∧ ∃ w, Reached .meddling w ∧ w.store.bucketCount = 2 ∧
      (∃ before why, holding before = [1, 0] ∧
        .answered (.remove "b" 1) (some why) :: .called (.remove "b" 1) :: before <:+ w.journal) ∧
      ∃ reply w', (perform .meddling 3 (.purge 0)).run w = some (reply, w') := by
  have hbrief : Collaborators.meddling.Brief :=
    ⟨fun _ => ⟨rfl, fun _ => trivial⟩, fun _ => trivial, fun _ _ => trivial⟩
  have hend : ((converse .meddling 3 domino).run
      { store := { defaultExpiry := 9, buckets := Array.replicate 2 ∅ }, outside := ⟨0⟩ }).map
        (fun (_, w) => (w.store.bucketCount, (w.journal.drop 9).head?,
          holding (w.journal.drop 9), holding (w.journal.drop 10))) =
      some (2, some (.called (.remove "b" 1)), [1, 0], [1, 0]) := by
    decide +kernel
  obtain ⟨⟨_, w⟩, hrun, hfacts⟩ := Option.map_eq_some_iff.1 hend
  obtain ⟨hcount, hcall, hheld, hbefore⟩ : w.store.bucketCount = 2 ∧
      (w.journal.drop 9).head? = some (.called (.remove "b" 1)) ∧
        holding (w.journal.drop 9) = [1, 0] ∧ holding (w.journal.drop 10) = [1, 0] := by
    simpa using hfacts
  have hreached : Reached .meddling w :=
    .conversed (.start _ (c := { bucketCount := 2, defaultExpiry := 9 }) rfl) hrun
  obtain ⟨hends, -, hfull⟩ := nested_changes_end hbrief hreached
  have hdrop : w.journal.drop 9 = .called (.remove "b" 1) :: w.journal.drop 10 := by
    rw [List.head?_drop] at hcall
    exact List.drop_eq_getElem?_toList_append.trans (by rw [hcall]; rfl)
  rw [hdrop] at hheld
  obtain ⟨why, hwhy⟩ := hfull _ _ (hdrop ▸ List.drop_suffix 9 w.journal) rfl
    (by rw [hheld, hcount]; rfl)
  obtain ⟨reply, s, own, hall⟩ := hends (.purge 0) rfl
  obtain ⟨journal, hpurge⟩ := hall 2 hcount.le
  exact ⟨hbrief, w, hreached, hcount, ⟨_, why, hbefore, hwhy⟩, reply, _, hpurge⟩

end BrokerSessions
