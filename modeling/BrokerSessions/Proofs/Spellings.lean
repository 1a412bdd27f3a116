-- Other spellings of what is written. A record is read by the names of its members and by nothing
-- else. So their order does not matter, members that the record does not have are passed over,
-- and a value that is absent may be left out or written as null, at every depth. Only a length of
-- time is strict: it has no members but its own.
import BrokerSessions.Proofs.RoundTrips
import Mathlib

namespace BrokerSessions

open Wire

/-! ## Members by their names -/

section

variable {α : Type} {members members' before after : List (String × α)} {name : String} {a : α}

theorem lookup_cons_of_eq {m : String × α} (h : name = m.1) :
    (m :: members).lookup name = some m.2 := by
  rw [List.lookup_cons, beq_iff_eq.2 h]

theorem lookup_cons_of_ne {m : String × α} (h : name ≠ m.1) :
    (m :: members).lookup name = members.lookup name := by
  rw [List.lookup_cons, beq_eq_false_iff_ne.2 h]

/-- While no two members have the same name, their order does not matter. -/
theorem lookup_of_perm (hnames : (members.map Prod.fst).Nodup) (h : members.Perm members')
    (name : String) : members.lookup name = members'.lookup name := by
  induction h with
  | nil => rfl
  | cons m _ ih =>
    rw [List.lookup_cons, List.lookup_cons, ih (List.nodup_cons.1 hnames).2]
  | swap m m' rest =>
    obtain ⟨hfirst, -⟩ := List.nodup_cons.1 hnames
    have hne : m'.1 ≠ m.1 := fun heq => hfirst (heq ▸ List.mem_cons_self)
    by_cases hm : name = m.1
    · rw [lookup_cons_of_ne (hm ▸ hne.symm), lookup_cons_of_eq hm, lookup_cons_of_eq hm]
    · rw [lookup_cons_of_ne hm]
      by_cases hm' : name = m'.1
      · rw [lookup_cons_of_eq hm', lookup_cons_of_eq hm']
      · rw [lookup_cons_of_ne hm', lookup_cons_of_ne hm', lookup_cons_of_ne hm]
  | trans h₁ _ ih₁ ih₂ =>
    exact (ih₁ hnames).trans (ih₂ ((h₁.map Prod.fst).nodup_iff.1 hnames))

/-- A member is found if it has the name and nobody before it has. -/
theorem lookup_insert_self :
    (before ++ (name, a) :: after).lookup name = (before.lookup name).or (some a) := by
  rw [List.lookup_append, List.lookup_cons_self]

/-- A member of another name is passed over. -/
theorem lookup_insert_of_ne {other : String} (h : other ≠ name) :
    (before ++ (name, a) :: after).lookup other = (before ++ after).lookup other := by
  rw [List.lookup_append, lookup_cons_of_ne h, List.lookup_append]

theorem lookup_eq_none (h : name ∉ members.map Prod.fst) : members.lookup name = none := by
  rw [List.lookup_eq_none_iff]
  intro m hm
  simpa using fun heq : name = m.1 => h (heq ▸ List.mem_map_of_mem hm)

theorem mem_of_lookup (h : members.lookup name = some a) : (name, a) ∈ members := by
  obtain ⟨front, rest, rfl, -⟩ := List.lookup_eq_some_iff.1 h
  exact List.mem_append_right front List.mem_cons_self

end

/-! ## The members of the records -/

/-- A member of a written record: its name and the type of its value. It may be missing if there
is a value that it stands for then. -/
structure Member where
  name : String
  Value : Type
  wire : Wire Value
  missing : Option Value := none

namespace Member

/-- A member that has to be there. -/
abbrev needed (name : String) (α : Type) [Wire α] : Member :=
  { name, Value := α, wire := inferInstance }

/-- A member whose value may be absent. -/
abbrev optional (name : String) (α : Type) [Wire α] : Member :=
  { name, Value := Option α, wire := inferInstance, missing := some none }

/-- A member that stands for a standard value when it is missing. -/
abbrev preset (name : String) {α : Type} [Wire α] (standard : α) : Member :=
  { name, Value := α, wire := inferInstance, missing := some standard }

/-- The value of a member among those of an object. -/
def readIn (m : Member) (members : List (String × Json)) : Option m.Value :=
  match members.lookup m.name with
  | some j => m.wire.read j
  | none => m.missing

variable {α : Type} [Wire α] (name : String) (members : List (String × Json))

theorem readIn_needed : (needed name α).readIn members = required (members.lookup name) := by
  unfold readIn
  cases members.lookup name <;> rfl

theorem readIn_optional :
    (optional name α).readIn members = ifPresent (members.lookup name) := by
  unfold readIn
  cases members.lookup name <;> rfl

theorem readIn_preset (standard : α) :
    (preset name standard).readIn members = orElse standard (members.lookup name) := by
  unfold readIn
  cases members.lookup name <;> rfl

end Member

/-- The members of the records, in their order. The other types have none. -/
def WireType.members : WireType → List Member
  | config => [
    .preset "bucket_count" Config.standard.bucketCount,
    .preset "default_session_expiry_interval" Config.standard.defaultExpiry,
    .preset "cleanup_interval" Config.standard.cleanupInterval]
  | session => [
    .needed "connected" Bool,
    .needed "session_expiry_interval" Int64,
    .optional "will" Will]
  | will => [
    .needed "publish" Publication,
    .needed "payload_id" PayloadId]
  | publication => [
    .needed "topic" String,
    .optional "payload" Bytes,
    .needed "qos" QoS,
    .needed "retain" Bool,
    .needed "message_expiry_interval" Int64,
    .needed "delay_interval" Int64,
    .optional "payload_format_indicator" PayloadFormat,
    .optional "content_type" String,
    .optional "response_topic" String,
    .optional "correlation_data" Bytes,
    .needed "user_properties" (List UserProperty),
    .needed "broker_id" String]
  | property => [
    .needed "name" String,
    .needed "value" String]
  | pendingWill => [
    .needed "delay_interval" Int64,
    .needed "original_delay_interval" Int64]
  | qos => []
  | format => []
  | timestamp => []

namespace WireType

variable {t : WireType} {members members' : List (String × Json)}

/-- No two members of a record have the same name. -/
theorem nodup_members (t : WireType) : (t.members.map Member.name).Nodup := by
  cases t <;> decide

/-- A record is read by its members and by nothing else. -/
theorem read_congr (ht : t.members ≠ [])
    (h : ∀ m ∈ t.members, m.readIn members = m.readIn members') :
    (read (.object members) : Option t.Value) = read (.object members') := by
  cases t with
  | config =>
    simp only [WireType.members, List.forall_mem_cons, Member.readIn_preset] at h
    obtain ⟨hcount, hexpiry, hinterval, -⟩ := h
    change (read (.object members) : Option Config) = read (.object members')
    rw [Config.read_object, Config.read_object, hcount, hexpiry, hinterval]
  | session =>
    simp only [WireType.members, List.forall_mem_cons, Member.readIn_needed,
      Member.readIn_optional] at h
    obtain ⟨hconnected, hexpiry, hwill, -⟩ := h
    change (read (.object members) : Option Session) = read (.object members')
    rw [Session.read_object, Session.read_object, hconnected, hexpiry, hwill]
  | will =>
    simp only [WireType.members, List.forall_mem_cons, Member.readIn_needed] at h
    obtain ⟨hpublication, hid, -⟩ := h
    change (read (.object members) : Option Will) = read (.object members')
    rw [Will.read_object, Will.read_object, hpublication, hid]
  | publication =>
    simp only [WireType.members, List.forall_mem_cons, Member.readIn_needed,
      Member.readIn_optional] at h
    obtain ⟨htopic, hpayload, hqos, hretain, hmessage, hdelay, hformat, hcontent, hresponse,
      hcorrelation, hproperties, hbroker, -⟩ := h
    change (read (.object members) : Option Publication) = read (.object members')
    rw [Publication.read_object, Publication.read_object, htopic, hpayload, hqos, hretain,
      hmessage, hdelay, hformat, hcontent, hresponse, hcorrelation, hproperties, hbroker]
  | property =>
    simp only [WireType.members, List.forall_mem_cons, Member.readIn_needed] at h
    obtain ⟨hname, hvalue, -⟩ := h
    change (read (.object members) : Option UserProperty) = read (.object members')
    rw [UserProperty.read_object, UserProperty.read_object, hname, hvalue]
  | pendingWill =>
    simp only [WireType.members, List.forall_mem_cons, Member.readIn_needed] at h
    obtain ⟨hdelay, hrequested, -⟩ := h
    change (read (.object members) : Option PendingWill) = read (.object members')
    rw [PendingWill.read_object, PendingWill.read_object, hdelay, hrequested]
  | qos => exact absurd rfl ht
  | format => exact absurd rfl ht
  | timestamp => exact absurd rfl ht

/-- A record is written as an object with its members, in their order. -/
theorem write_eq_object (ht : t.members ≠ []) (v : t.Value) :
    ∃ members, write v = .object members ∧
      members.map Prod.fst = t.members.map Member.name := by
  cases t with
  | qos => exact absurd rfl ht
  | format => exact absurd rfl ht
  | timestamp => exact absurd rfl ht
  | _ => exact ⟨_, rfl, rfl⟩

end WireType

/-! ## Other spellings -/

/-- Two spellings of one value of a type. -/
inductive Respelled : (α : Type) → [Wire α] → Json → Json → Prop where
  | same {α : Type} [Wire α] (j : Json) : Respelled α j j
  | back {α : Type} [Wire α] {j j' : Json} (h : Respelled α j j') : Respelled α j' j
  | onward {α : Type} [Wire α] {j j' j'' : Json} (h : Respelled α j j')
      (h' : Respelled α j' j'') : Respelled α j j''
  /-- The members of a record stand in another order. -/
  | reordered {t : WireType} {members members' : List (String × Json)} (ht : t.members ≠ [])
      (hnames : (members.map Prod.fst).Nodup) (h : members.Perm members') :
      Respelled t.Value (.object members) (.object members')
  /-- There is a member that the record does not have. -/
  | extra {t : WireType} {before after : List (String × Json)} {name : String} {j : Json}
      (ht : t.members ≠ []) (hname : name ∉ t.members.map Member.name) :
      Respelled t.Value (.object (before ++ (name, j) :: after)) (.object (before ++ after))
  /-- An absent value is written as `null`, or left out. -/
  | absent {t : WireType} {before after : List (String × Json)} {name : String} {α : Type}
      [Wire α] (hm : .optional name α ∈ t.members)
      (hname : name ∉ (before ++ after).map Prod.fst) :
      Respelled t.Value (.object (before ++ (name, .null) :: after)) (.object (before ++ after))
  /-- The value of a member has another spelling. -/
  | member {t : WireType} {before after : List (String × Json)} {m : Member} {j j' : Json}
      (hm : m ∈ t.members) (h : @Respelled m.Value m.wire j j') :
      Respelled t.Value (.object (before ++ (m.name, j) :: after))
        (.object (before ++ (m.name, j') :: after))
  /-- A value that may be absent is there, and has another spelling. -/
  | present {α : Type} [Wire α] {j j' : Json} (h : Respelled α j j') : Respelled (Option α) j j'
  /-- An item of a list has another spelling. -/
  | item {α : Type} [Wire α] {before after : List Json} {j j' : Json} (h : Respelled α j j') :
      Respelled (List α) (.array (before ++ j :: after)) (.array (before ++ j' :: after))
  /-- The members of a length of time stand in another order. -/
  | span {members members' : List (String × Json)} (hnames : (members.map Prod.fst).Nodup)
      (h : members.Perm members') :
      Respelled Timespan (.object members) (.object members')

namespace Respelled

variable {α : Type} [Wire α] {j j' : Json}

/-- Nothing else is a spelling of `null`. -/
theorem null_iff (h : Respelled α j j') : j = .null ↔ j' = .null := by
  induction h with
  | same => exact Iff.rfl
  | back _ ih => exact ih.symm
  | onward _ _ ih ih' => exact ih.trans ih'
  | present _ ih => exact ih
  | _ => exact ⟨nofun, nofun⟩

theorem read_reordered {t : WireType} {members members' : List (String × Json)}
    (ht : t.members ≠ []) (hnames : (members.map Prod.fst).Nodup) (h : members.Perm members') :
    (read (.object members) : Option t.Value) = read (.object members') := by
  refine WireType.read_congr ht fun m _ => ?_
  unfold Member.readIn
  rw [lookup_of_perm hnames h]

theorem read_extra {t : WireType} {before after : List (String × Json)} {name : String}
    (ht : t.members ≠ []) (hname : name ∉ t.members.map Member.name) :
    (read (.object (before ++ (name, j) :: after)) : Option t.Value) =
      read (.object (before ++ after)) := by
  refine WireType.read_congr ht fun m hm => ?_
  have hne : m.name ≠ name := fun heq => hname (heq ▸ List.mem_map_of_mem hm)
  unfold Member.readIn
  rw [lookup_insert_of_ne hne]

theorem read_absent {t : WireType} {before after : List (String × Json)} {name : String}
    (hm : .optional name α ∈ t.members) (hname : name ∉ (before ++ after).map Prod.fst) :
    (read (.object (before ++ (name, .null) :: after)) : Option t.Value) =
      read (.object (before ++ after)) := by
  refine WireType.read_congr (List.ne_nil_of_mem hm) fun m hm' => ?_
  by_cases heq : m.name = name
  · obtain rfl : m = .optional name α := List.inj_on_of_nodup_map t.nodup_members hm' hm heq
    rw [List.map_append, List.mem_append, not_or] at hname
    rw [Member.readIn_optional, Member.readIn_optional, lookup_insert_self, List.lookup_append,
      lookup_eq_none hname.1, lookup_eq_none hname.2]
    rfl
  · unfold Member.readIn
    rw [lookup_insert_of_ne heq]

theorem read_member {t : WireType} {before after : List (String × Json)} {m : Member}
    (hm : m ∈ t.members) (h : m.wire.read j = m.wire.read j') :
    (read (.object (before ++ (m.name, j) :: after)) : Option t.Value) =
      read (.object (before ++ (m.name, j') :: after)) := by
  refine WireType.read_congr (List.ne_nil_of_mem hm) fun m' hm' => ?_
  unfold Member.readIn
  by_cases heq : m'.name = m.name
  · obtain rfl : m' = m := List.inj_on_of_nodup_map t.nodup_members hm' hm heq
    rw [lookup_insert_self, lookup_insert_self]
    cases before.lookup m'.name with
    | some _ => rfl
    | none => exact h
  · rw [lookup_insert_of_ne heq, lookup_insert_of_ne heq]

theorem read_item {before after : List Json} (h : (read j : Option α) = read j') :
    (read (.array (before ++ j :: after)) : Option (List α)) =
      read (.array (before ++ j' :: after)) := by
  change (before ++ j :: after).mapM read = (before ++ j' :: after).mapM read
  rw [List.mapM_append, List.mapM_append, List.mapM_cons, List.mapM_cons, h]

/-- All spellings of a value are read alike. -/
theorem read_eq (h : Respelled α j j') : (read j : Option α) = read j' := by
  induction h with
  | same => rfl
  | back _ ih => exact ih.symm
  | onward _ _ ih ih' => exact ih.trans ih'
  | reordered ht hnames h => exact read_reordered ht hnames h
  | extra ht hname => exact read_extra ht hname
  | absent hm hname => exact read_absent hm hname
  | member hm _ ih => exact read_member hm ih
  | @present α _ j j' h ih =>
    by_cases hj : j = .null
    · rw [hj, h.null_iff.1 hj]
    · have hj' : j' ≠ .null := fun heq => hj (h.null_iff.2 heq)
      rw [read_option_of_ne_null hj, read_option_of_ne_null hj', ih]
  | item _ ih => exact read_item ih
  | span hnames h =>
    rw [Timespan.read_object, Timespan.read_object, lookup_of_perm hnames h,
      lookup_of_perm hnames h, h.length_eq]

end Respelled

/-! ## A strict object -/

/-- A length of time that has a member of another name is not read. -/
theorem Timespan.read_eq_none {members : List (String × Json)} {name : String}
    (hmem : name ∈ members.map Prod.fst) (hname : name ∉ ["secs", "nanos"]) :
    (read (.object members) : Option Timespan) = none := by
  rw [Timespan.read_object]
  split
  · rename_i hlength
    -- Two members have two names, so with a third name one of their own is missing.
    have hmissing : members.lookup "secs" = none ∨ members.lookup "nanos" = none := by
      by_contra hboth
      rw [not_or, ← ne_eq, ← ne_eq, Option.ne_none_iff_exists', Option.ne_none_iff_exists']
        at hboth
      obtain ⟨⟨a, ha⟩, b, hb⟩ := hboth
      have hdistinct : [name, "secs", "nanos"].Nodup := List.nodup_cons.2 ⟨hname, by decide⟩
      have hsubset : [name, "secs", "nanos"] ⊆ members.map Prod.fst := by
        have hsecs := List.mem_map_of_mem (f := Prod.fst) (mem_of_lookup ha)
        have hnanos := List.mem_map_of_mem (f := Prod.fst) (mem_of_lookup hb)
        simp only [List.cons_subset, List.nil_subset, and_true]
        exact ⟨hmem, hsecs, hnanos⟩
      have hthree := (hdistinct.subperm hsubset).length_le
      rw [List.length_map, hlength] at hthree
      contradiction
    rcases hmissing with h | h
    · rw [h]
      rfl
    · rw [h]
      cases (required (members.lookup "secs") : Option UInt64) <;> rfl
  · rfl

/-- Nor are the settings that hold it. -/
theorem Config.read_eq_none {members span : List (String × Json)}
    (hspan : members.lookup "cleanup_interval" = some (.object span))
    (hnone : (read (.object span) : Option Timespan) = none) :
    (read (.object members) : Option Config) = none := by
  have hinterval : orElse Config.standard.cleanupInterval (some (.object span)) = none := hnone
  rw [Config.read_object, hspan, hinterval]
  simp

/-! ## Values read back -/

/-- Each type that leaves a broker reads back what it wrote, whatever the value is. A record is
written as an object with its members. How an object is spelled makes no difference to what is
read, at any depth: neither the order of the members, nor members that the record does not have,
nor whether an absent value is written as `null` or left out. Only the length of time among the
settings refuses a member that it does not have. -/
theorem written_values_read_back :
    (∀ (t : WireType) (v : t.Value), read (write v) = some v) ∧
    (∀ t : WireType, t.members ≠ [] → ∀ v : t.Value, ∃ members, write v = .object members ∧
      members.map Prod.fst = t.members.map Member.name) ∧
    (∀ (t : WireType) (j j' : Json), Respelled t.Value j j' →
      (read j : Option t.Value) = read j') ∧
    ∀ (members span : List (String × Json)) (name : String),
      members.lookup "cleanup_interval" = some (.object span) →
      name ∈ span.map Prod.fst → name ∉ ["secs", "nanos"] →
        (read (.object members) : Option Config) = none :=
  ⟨fun _ => Faithful.read_write, fun _ => WireType.write_eq_object, fun _ _ _ => Respelled.read_eq,
    fun _ _ _ hspan hmem hname => Config.read_eq_none hspan (Timespan.read_eq_none hmem hname)⟩

/-- A will is spelled with its members the other way round, with one that it does not have, and
without the payload that is absent. And a length of time has a member too many. -/
theorem written_values_read_back_respelled :
    let will : Will := { publication := { topic := "t" }, payloadId := 7 }
    let others : List (String × Json) := [
      ("qos", .text "AtMostOnce"), ("retain", .bool false),
      ("message_expiry_interval", .int 4294967295), ("delay_interval", .int 0),
      ("payload_format_indicator", .null), ("content_type", .null), ("response_topic", .null),
      ("correlation_data", .null), ("user_properties", .array []), ("broker_id", .text "")]
    let spelled : Json := .object [("origin", .null), ("payload_id", .int 7),
      ("publish", .object (("topic", .text "t") :: others))]
    (Respelled WireType.will.Value (write will) spelled ∧ read spelled = some will) ∧
      (read (.object [("cleanup_interval",
        .object [("secs", .int 1), ("nanos", .int 0), ("unit", .null)])]) : Option Config) =
          none := by
  intro will others spelled
  obtain ⟨hback, -, halike, hstrict⟩ := written_values_read_back
  have hpayload : Respelled WireType.publication.Value (write will.publication)
      (.object (("topic", .text "t") :: others)) :=
    @Respelled.absent .publication [("topic", .text "t")] others "payload" Bytes _
      (.tail _ (.head _)) (by decide)
  have hpublish := @Respelled.member .will [] [("payload_id", .int 7)] _ _ _ (.head _) hpayload
  have hturned := @Respelled.reordered .will [("publish", .object (("topic", .text "t") :: others)),
    ("payload_id", .int 7)] _ nofun (by decide) (.swap _ _ [])
  have hmore := @Respelled.extra .will [] [("payload_id", .int 7),
    ("publish", .object (("topic", .text "t") :: others))] "origin" .null nofun (by decide)
  have hspelled : Respelled WireType.will.Value (write will) spelled :=
    hpublish.onward (hturned.onward hmore.back)
  refine ⟨⟨hspelled, ?_⟩, hstrict _ _ "unit" rfl (by decide) (by decide)⟩
  exact (halike .will _ _ hspelled).symm.trans (hback .will will)

end BrokerSessions
