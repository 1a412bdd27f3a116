-- What is written reads back unchanged. Each type that leaves a broker reads the form that it
-- wrote as the value that it was, from the single numbers up to a session with its will, and
-- settings that no store would take are no exception.
import BrokerSessions.Written

namespace BrokerSessions

open Wire

/-- A type that reads back what it wrote. It never writes `null`, which stands for a value that
is absent. -/
class Wire.Faithful (α : Type) [Wire α] : Prop where
  read_write (a : α) : read (write a) = some a
  write_ne_null (a : α) : write a ≠ .null

open Faithful

/-! ## Plain values -/

instance : Faithful Bool where
  read_write _ := rfl
  write_ne_null _ := nofun

instance : Faithful String where
  read_write _ := rfl
  write_ne_null _ := nofun

theorem Wire.readInt_of_mem {low high n : Int} (hlow : low ≤ n) (hhigh : n ≤ high) :
    readInt low high (.int n) = some n := if_pos ⟨hlow, hhigh⟩

instance : Faithful Int64 where
  read_write n := by
    have hlow := n.le_toInt
    have hhigh := n.toInt_lt
    change (readInt _ _ (.int n.toInt)).map Int64.ofInt = some n
    rw [readInt_of_mem (by omega) (by omega), Option.map_some, Int64.ofInt_toInt]
  write_ne_null _ := nofun

instance : Faithful UInt64 where
  read_write n := by
    have hlt := n.toNat_lt
    change (readInt _ _ (.int n.toNat)).map _ = some n
    rw [readInt_of_mem (by omega) (by omega), Option.map_some, Int.toNat_natCast,
      UInt64.ofNat_toNat]
  write_ne_null _ := nofun

instance : Faithful UInt32 where
  read_write n := by
    have hlt := n.toNat_lt
    change (readInt _ _ (.int n.toNat)).map _ = some n
    rw [readInt_of_mem (by omega) (by omega), Option.map_some, Int.toNat_natCast,
      UInt32.ofNat_toNat]
  write_ne_null _ := nofun

instance : Faithful UInt8 where
  read_write n := by
    have hlt := n.toNat_lt
    change (readInt _ _ (.int n.toNat)).map _ = some n
    rw [readInt_of_mem (by omega) (by omega), Option.map_some, Int.toNat_natCast,
      UInt8.ofNat_toNat]
  write_ne_null _ := nofun

section

variable {α : Type} [Wire α]

/-- A value that is there is read as one, for only `null` is read as none. -/
theorem Wire.read_option_of_ne_null {j : Json} (h : j ≠ .null) :
    (read j : Option (Option α)) = (read j : Option α).map some := by
  cases j with
  | null => exact absurd rfl h
  | _ => rfl

variable [Faithful α]

theorem Wire.mapM_read_write (xs : List α) : (xs.map write).mapM read = some xs := by
  induction xs with
  | nil => rfl
  | cons x rest ih => simp [read_write, ih]

instance : Faithful (List α) where
  read_write := mapM_read_write
  write_ne_null _ := nofun

/-- A value that may be absent reads back too. -/
theorem Wire.read_write_option (a? : Option α) : read (write a?) = some a? := by
  cases a? with
  | none => rfl
  | some a =>
    change (read (write a) : Option (Option α)) = some (some a)
    rw [read_option_of_ne_null (write_ne_null a), read_write, Option.map_some]

/-! ## Members of a record -/

@[simp] theorem Wire.required_write (a : α) : required (some (write a)) = some a := read_write a

@[simp] theorem Wire.ifPresent_write (a? : Option α) : ifPresent (some (write a?)) = some a? :=
  read_write_option a?

@[simp] theorem Wire.orElse_write (standard a : α) : orElse standard (some (write a)) = some a :=
  read_write a

end

/-! ## Times and choices -/

instance : Faithful Timestamp where
  read_write t := by
    change (read (write t.millis)).map Timestamp.mk = some t
    rw [read_write, Option.map_some]
  write_ne_null t := write_ne_null t.millis

instance : Faithful QoS where
  read_write level := by cases level <;> rfl
  write_ne_null level := by cases level <;> exact nofun

instance : Faithful PayloadFormat where
  read_write format := by cases format <;> rfl
  write_ne_null format := by cases format <;> exact nofun

/-! ## Records -/

section

variable (members : List (String × Json))

theorem Timespan.read_object :
    (read (.object members) : Option Timespan) =
      if members.length = 2 then do
        let seconds ← required (members.lookup "secs")
        let nanos ← required (members.lookup "nanos")
        Timespan.carry? seconds nanos
      else none := by
  change (if members.length = 2 then _ else none : Option (List (Option Json))).bind _ = _
  split <;> rfl

theorem UserProperty.read_object :
    (read (.object members) : Option UserProperty) = do
      let name ← required (members.lookup "name")
      let value ← required (members.lookup "value")
      return { name, value } := rfl

theorem Publication.read_object :
    (read (.object members) : Option Publication) = do
      let topic ← required (members.lookup "topic")
      let payload ← ifPresent (members.lookup "payload")
      let qos ← required (members.lookup "qos")
      let retain ← required (members.lookup "retain")
      let messageExpiry ← required (members.lookup "message_expiry_interval")
      let delay ← required (members.lookup "delay_interval")
      let format ← ifPresent (members.lookup "payload_format_indicator")
      let contentType ← ifPresent (members.lookup "content_type")
      let responseTopic ← ifPresent (members.lookup "response_topic")
      let correlation ← ifPresent (members.lookup "correlation_data")
      let properties ← required (members.lookup "user_properties")
      let broker ← required (members.lookup "broker_id")
      return {
        topic, payload, qos, retain, messageExpiry, delay, format, contentType, responseTopic,
        correlation, properties, broker } := rfl

theorem Will.read_object :
    (read (.object members) : Option Will) = do
      let publication ← required (members.lookup "publish")
      let payloadId ← required (members.lookup "payload_id")
      return { publication, payloadId } := rfl

theorem PendingWill.read_object :
    (read (.object members) : Option PendingWill) = do
      let delay ← required (members.lookup "delay_interval")
      let requestedDelay ← required (members.lookup "original_delay_interval")
      return { delay, requestedDelay } := rfl

theorem Session.read_object :
    (read (.object members) : Option Session) = do
      let connected ← required (members.lookup "connected")
      let expiry ← required (members.lookup "session_expiry_interval")
      let will ← ifPresent (members.lookup "will")
      return { connected, expiry, will } := rfl

theorem Config.read_object :
    (read (.object members) : Option Config) = do
      let bucketCount ← orElse Config.standard.bucketCount (members.lookup "bucket_count")
      let defaultExpiry ←
        orElse Config.standard.defaultExpiry (members.lookup "default_session_expiry_interval")
      let cleanupInterval ←
        orElse Config.standard.cleanupInterval (members.lookup "cleanup_interval")
      return { bucketCount, defaultExpiry, cleanupInterval } := rfl

end

/-- Less than a second in nanoseconds stays as it is. -/
instance : Faithful Timespan where
  read_write s := by
    change read (.object _) = some s
    rw [Timespan.read_object]
    simp [List.lookup_cons, s.carry?_of_span]
  write_ne_null _ := nofun

instance : Faithful UserProperty where
  read_write p := by
    change read (.object _) = some p
    rw [UserProperty.read_object]
    simp [List.lookup_cons]
  write_ne_null _ := nofun

instance : Faithful Publication where
  read_write p := by
    change read (.object _) = some p
    rw [Publication.read_object]
    simp [Publication.memberNames, List.lookup_cons]
  write_ne_null _ := nofun

instance : Faithful Will where
  read_write w := by
    change read (.object _) = some w
    rw [Will.read_object]
    simp [List.lookup_cons]
  write_ne_null _ := nofun

instance : Faithful PendingWill where
  read_write p := by
    change read (.object _) = some p
    rw [PendingWill.read_object]
    simp [List.lookup_cons]
  write_ne_null _ := nofun

instance : Faithful Session where
  read_write s := by
    change read (.object _) = some s
    rw [Session.read_object]
    simp [List.lookup_cons]
  write_ne_null _ := nofun

instance : Faithful Config where
  read_write c := by
    change read (.object _) = some c
    rw [Config.read_object]
    simp [List.lookup_cons]
  write_ne_null _ := nofun

/-- Each type that leaves a broker reads back what it wrote. -/
instance (t : WireType) : Faithful t.Value :=
  match t with
  | .config => inferInstanceAs (Faithful Config)
  | .session => inferInstanceAs (Faithful Session)
  | .will => inferInstanceAs (Faithful Will)
  | .publication => inferInstanceAs (Faithful Publication)
  | .property => inferInstanceAs (Faithful UserProperty)
  | .qos => inferInstanceAs (Faithful QoS)
  | .format => inferInstanceAs (Faithful PayloadFormat)
  | .pendingWill => inferInstanceAs (Faithful PendingWill)
  | .timestamp => inferInstanceAs (Faithful Timestamp)

end BrokerSessions
