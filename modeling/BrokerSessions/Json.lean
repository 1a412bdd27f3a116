-- JSON values, and how values of other types are written as JSON and read back. A
-- record is an object with one member for each field. It is also read from an
-- array with the fields in their order. Members that are not fields do not matter,
-- and the order of the members does not matter either.

namespace BrokerSessions

/-- A JSON value. A number is a whole number, or digits and a count of places after
the point. -/
inductive Json where
  | null
  | bool (b : Bool)
  | int (n : Int)
  | decimal (digits : Int) (places : Nat)
  | text (s : String)
  | array (items : List Json)
  | object (members : List (String × Json))
deriving Inhabited

/-- A type with a written form in JSON. -/
class Wire (α : Type) where
  write : α → Json
  read : Json → Option α

namespace Wire

/-! ## Plain values -/

instance : Wire Bool where
  write := .bool
  read
    | .bool b => some b
    | _ => none

instance : Wire String where
  write := .text
  read
    | .text s => some s
    | _ => none

/-- A whole number within bounds. Nothing else is taken for one. -/
def readInt (low high : Int) : Json → Option Int
  | .int n => if low ≤ n ∧ n ≤ high then some n else none
  | _ => none

instance : Wire Int64 where
  write n := .int n.toInt
  read j := (readInt (-9223372036854775808) 9223372036854775807 j).map Int64.ofInt

instance : Wire UInt64 where
  write n := .int n.toNat
  read j := (readInt 0 18446744073709551615 j).map fun n => UInt64.ofNat n.toNat

instance : Wire UInt32 where
  write n := .int n.toNat
  read j := (readInt 0 4294967295 j).map fun n => UInt32.ofNat n.toNat

instance : Wire UInt8 where
  write n := .int n.toNat
  read j := (readInt 0 255 j).map fun n => UInt8.ofNat n.toNat

instance {α : Type} [Wire α] : Wire (List α) where
  write xs := .array (xs.map write)
  read
    | .array items => items.mapM read
    | _ => none

/-- An absent value is written as `null`. -/
instance {α : Type} [Wire α] : Wire (Option α) where
  write
    | some a => write a
    | none => .null
  read
    | .null => some none
    | j => (read j).map some

/-! ## Choices -/

/-- The name of a choice: a text, or an object whose only member has that name and
is `null`. -/
def choice? : Json → Option String
  | .text name => some name
  | .object [(name, .null)] => some name
  | _ => none

/-! ## Records -/

/-- The fields of a record, each with its value if it is there. An array has to hold
all of them. -/
def fields? (names : List String) : Json → Option (List (Option Json))
  | .object members => some (names.map fun name => members.lookup name)
  | .array items => if items.length = names.length then some (items.map some) else none
  | _ => none

/-- The fields of a record of which every one may be missing. An array may end early. -/
def someFields? (names : List String) : Json → Option (List (Option Json))
  | .object members => some (names.map fun name => members.lookup name)
  | .array items =>
    if items.length ≤ names.length then
      some (items.map some ++ List.replicate (names.length - items.length) none)
    else none
  | _ => none

/-- The fields of a record that has no others. -/
def exactFields? (names : List String) : Json → Option (List (Option Json))
  | .object members =>
    if members.length = names.length then some (names.map fun name => members.lookup name)
    else none
  | j => fields? names j

variable {α : Type} [Wire α]

/-- A field that has to be there. -/
def required (field : Option Json) : Option α := field.bind read

/-- A field that may be missing: then there is no value. -/
def ifPresent : Option Json → Option (Option α)
  | some j => read j
  | none => some none

/-- A field that may be missing: then its value is `standard`. -/
def orElse (standard : α) : Option Json → Option α
  | some j => read j
  | none => some standard

end Wire

end BrokerSessions
