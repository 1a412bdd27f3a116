-- Estimates of the memory that a value occupies. The store keeps a running
-- total of them. The numbers are a stable approximation, not a measurement:
-- fixed sizes for shells, references and words, and for text and bytes a header
-- and the length in bytes.

namespace BrokerSessions

/-- A buffer of bytes. -/
abbrev Bytes := List UInt8

/-- A value whose occupied memory can be estimated. -/
class Footprint (α : Type) where
  footprint : α → Nat

export Footprint (footprint)

namespace Footprint

/-- The shell of an object. -/
def shell : Nat := 16

/-- A reference to a value kept elsewhere, and also an absent value. -/
def reference : Nat := 8

/-- A 64-bit number. -/
def word : Nat := 8

/-- One of a few named choices. -/
def choice : Nat := 1

/-- A yes or no. -/
def flag : Nat := 1

/-- The header of a text, a buffer or a list. -/
def header : Nat := 24

/-- A text counts its header and its UTF-8 bytes. -/
def ofText (s : String) : Nat := header + s.utf8ByteSize

/-- A buffer counts its header and its bytes. -/
def ofBytes (b : Bytes) : Nat := header + b.length

/-- A list counts its header and its items. -/
def ofItems {α : Type} [Footprint α] (items : List α) : Nat :=
  items.foldl (fun n x => n + footprint x) header

/-- An absent value still takes a reference. -/
def ofOption {α : Type} (size : α → Nat) : Option α → Nat
  | some a => size a
  | none => reference

end Footprint

end BrokerSessions
