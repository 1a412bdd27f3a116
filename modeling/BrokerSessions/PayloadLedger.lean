-- A payload store that keeps its payloads in memory and counts the references to
-- each. A payload starts with one reference. A count may fall below zero, which
-- shows that somebody gave a reference back twice; the payload stays until it is
-- discarded. Ids are given out once and never again.
import BrokerSessions.Will
import Std.Data.ExtTreeMap

namespace BrokerSessions

/-- The bytes of a payload, and the references to it. -/
structure Payload where
  bytes : Bytes
  references : Int := 1
deriving DecidableEq

/-- Payloads by their ids. `issued` is the id that was given out last, and
`releases` counts the references given back, those of unknown ids too. -/
structure PayloadLedger where
  payloads : Std.ExtTreeMap PayloadId Payload := ∅
  issued : PayloadId := 0
  releases : Nat := 0

namespace PayloadLedger

/-- Takes a payload in and says under which id. -/
def add (l : PayloadLedger) (bytes : Bytes) : PayloadId × PayloadLedger :=
  let id := l.issued + 1
  (id, { l with payloads := l.payloads.insert id { bytes }, issued := id })

/-- One more reference to a payload. An unknown id counts nothing. -/
def retain (l : PayloadLedger) (id : PayloadId) : PayloadLedger :=
  { l with payloads := l.payloads.modify id fun p => { p with references := p.references + 1 } }

/-- One reference less to a payload. An unknown id counts as given back all the same. -/
def release (l : PayloadLedger) (id : PayloadId) : PayloadLedger :=
  { l with
    payloads := l.payloads.modify id fun p => { p with references := p.references - 1 }
    releases := l.releases + 1 }

/-- Forgets a payload, whatever its count. -/
def discard (l : PayloadLedger) (id : PayloadId) : PayloadLedger :=
  { l with payloads := l.payloads.erase id }

/-- The references to a payload, and none to an unknown id. -/
def references (l : PayloadLedger) (id : PayloadId) : Int :=
  (l.payloads[id]?.map Payload.references).getD 0

/-- The bytes of a payload that is there. -/
def bytes? (l : PayloadLedger) (id : PayloadId) : Option Bytes :=
  l.payloads[id]?.map Payload.bytes

/-- The references to all payloads together. -/
def outstanding (l : PayloadLedger) : Int :=
  l.payloads.toList.foldl (fun n (_, p) => n + p.references) 0

/-- The ledger after a payload was taken in for each buffer. -/
def ofPayloads (payloads : List Bytes) : PayloadLedger :=
  payloads.foldl (fun l bytes => (l.add bytes).2) {}

/-! ## What each change does to a count and to the bytes -/

theorem references_add (l : PayloadLedger) (bytes : Bytes) (id : PayloadId) :
    (l.add bytes).2.references id = if id = (l.add bytes).1 then 1 else l.references id := by
  unfold references add
  by_cases h : id = l.issued + 1
  · simp [h]
  · have h' : ¬ l.issued + 1 = id := fun e => h e.symm
    simp [h, h', Std.ExtTreeMap.getElem?_insert]

theorem bytes?_add (l : PayloadLedger) (bytes : Bytes) (id : PayloadId) :
    (l.add bytes).2.bytes? id = if id = (l.add bytes).1 then some bytes else l.bytes? id := by
  unfold bytes? add
  by_cases h : id = l.issued + 1
  · simp [h]
  · have h' : ¬ l.issued + 1 = id := fun e => h e.symm
    simp [h, h', Std.ExtTreeMap.getElem?_insert]

/-- A reference more counts only for a payload that is there. -/
theorem references_retain (l : PayloadLedger) (id k : PayloadId) :
    (l.retain id).references k =
      if k = id ∧ (l.bytes? id).isSome then l.references k + 1 else l.references k := by
  unfold references retain bytes?
  by_cases h : id = k
  · subst h
    cases hp : l.payloads[id]? <;> simp [hp]
  · have h' : ¬ k = id := fun e => h e.symm
    simp [h, h', Std.ExtTreeMap.getElem?_modify]

@[simp] theorem bytes?_retain (l : PayloadLedger) (id k : PayloadId) :
    (l.retain id).bytes? k = l.bytes? k := by
  unfold bytes? retain
  by_cases h : id = k
  · subst h
    cases hp : l.payloads[id]? <;> simp [hp]
  · simp [h, Std.ExtTreeMap.getElem?_modify]

/-- A reference less counts only for a payload that is there. -/
theorem references_release (l : PayloadLedger) (id k : PayloadId) :
    (l.release id).references k =
      if k = id ∧ (l.bytes? id).isSome then l.references k - 1 else l.references k := by
  unfold references release bytes?
  by_cases h : id = k
  · subst h
    cases hp : l.payloads[id]? <;> simp [hp]
  · have h' : ¬ k = id := fun e => h e.symm
    simp [h, h', Std.ExtTreeMap.getElem?_modify]

@[simp] theorem bytes?_release (l : PayloadLedger) (id k : PayloadId) :
    (l.release id).bytes? k = l.bytes? k := by
  unfold bytes? release
  by_cases h : id = k
  · subst h
    cases hp : l.payloads[id]? <;> simp [hp]
  · simp [h, Std.ExtTreeMap.getElem?_modify]

theorem references_discard (l : PayloadLedger) (id k : PayloadId) :
    (l.discard id).references k = if k = id then 0 else l.references k := by
  unfold references discard
  by_cases h : id = k
  · simp [h]
  · have h' : ¬ k = id := fun e => h e.symm
    simp [h, h', Std.ExtTreeMap.getElem?_erase]

theorem bytes?_discard (l : PayloadLedger) (id k : PayloadId) :
    (l.discard id).bytes? k = if k = id then none else l.bytes? k := by
  unfold bytes? discard
  by_cases h : id = k
  · simp [h]
  · have h' : ¬ k = id := fun e => h e.symm
    simp [h, h', Std.ExtTreeMap.getElem?_erase]

end PayloadLedger

end BrokerSessions
