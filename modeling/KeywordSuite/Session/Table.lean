import KeywordSuite.Fault.Basic
import KeywordSuite.Session.Call

/-! # The table of sessions

Each execution unit has at most one slot, and a slot holds the session that was last created for the
unit. Once that session is closed its slot is torn down; it keeps the session until another one is to
replace it. Slots keep the order in which their units first came.
-/

namespace KeywordSuite

structure SessionSlot where
  session : Option SessionId := none
  tornDown : Bool := false
  deriving DecidableEq, Repr

def SessionSlot.live? (slot : SessionSlot) : Option SessionId :=
  if slot.tornDown then none else slot.session

/-- The slots of the units, and how many sessions were created. -/
structure SessionTable where
  slots : List (UnitId × SessionSlot)
  created : Nat
  deriving DecidableEq, Repr

namespace SessionTable

def empty : SessionTable := ⟨[], 0⟩

def setSlot : List (UnitId × SessionSlot) → UnitId → SessionSlot → List (UnitId × SessionSlot)
  | [], unit, slot => [(unit, slot)]
  | (u, s) :: rest, unit, slot =>
    if u = unit then (unit, slot) :: rest else (u, s) :: setSlot rest unit slot

def slot? (t : SessionTable) (unit : UnitId) : Option SessionSlot := List.lookup unit t.slots

def live? (t : SessionTable) (unit : UnitId) : Option SessionId :=
  (t.slot? unit).bind SessionSlot.live?

def hasSlot (t : SessionTable) (unit : UnitId) : Bool := (t.slot? unit).isSome

def next (t : SessionTable) : SessionId := t.created + 1

/-- Changes the slot of a unit, if it has one. -/
def adjust (t : SessionTable) (unit : UnitId) (f : SessionSlot → SessionSlot) : SessionTable :=
  match t.slot? unit with
  | some slot => { t with slots := setSlot t.slots unit (f slot) }
  | none => t

/-- Files a newly created session under a unit. -/
def add (t : SessionTable) (unit : UnitId) : SessionTable :=
  ⟨setSlot t.slots unit { session := some t.next }, t.next⟩

/-- Marks the slot of a unit as torn down, if it has one. -/
def tearDown (t : SessionTable) (unit : UnitId) : SessionTable :=
  t.adjust unit fun slot => { slot with tornDown := true }

/-- Lets go of the session in the slot of a unit, if it has one. -/
def discard (t : SessionTable) (unit : UnitId) : SessionTable :=
  t.adjust unit fun slot => { slot with session := none }

def erase (t : SessionTable) (unit : UnitId) : SessionTable :=
  { t with slots := t.slots.filter fun slot => slot.1 ≠ unit }

def units (t : SessionTable) : List UnitId := t.slots.map (·.1)

def activeUnits (t : SessionTable) : List UnitId :=
  (t.slots.filter fun slot => slot.2.live?.isSome).map (·.1)

end SessionTable

end KeywordSuite
