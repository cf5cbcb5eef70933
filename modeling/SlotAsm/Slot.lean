/-!
The ten slots of the machine and the text that names them. `ofName?_eq_some_iff` says that a slot is
named by its letter and by nothing else.
-/

namespace SlotAsm

/-- A place that holds one value, named by one of the letters `A` to `J`. -/
inductive Slot
  | a | b | c | d | e | f | g | h | i | j
  deriving DecidableEq, Repr

namespace Slot

/-- All slots, in the order of their letters. -/
def all : List Slot :=
  [a, b, c, d, e, f, g, h, i, j]

/-- The place of a slot in that order. -/
def index : Slot → Fin 10
  | a => 0
  | b => 1
  | c => 2
  | d => 3
  | e => 4
  | f => 5
  | g => 6
  | h => 7
  | i => 8
  | j => 9

/-- The letter of a slot, as text. -/
def name : Slot → String
  | a => "A"
  | b => "B"
  | c => "C"
  | d => "D"
  | e => "E"
  | f => "F"
  | g => "G"
  | h => "H"
  | i => "I"
  | j => "J"

/-- The slot that a text names, if it is the letter of one. -/
def ofName? (text : String) : Option Slot :=
  all.find? fun slot => slot.name == text

theorem index_injective {s t : Slot} (h : s.index = t.index) : s = t := by
  revert h
  cases s <;> cases t <;> decide

theorem name_injective {s t : Slot} (h : s.name = t.name) : s = t := by
  revert h
  cases s <;> cases t <;> decide

theorem ofName?_name (slot : Slot) : ofName? slot.name = some slot := by
  cases slot <;> decide

/-- A text names a slot exactly when it is that slot's letter. -/
theorem ofName?_eq_some_iff {text : String} {slot : Slot} :
    ofName? text = some slot ↔ text = slot.name := by
  constructor
  · intro h
    have found := List.find?_some h
    exact (beq_iff_eq.mp found).symm
  · rintro rfl
    exact ofName?_name slot

end Slot

end SlotAsm
