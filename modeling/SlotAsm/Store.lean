import SlotAsm.Slot
import SlotAsm.Value

/-!
The store: what the ten slots hold. A slot is empty until it is first written, which differs from
holding zero, and a write never empties one. `get_set` describes a write.
-/

namespace SlotAsm

/-- What each slot holds; an empty slot holds nothing. -/
structure Store where
  cells : Vector (Option Value) 10
  deriving DecidableEq, Repr

namespace Store

/-- The store whose slots are all empty. -/
def empty : Store :=
  ⟨Vector.replicate 10 none⟩

instance : EmptyCollection Store := ⟨empty⟩

instance : Inhabited Store := ⟨empty⟩

/-- The value in a slot, if the slot is not empty. -/
def get (store : Store) (slot : Slot) : Option Value :=
  store.cells[slot.index]

/-- Writes a value into a slot. -/
def set (store : Store) (slot : Slot) (value : Value) : Store :=
  ⟨store.cells.set slot.index (some value)⟩

/-- What the slots hold, in the order of the slots. -/
def toList (store : Store) : List (Option Value) :=
  Slot.all.map store.get

/-- The text for what a slot holds. -/
def contentsText : Option Value → String
  | none => "empty"
  | some value => value.text

@[simp] theorem get_empty (slot : Slot) : (∅ : Store).get slot = none := by
  simp [EmptyCollection.emptyCollection, empty, get]

/-- A write changes the slot that it names and no other. -/
theorem get_set (store : Store) (slot other : Slot) (value : Value) :
    (store.set slot value).get other = if slot = other then some value else store.get other := by
  by_cases h : slot = other
  · simp [get, set, h]
  · have distinct : slot.index.val ≠ other.index.val :=
      fun same => h (Slot.index_injective (Fin.ext same))
    simp [get, set, h, Vector.getElem_set_ne _ _ distinct]

@[simp] theorem get_set_self (store : Store) (slot : Slot) (value : Value) :
    (store.set slot value).get slot = some value := by
  simp [get_set]

theorem get_set_of_ne {slot other : Slot} (h : slot ≠ other) (store : Store) (value : Value) :
    (store.set slot value).get other = store.get other := by
  simp [get_set, h]

end Store

end SlotAsm
