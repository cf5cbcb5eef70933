import Mathlib.Algebra.Group.Int.Defs
import SlotAsm.Decoded

/-!
A machine whose slots hold integers of any size. Sums and differences are exact and literals keep
their value; only a branch looks at its two slots modulo `2 ^ 64`. Beside the machine with 64-bit
values it shows what wrapping around changes: `Represents` says when a store of values stands for a
store of integers.
-/

namespace SlotAsm.Unbounded

/-- What the slots hold; an empty slot holds nothing. -/
abbrev Store := Slot → Option Int

/-- The store after a write. -/
def Store.set (store : Store) (slot : Slot) (n : Int) : Store :=
  fun other => if other = slot then some n else store other

/-- The integer that a text denotes as a literal. -/
def readLiteral? (text : String) : Option Int :=
  (Literal.ofChars? text.toList).map Literal.toInt

/-- A machine that executes actions on integers. -/
structure Machine where
  actions : List (Action Int)
  store : Store
  pc : Nat

/-- The machine that is about to execute actions from the first one, with empty slots. -/
def Machine.start (actions : List (Action Int)) : Machine :=
  ⟨actions, fun _ => none, 0⟩

/-- The store and the index of the next action after an action at the index `pc`. -/
def effect (store : Store) (pc : Nat) : Action Int → Except StepError (Store × Nat)
  | .add source target =>
    match store source, store target with
    | none, _ => .error (.emptySlot .slot1 source)
    | some _, none => .error (.emptySlot .slot2 target)
    | some addend, some n => .ok (store.set target (n + addend), pc + 1)
  | .sub source target =>
    match store source, store target with
    | none, _ => .error (.emptySlot .slot1 source)
    | some _, none => .error (.emptySlot .slot2 target)
    | some subtrahend, some n => .ok (store.set target (n - subtrahend), pc + 1)
  | .store n target => .ok (store.set target n, pc + 1)
  | .branch left right label target =>
    match store left, store right, target with
    | none, _, _ => .error (.emptySlot .slot1 left)
    | some _, none, _ => .error (.emptySlot .slot2 right)
    | some _, some _, none => .error (.undefinedLabel label)
    | some x, some y, some index => .ok (store, if x % 2 ^ 64 = y % 2 ^ 64 then pc + 1 else index)

/-- Executes one action; an action that fails changes nothing. -/
def Machine.step (machine : Machine) : Except StepError Unit × Machine :=
  match machine.actions[machine.pc]? with
  | none => (.error .finished, machine)
  | some action =>
    match effect machine.store machine.pc action with
    | .error error => (.error error, machine)
    | .ok (store, next) => (.ok (), { machine with store := store, pc := next })

/-- The machine after the given number of steps, whether they succeed or fail. -/
def Machine.afterSteps : Nat → Machine → Machine
  | 0, machine => machine
  | n + 1, machine => afterSteps n machine.step.2

/-- The same slots are empty, and each value is congruent to its integer modulo `2 ^ 64`. A value
lies between `-2 ^ 63` and `2 ^ 63 - 1`, so there is only one that is. -/
def Represents (values : SlotAsm.Store) (store : Store) : Prop :=
  ∀ slot,
    match values.get slot, store slot with
    | none, none => True
    | some value, some n => value.toInt % 2 ^ 64 = n % 2 ^ 64
    | _, _ => False

end SlotAsm.Unbounded
