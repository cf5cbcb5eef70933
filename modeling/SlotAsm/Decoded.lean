import SlotAsm.Effect

/-!
Instructions whose tokens have been given their meaning before execution. An `Action` holds slots, a
number and the index of a label in place of tokens; `Action.ofInstruction?` decodes an instruction,
for numbers of any type with the reader that is given. `Decoded.Machine` executes actions: what each
of them does is a table over the two slots that it reads.
-/

namespace SlotAsm

/-- An instruction with its operands decoded. A branch keeps the name of its label for the error,
and has no target when the label is not declared. -/
inductive Action (number : Type)
  | add (source target : Slot)
  | sub (source target : Slot)
  | store (value : number) (target : Slot)
  | branch (left right : Slot) (label : String) (target : Option Nat)
  deriving DecidableEq, Repr

/-- Decodes an instruction whose tokens are as many as its operands and denote what the operands
need. Labels are looked up in the table. -/
def Action.ofInstruction? {number : Type} (read? : String → Option number) (labels : LabelTable)
    (instruction : Instruction) : Option (Action number) :=
  match instruction.operation, instruction.tokens with
  | .add, [source, target] => do
    return .add (← Slot.ofName? source) (← Slot.ofName? target)
  | .sub, [source, target] => do
    return .sub (← Slot.ofName? source) (← Slot.ofName? target)
  | .str, [value, target] => do
    return .store (← read? value) (← Slot.ofName? target)
  | .bne, [left, right, label] => do
    return .branch (← Slot.ofName? left) (← Slot.ofName? right) label (labels.get? label)
  | _, _ => none

/-- Decodes the instructions of a program. -/
def Program.actions? {number : Type} (read? : String → Option number) (program : Program) :
    Option (List (Action number)) :=
  program.instructions.mapM (Action.ofInstruction? read? program.labels)

namespace Decoded

/-- A machine that executes actions. -/
structure Machine where
  actions : List (Action Value)
  store : Store
  pc : Nat
  deriving DecidableEq, Repr

/-- The machine that is about to execute actions from the first one, with empty slots. -/
def Machine.start (actions : List (Action Value)) : Machine :=
  ⟨actions, ∅, 0⟩

/-- What an action at the index `pc` does. -/
def effect (store : Store) (pc : Nat) : Action Value → Except StepError Effect
  | .add source target =>
    match store.get source, store.get target with
    | none, _ => .error (.emptySlot .slot1 source)
    | some _, none => .error (.emptySlot .slot2 target)
    | some addend, some value => .ok ⟨some (target, value + addend), pc + 1⟩
  | .sub source target =>
    match store.get source, store.get target with
    | none, _ => .error (.emptySlot .slot1 source)
    | some _, none => .error (.emptySlot .slot2 target)
    | some subtrahend, some value => .ok ⟨some (target, value - subtrahend), pc + 1⟩
  | .store value target => .ok ⟨some (target, value), pc + 1⟩
  | .branch left right label target =>
    match store.get left, store.get right, target with
    | none, _, _ => .error (.emptySlot .slot1 left)
    | some _, none, _ => .error (.emptySlot .slot2 right)
    | some _, some _, none => .error (.undefinedLabel label)
    | some x, some y, some index => .ok ⟨none, if x = y then pc + 1 else index⟩

/-- Executes one action; an action that fails changes nothing. -/
def Machine.step (machine : Machine) : Except StepError Unit × Machine :=
  match machine.actions[machine.pc]? with
  | none => (.error .finished, machine)
  | some action =>
    match effect machine.store machine.pc action with
    | .error error => (.error error, machine)
    | .ok effect =>
      (.ok (), { machine with store := effect.apply machine.store, pc := effect.next })

/-- The machine after the given number of steps, whether they succeed or fail. -/
def Machine.afterSteps : Nat → Machine → Machine
  | 0, machine => machine
  | n + 1, machine => afterSteps n machine.step.2

end Decoded

end SlotAsm
