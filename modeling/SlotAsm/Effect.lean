import SlotAsm.Program
import SlotAsm.Store

/-!
The effect of one instruction: at most one write and the index to go on at. `Instruction.effect`
computes it from the store and the labels without changing anything, so an instruction takes effect
as a whole or not at all. Operands are read in the order of their tokens, and the first one that
cannot be used is the error.
-/

namespace SlotAsm

/-- Why the machine cannot execute an instruction. -/
inductive StepError
  /-- The operand names a slot that was never written. -/
  | emptySlot (operand : Operand) (slot : Slot)
  /-- The label of a branch is not declared. -/
  | undefinedLabel (label : String)
  /-- The token of the operand, empty if it is missing, does not denote what the operand needs. -/
  | malformedOperand (operation : Operation) (operand : Operand) (token : String)
  /-- There is no program. -/
  | noProgram
  /-- The program has come to its end. -/
  | finished
  deriving DecidableEq, Repr

/-- The text that reports why an instruction cannot be executed. -/
def StepError.message : StepError → String
  | emptySlot operand slot => s!"{operand.name}: slot {slot.name} is empty."
  | undefinedLabel label => s!"label: `{label}` is not defined."
  | malformedOperand operation operand token =>
    s!"{operand.name} of {operation.name}: `{token}` cannot be used here."
  | noProgram => "No program is loaded."
  | finished => "The program has already run to completion."

/-- What an instruction does. -/
structure Effect where
  /-- The slot to write and what to write into it, if a slot is written. -/
  write : Option (Slot × Value)
  /-- The index of the instruction to execute next. -/
  next : Nat
  deriving DecidableEq, Repr

/-- The store after the effect on it. -/
def Effect.apply (effect : Effect) (store : Store) : Store :=
  match effect.write with
  | none => store
  | some (slot, value) => store.set slot value

namespace Instruction

/-- The error for an operand whose token is missing or does not denote what the operand needs. -/
def malformed (instruction : Instruction) (operand : Operand) : StepError :=
  .malformedOperand instruction.operation operand
    ((instruction.token? operand.position).getD "")

/-- The slot that an operand names. -/
def slotOf (instruction : Instruction) (operand : Operand) : Except StepError Slot :=
  match (instruction.token? operand.position).bind Slot.ofName? with
  | none => .error (instruction.malformed operand)
  | some slot => .ok slot

/-- The slot that an operand names and the value that it holds. -/
def occupied (instruction : Instruction) (store : Store) (operand : Operand) :
    Except StepError (Slot × Value) :=
  match instruction.slotOf operand with
  | .error error => .error error
  | .ok slot =>
    match store.get slot with
    | none => .error (.emptySlot operand slot)
    | some value => .ok (slot, value)

/-- The number that an operand denotes. -/
def numberOf (instruction : Instruction) (operand : Operand) : Except StepError Value :=
  match (instruction.token? operand.position).bind Value.ofText? with
  | none => .error (instruction.malformed operand)
  | some value => .ok value

/-- The index that an operand names by a label. -/
def targetOf (instruction : Instruction) (program : Program) (operand : Operand) :
    Except StepError Nat :=
  match instruction.token? operand.position with
  | none => .error (instruction.malformed operand)
  | some label =>
    match program.target? label with
    | none => .error (.undefinedLabel label)
    | some target => .ok target

/-- The effect of an instruction that stands at the index `pc` of a program. Sums and differences
wrap around. A branch needs its label to be declared even when it goes on to the next
instruction. -/
def effect (instruction : Instruction) (program : Program) (store : Store) (pc : Nat) :
    Except StepError Effect :=
  match instruction.operation with
  | .add => do
    let (_, addend) ← instruction.occupied store .slot1
    let (slot, value) ← instruction.occupied store .slot2
    return ⟨some (slot, value + addend), pc + 1⟩
  | .sub => do
    let (_, subtrahend) ← instruction.occupied store .slot1
    let (slot, value) ← instruction.occupied store .slot2
    return ⟨some (slot, value - subtrahend), pc + 1⟩
  | .str => do
    let number ← instruction.numberOf .number
    let slot ← instruction.slotOf .slot
    return ⟨some (slot, number), pc + 1⟩
  | .bne => do
    let (_, left) ← instruction.occupied store .slot1
    let (_, right) ← instruction.occupied store .slot2
    let target ← instruction.targetOf program .label
    return ⟨none, if left = right then pc + 1 else target⟩

end Instruction

end SlotAsm
