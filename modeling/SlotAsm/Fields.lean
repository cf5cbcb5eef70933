import SlotAsm.Machine

/-!
The machine with each part of its state on its own. `Machine.Fields` keeps a program, the slots, the
place of execution, whether a program is loaded and the error of the last instruction; its
operations look at these parts and change one after another. Its type lets a record without a
program hold slots or an error, which a `Machine` never does. `Machine.fields` gives the parts of a
machine, and `Fields.Reachable` the records that the operations lead to.
-/

namespace SlotAsm.Machine

/-- The parts of the state of a machine. -/
structure Fields where
  program : Program
  store : Store
  /-- The index of the instruction to execute next. -/
  pc : Nat
  /-- Whether there is a program. -/
  isLoaded : Bool
  /-- The error of the last instruction, if it failed. -/
  error : Option StepError
  deriving DecidableEq

namespace Fields

/-- The machine without a program. -/
def idle : Fields :=
  ⟨∅, ∅, 0, false, none⟩

/-- The machine that is about to execute a program from its start. -/
def ofProgram (program : Program) : Fields :=
  ⟨program, ∅, 0, true, none⟩

/-- Loads a source text. If a line is wrong, the program that was loaded before is given up too. -/
def load (text : String) : Except ParseError Unit × Fields :=
  match parse text with
  | .ok program => (.ok (), ofProgram program)
  | .error error => (.error error, idle)

/-- The stage of the machine's life. -/
def status (fields : Fields) : Status :=
  if fields.isLoaded then
    if fields.program.length ≤ fields.pc then .complete
    else if fields.error.isSome then .halted
    else .ready
  else .idle

/-- The instruction to execute next, if there is one. -/
def current? (fields : Fields) : Option Instruction :=
  fields.program.get? fields.pc

/-- What the next instruction does. -/
def effect (fields : Fields) : Except StepError Effect :=
  match fields.current? with
  | some instruction => instruction.effect fields.program fields.store fields.pc
  | none => .error .finished

/-- Executes one instruction: whether it succeeded, and the machine after it. An instruction that
fails is kept as the error, and all else stays as it is. -/
def step (fields : Fields) : Except StepError Unit × Fields :=
  match fields.status with
  | .idle => (.error .noProgram, fields)
  | .complete => (.error .finished, fields)
  | .ready | .halted =>
    match fields.effect with
    | .ok effect =>
      (.ok (), { fields with
        store := effect.apply fields.store, pc := effect.next, error := none })
    | .error error => (.error error, { fields with error := some error })

/-- Executes instructions until the program has come to its end or one fails. There is no answer if
that takes more than `limit` instructions. -/
def run (limit : Nat) (fields : Fields) : Option (Except StepError Unit × Fields) :=
  if fields.status = .complete then
    some (.ok (), fields)
  else
    match limit with
    | 0 => none
    | limit + 1 =>
      match fields.step with
      | (.ok (), after) => run limit after
      | (.error error, after) => some (.error error, after)

/-- A record that results from the operations. -/
inductive Reachable : Fields → Prop
  | idle : Reachable idle
  | load (text : String) : Reachable (load text).2
  | ofProgram (program : Program) : Reachable (ofProgram program)
  | step {fields : Fields} : Reachable fields → Reachable fields.step.2
  | run {fields after : Fields} {limit : Nat} {result : Except StepError Unit} :
      Reachable fields → fields.run limit = some (result, after) → Reachable after

end Fields

/-- The parts of a machine. -/
def fields (machine : Machine) : Fields where
  program := machine.program
  store := machine.store
  pc := machine.pc
  isLoaded := machine ≠ idle
  error := machine.error?

end SlotAsm.Machine
