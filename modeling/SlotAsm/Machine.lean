import SlotAsm.Effect
import SlotAsm.Source

/-!
The machine. It is idle until a program is loaded, and then it executes one instruction at a time.
An instruction that fails changes neither the slots nor the place of execution; the machine halts
there and keeps the error. `Machine.step` executes one instruction, `Machine.stepUpTo` several, and
`Machine.run` goes on to the end or to an error. A run may have no end, so `run` takes a bound on
the number of instructions, and its answer `none` says that the bound was too small.
-/

namespace SlotAsm

/-- A program in execution. -/
structure Session where
  program : Program
  store : Store
  /-- The index of the instruction to execute next. -/
  pc : Nat
  /-- The error of the last instruction, if it failed. -/
  error : Option StepError
  deriving DecidableEq

namespace Session

/-- The execution of a program from its start, with empty slots. -/
def start (program : Program) : Session :=
  ⟨program, ∅, 0, none⟩

/-- The instruction to execute next, unless the program has come to its end. -/
def current? (session : Session) : Option Instruction :=
  session.program.get? session.pc

/-- The session after its next instruction. -/
def next (session : Session) : Except StepError Session :=
  match session.current? with
  | none => .error .finished
  | some instruction =>
    match instruction.effect session.program session.store session.pc with
    | .error error => .error error
    | .ok effect =>
      .ok { session with store := effect.apply session.store, pc := effect.next, error := none }

/-- The session after its next instruction failed. At the end of the program there is no
instruction that could fail. -/
def halt (session : Session) (error : StepError) : Session :=
  match session.current? with
  | none => session
  | some _ => { session with error := some error }

end Session

/-- The machine: it has no program, or it executes one. -/
inductive Machine
  | idle
  | loaded (session : Session)
  deriving DecidableEq

/-- The stages of a machine's life. -/
inductive Status
  /-- There is no program. -/
  | idle
  /-- There is an instruction to execute. -/
  | ready
  /-- The last instruction failed. -/
  | halted
  /-- The program has come to its end. -/
  | complete
  deriving DecidableEq, Repr

/-- The name of a status. -/
def Status.name : Status → String
  | idle => "Idle"
  | ready => "Ready"
  | halted => "Halted"
  | complete => "Complete"

namespace Machine

instance : Inhabited Machine := ⟨idle⟩

/-- The machine that is about to execute a program from its start. -/
def ofProgram (program : Program) : Machine :=
  loaded (Session.start program)

/-- Loads a source text: the machine that is about to execute it, or, if a line is wrong, the error
and an idle machine. -/
def load (text : String) : Except ParseError Unit × Machine :=
  match parse text with
  | .error error => (.error error, idle)
  | .ok program => (.ok (), ofProgram program)

/-! ## What a machine shows -/

/-- The program of a machine; an idle machine has the one without instructions. -/
def program : Machine → Program
  | idle => ∅
  | loaded session => session.program

/-- What the slots of a machine hold. -/
def store : Machine → Store
  | idle => ∅
  | loaded session => session.store

/-- The index of the instruction that a machine executes next. -/
def pc : Machine → Nat
  | idle => 0
  | loaded session => session.pc

/-- The error of the last instruction, if it failed. -/
def error? : Machine → Option StepError
  | idle => none
  | loaded session => session.error

/-- The instruction that a machine executes next, if there is one. -/
def current? (machine : Machine) : Option Instruction :=
  machine.program.get? machine.pc

/-- The stage of a machine's life. -/
def status : Machine → Status
  | idle => .idle
  | loaded session =>
    if session.program.length ≤ session.pc then .complete
    else if session.error.isSome then .halted
    else .ready

/-! ## Execution -/

/-- The machine after its next instruction. -/
def next : Machine → Except StepError Machine
  | idle => .error .noProgram
  | loaded session => session.next.map loaded

/-- The machine after its next instruction failed. -/
def halt (error : StepError) : Machine → Machine
  | idle => idle
  | loaded session => loaded (session.halt error)

/-- Executes one instruction: whether it succeeded, and the machine after it. -/
def step (machine : Machine) : Except StepError Unit × Machine :=
  match machine.next with
  | .ok after => (.ok (), after)
  | .error error => (.error error, machine.halt error)

/-- What executing several instructions gives. -/
structure Steps where
  /-- The number of instructions that succeeded. -/
  executed : Nat
  /-- Whether the last one succeeded. -/
  result : Except StepError Unit
  /-- The machine after them. -/
  machine : Machine

/-- Executes up to `limit` instructions after the `executed` ones before, and stops when one
fails. -/
def stepsFrom (executed : Nat) : Nat → Machine → Steps
  | 0, machine => ⟨executed, .ok (), machine⟩
  | limit + 1, machine =>
    match machine.next with
    | .ok after => stepsFrom (executed + 1) limit after
    | .error error => ⟨executed, .error error, machine.halt error⟩

/-- Executes up to `limit` instructions and stops when one fails. -/
def stepUpTo (limit : Nat) (machine : Machine) : Steps :=
  stepsFrom 0 limit machine

/-- Executes instructions until the program has come to its end or one fails. There is no answer if
that takes more than `limit` instructions. -/
def run (limit : Nat) (machine : Machine) : Option (Except StepError Unit × Machine) :=
  if machine.status = .complete then
    some (.ok (), machine)
  else
    match limit with
    | 0 => none
    | limit + 1 =>
      match machine.next with
      | .ok after => run limit after
      | .error error => some (.error error, machine.halt error)

end Machine

end SlotAsm
