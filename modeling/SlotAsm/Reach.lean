import SlotAsm.Machine

/-!
The machines that can come about and the machines that a run passes through. `Machine.Reachable`
holds of the machines that result from loading, from programs that were not read from a source, from
steps and from runs. `Machine.after` is the machine after a number of instructions that all succeed,
and `Machine.afterSteps` the one after a number of steps of which some may fail;
`Machine.Executes` says which instructions are executed on the way. `Machine.Returns` and
`Machine.RunsForever` speak of runs without a bound on the number of instructions.
-/

namespace SlotAsm.Machine

/-- A machine that results from the operations on machines. -/
inductive Reachable : Machine → Prop
  | idle : Reachable idle
  | load (text : String) : Reachable (load text).2
  | ofProgram (program : Program) : Reachable (ofProgram program)
  | step {machine : Machine} : Reachable machine → Reachable machine.step.2
  | run {machine after : Machine} {limit : Nat} {result : Except StepError Unit} :
      Reachable machine → machine.run limit = some (result, after) → Reachable after

/-- The machine after the given number of instructions, if all of them succeed, and otherwise the
error of the first one that fails. -/
def after : Nat → Machine → Except StepError Machine
  | 0, machine => .ok machine
  | n + 1, machine =>
    match machine.next with
    | .error error => .error error
    | .ok following => after n following

/-- The machine after the given number of steps, whether they succeed or fail. -/
def afterSteps : Nat → Machine → Machine
  | 0, machine => machine
  | n + 1, machine => afterSteps n machine.step.2

/-- One of the first `n` steps executes an instruction, and the machine is `earlier` before it. A
step that fails executes none. -/
def Executes (machine : Machine) (n : Nat) (earlier : Machine) (instruction : Instruction) : Prop :=
  ∃ k < n, machine.afterSteps k = earlier ∧ earlier.current? = some instruction ∧
    earlier.step.1 = .ok ()

/-- A run of the machine comes to an end, with the given result and the given machine. -/
def Returns (machine : Machine) (result : Except StepError Unit) (final : Machine) : Prop :=
  ∃ limit, machine.run limit = some (result, final)

/-- A run of the machine has no end: no number of instructions is enough for it. -/
def RunsForever (machine : Machine) : Prop :=
  ∀ limit, machine.run limit = none

@[simp] theorem after_zero (machine : Machine) : after 0 machine = .ok machine := rfl

@[simp] theorem afterSteps_zero (machine : Machine) : afterSteps 0 machine = machine := rfl

theorem afterSteps_succ (n : Nat) (machine : Machine) :
    afterSteps (n + 1) machine = afterSteps n machine.step.2 := rfl

end SlotAsm.Machine
