import SlotAsm.Proofs.Runs

/-!
A step that fails. It changes nothing but the error that the machine keeps, and the machine is stuck
from then on: whatever steps and runs are asked for, each of them returns the same error and leaves
the machine as it is (`Machine.Reachable.failure_atomic_and_final`). So to execute several
instructions at once and to stop at the first that fails leaves the machine that as many steps leave
(`Machine.stepUpTo_machine`). The errors of instructions are
those of their operands (`Instruction.effect_eq_error`); that there is no program, or that it has
come to its end, is an error of the machine alone, which it does not keep.
-/

namespace SlotAsm

/-! ## The errors of instructions -/

/-- A computation fails when its first part does, or the rest after it. -/
theorem bind_eq_error_iff {ε α β : Type} {first : Except ε α} {rest : α → Except ε β} {error : ε} :
    first >>= rest = .error error ↔
      first = .error error ∨ ∃ value, first = .ok value ∧ rest value = .error error := by
  cases first with
  | error cause =>
    constructor
    · intro failed
      cases failed
      exact .inl rfl
    · intro failed
      rcases failed with failed | ⟨value, succeeded, -⟩
      · cases failed
        rfl
      · cases succeeded
  | ok value =>
    constructor
    · intro failed
      exact .inr ⟨value, rfl, failed⟩
    · intro failed
      rcases failed with failed | ⟨_, same, failed⟩
      · cases failed
      · cases same
        exact failed

/-- The error is one of an operand of the instruction. -/
inductive Instruction.OperandError (instruction : Instruction) : StepError → Prop
  | malformed (operand : Operand) : OperandError instruction (instruction.malformed operand)
  | emptySlot (operand : Operand) (slot : Slot) : OperandError instruction (.emptySlot operand slot)
  | undefinedLabel (label : String) : OperandError instruction (.undefinedLabel label)

namespace Instruction

variable {instruction : Instruction} {program : Program} {store : Store} {pc : Nat}
  {operand : Operand} {error : StepError}

theorem slotOf_eq_error (failed : instruction.slotOf operand = .error error) :
    instruction.OperandError error := by
  unfold slotOf at failed
  split at failed
  · cases failed
    exact .malformed operand
  · cases failed

theorem numberOf_eq_error (failed : instruction.numberOf operand = .error error) :
    instruction.OperandError error := by
  unfold numberOf at failed
  split at failed
  · cases failed
    exact .malformed operand
  · cases failed

theorem occupied_eq_error (failed : instruction.occupied store operand = .error error) :
    instruction.OperandError error := by
  unfold occupied at failed
  split at failed
  · next unnamed =>
    cases failed
    exact slotOf_eq_error unnamed
  · next slot _ =>
    split at failed
    · cases failed
      exact .emptySlot operand slot
    · cases failed

theorem targetOf_eq_error (failed : instruction.targetOf program operand = .error error) :
    instruction.OperandError error := by
  unfold targetOf at failed
  split at failed
  · cases failed
    exact .malformed operand
  · next label _ =>
    split at failed
    · cases failed
      exact .undefinedLabel label
    · cases failed

/-- An instruction fails for one of its operands. -/
theorem effect_eq_error (failed : instruction.effect program store pc = .error error) :
    instruction.OperandError error := by
  unfold effect at failed
  split at failed
  · rcases bind_eq_error_iff.mp failed with failed | ⟨_, -, failed⟩
    · exact occupied_eq_error failed
    rcases bind_eq_error_iff.mp failed with failed | ⟨_, -, failed⟩
    · exact occupied_eq_error failed
    · cases failed
  · rcases bind_eq_error_iff.mp failed with failed | ⟨_, -, failed⟩
    · exact occupied_eq_error failed
    rcases bind_eq_error_iff.mp failed with failed | ⟨_, -, failed⟩
    · exact occupied_eq_error failed
    · cases failed
  · rcases bind_eq_error_iff.mp failed with failed | ⟨_, -, failed⟩
    · exact numberOf_eq_error failed
    rcases bind_eq_error_iff.mp failed with failed | ⟨_, -, failed⟩
    · exact slotOf_eq_error failed
    · cases failed
  · rcases bind_eq_error_iff.mp failed with failed | ⟨_, -, failed⟩
    · exact occupied_eq_error failed
    rcases bind_eq_error_iff.mp failed with failed | ⟨_, -, failed⟩
    · exact occupied_eq_error failed
    rcases bind_eq_error_iff.mp failed with failed | ⟨_, -, failed⟩
    · exact targetOf_eq_error failed
    · cases failed

theorem OperandError.ne_noProgram (ofOperand : instruction.OperandError error) :
    error ≠ .noProgram := by
  cases ofOperand <;> exact StepError.noConfusion

theorem OperandError.ne_finished (ofOperand : instruction.OperandError error) :
    error ≠ .finished := by
  cases ofOperand <;> exact StepError.noConfusion

end Instruction

namespace Machine

/-! ## What a failed step leaves -/

variable {machine before after : Machine} {error : StepError}

theorem Transition.program_pc_store_eq (transition : Transition before (.error error) after) :
    after.program = before.program ∧ after.pc = before.pc ∧ after.store = before.store := by
  cases transition <;> exact ⟨rfl, rfl, rfl⟩

/-- A machine that is not at an instruction stays as it is. One that is halts with the error. -/
theorem Transition.unchanged_or_halted (transition : Transition before (.error error) after) :
    (before.current? = none ∧ (error = .noProgram ∨ error = .finished) ∧ after = before) ∨
      (error ≠ .noProgram ∧ error ≠ .finished ∧ after.status = .halted ∧
        after.error? = some error ∧ after.step = (.error error, after)) := by
  cases transition with
  | idle => exact .inl ⟨rfl, .inl rfl, rfl⟩
  | finished ended => exact .inl ⟨ended, .inr rfl, rfl⟩
  | @failed session instruction _ current failed =>
    have ofOperand := Instruction.effect_eq_error failed
    refine .inr ⟨ofOperand.ne_noProgram, ofOperand.ne_finished, ?_, rfl, ?_⟩
    · exact status_eq_halted_iff.mpr ⟨Program.get?_eq_some_lt current, rfl⟩
    · have again : Session.current? { session with error := some error } = some instruction :=
        current
      exact step_failed again failed

/-! ## Several instructions at once -/

/-- A step that fails fails again in the same way. -/
theorem step_again {halted : Machine} (stepped : machine.step = (.error error, halted)) :
    halted.step = (.error error, halted) := by
  have transition := machine.transition_step
  rw [stepped] at transition
  rcases transition.unchanged_or_halted with ⟨-, -, same⟩ | ⟨-, -, -, -, stuck⟩
  · have same : halted = machine := same
    rwa [← same] at stepped
  · exact stuck

/-- Nothing changes after a step that failed. -/
theorem afterSteps_of_step_eq_error {halted : Machine}
    (stepped : machine.step = (.error error, halted)) (n : Nat) :
    machine.afterSteps (n + 1) = halted := by
  induction n generalizing machine with
  | zero => rw [afterSteps_succ, stepped, afterSteps_zero]
  | succ n ih =>
    rw [afterSteps_succ, stepped]
    exact ih (step_again stepped)

/-- Up to a number of instructions are executed: all of them succeed, or those before the first one
that fails. -/
theorem exists_stepsFrom_eq (executed limit : Nat) (machine : Machine) :
    ∃ n reached, machine.after n = .ok reached ∧
      ((n = limit ∧ stepsFrom executed limit machine = ⟨executed + n, .ok (), reached⟩) ∨
        ∃ error halted, n < limit ∧ reached.step = (.error error, halted) ∧
          stepsFrom executed limit machine = ⟨executed + n, .error error, halted⟩) := by
  induction limit generalizing executed machine with
  | zero => exact ⟨0, machine, rfl, .inl ⟨rfl, rfl⟩⟩
  | succ limit ih =>
    cases outcome : machine.next with
    | ok next =>
      have stepped : machine.step = (.ok (), next) := by rw [step, outcome]
      obtain ⟨n, reached, ran, ending⟩ := ih (executed + 1) next
      have ran : machine.after (n + 1) = .ok reached := by
        rw [after_succ_eq_ok_iff, stepped]
        exact ⟨rfl, ran⟩
      have steps : stepsFrom executed (limit + 1) machine =
          stepsFrom (executed + 1) limit next := by
        rw [stepsFrom, outcome]
      refine ⟨n + 1, reached, ran, ?_⟩
      rw [steps, ← Nat.add_assoc, Nat.add_right_comm]
      rcases ending with ⟨all, steps⟩ | ⟨error, halted, below, failed, steps⟩
      · exact .inl ⟨congrArg (· + 1) all, steps⟩
      · exact .inr ⟨error, halted, Nat.succ_lt_succ below, failed, steps⟩
    | error error =>
      refine ⟨0, machine, rfl, .inr ⟨error, machine.halt error, Nat.succ_pos limit, ?_, ?_⟩⟩
      · rw [step, outcome]
      · rw [stepsFrom, outcome]
        rfl

/-- To stop at the first instruction that fails is no different from going on. -/
theorem stepUpTo_machine (limit : Nat) (machine : Machine) :
    (machine.stepUpTo limit).machine = machine.afterSteps limit := by
  obtain ⟨n, reached, ran, ending⟩ := exists_stepsFrom_eq 0 limit machine
  have first := afterSteps_eq_of_after ran
  rcases ending with ⟨rfl, steps⟩ | ⟨error, halted, below, failed, steps⟩
  · rw [stepUpTo, steps]
    exact first.symm
  · obtain ⟨k, rfl⟩ := Nat.exists_eq_add_of_lt below
    rw [stepUpTo, steps, Nat.add_assoc, afterSteps_add, first]
    exact (afterSteps_of_step_eq_error failed k).symm

/-! ## Asking a machine again -/

/-- A request to execute instructions. -/
inductive Request
  /-- Execute the next instruction. -/
  | step
  /-- Execute instructions up to the end or to an error. -/
  | run

/-- A request returns a result and leaves a machine. A run without an end returns nothing. -/
def Request.Gives : Request → Machine → Except StepError Unit → Machine → Prop
  | .step, machine, result, after => machine.step = (result, after)
  | .run, machine, result, after => machine.Returns result after

/-- What requests give that are made one after another: the result of each of them and the machine
that it leaves. -/
inductive Gives : Machine → List Request → List (Except StepError Unit × Machine) → Prop
  | nil {machine : Machine} : Gives machine [] []
  | cons {machine after : Machine} {request : Request} {requests : List Request}
      {result : Except StepError Unit} {answers : List (Except StepError Unit × Machine)} :
      request.Gives machine result after → Gives after requests answers →
      Gives machine (request :: requests) ((result, after) :: answers)

/-- A machine that a failed step leaves as it was gives any request that same error. -/
theorem Request.gives_iff_of_stuck (running : machine.status ≠ .complete)
    (stuck : machine.step = (.error error, machine)) {request : Request}
    {result : Except StepError Unit} :
    request.Gives machine result after ↔ (result, after) = (.error error, machine) := by
  cases request with
  | step => exact stuck ▸ eq_comm
  | run =>
    have failed : Ends machine (.error error) machine.step.2 := .failed running (by rw [stuck])
    rw [stuck] at failed
    constructor
    · intro returns
      rcases Returns.unique returns failed.returns with ⟨rfl, rfl⟩
      rfl
    · intro same
      cases same
      exact failed.returns

theorem gives_iff_of_stuck (running : machine.status ≠ .complete)
    (stuck : machine.step = (.error error, machine)) {requests : List Request}
    {answers : List (Except StepError Unit × Machine)} :
    Gives machine requests answers ↔
      answers = List.replicate requests.length (.error error, machine) := by
  induction requests generalizing answers with
  | nil =>
    constructor
    · intro gives
      cases gives
      rfl
    · intro same
      subst same
      exact .nil
  | cons request requests ih =>
    rw [List.length_cons, List.replicate_succ]
    constructor
    · intro gives
      cases gives with
      | cons first rest =>
        cases (Request.gives_iff_of_stuck running stuck).mp first
        rw [ih.mp rest]
    · intro same
      subst same
      exact .cons ((Request.gives_iff_of_stuck running stuck).mpr rfl) (ih.mpr rfl)

/-- A step that fails changes neither the program nor the place of execution nor a slot. Where there
is nothing to execute, it changes nothing at all. Otherwise the machine halts with the error, and
gives every later request that error without changing again. After a step that succeeds no error is
kept. -/
theorem Reachable.failure_atomic_and_final (reachable : Reachable machine) :
    (∀ error, machine.step.1 = .error error →
      machine.step.2.program = machine.program ∧ machine.step.2.pc = machine.pc ∧
      (∀ slot, machine.step.2.store.get slot = machine.store.get slot) ∧
      (error = .noProgram ∨ error = .finished →
        machine.step.2 = machine ∧ machine.error? = none) ∧
      (error ≠ .noProgram → error ≠ .finished →
        machine.step.2.status = .halted ∧ machine.step.2.error? = some error ∧
        ∀ requests answers, Gives machine.step.2 requests answers ↔
          answers = List.replicate requests.length (.error error, machine.step.2))) ∧
    (machine.step.1 = .ok () → machine.step.2.error? = none) := by
  refine ⟨fun error failed => ?_, fun succeeded => ?_⟩
  · have transition := machine.transition_step
    rw [failed] at transition
    rcases transition.program_pc_store_eq with ⟨program, pc, store⟩
    refine ⟨program, pc, fun slot => by rw [store], fun outside => ?_,
      fun programmed unfinished => ?_⟩
    · rcases transition.unchanged_or_halted with
        ⟨ended, -, same⟩ | ⟨programmed, unfinished, -⟩
      · refine ⟨same, ?_⟩
        have notHalted : machine.error?.isSome ≠ true := by
          intro kept
          have inside := reachable.placed.pc_lt_of_error kept
          exact absurd (current?_eq_none_iff.mp ended) (Nat.not_le.mpr inside)
        simpa using notHalted
      · rcases outside with outside | outside
        · exact absurd outside programmed
        · exact absurd outside unfinished
    · rcases transition.unchanged_or_halted with ⟨-, outside, -⟩ | ⟨-, -, halted, kept, stuck⟩
      · rcases outside with outside | outside
        · exact absurd outside programmed
        · exact absurd outside unfinished
      · refine ⟨halted, kept, fun requests answers => gives_iff_of_stuck ?_ stuck⟩
        rw [halted]
        exact Status.noConfusion
  · have transition := machine.transition_step
    rw [succeeded] at transition
    generalize machine.step.2 = after at transition
    cases transition with
    | executed => rfl

/-- A program with an addition whose first slot is filled and whose second is not. -/
def halfReady : Program where
  instructions := [⟨.str, ["1", "A"]⟩, ⟨.add, ["A", "B"]⟩]
  labels := ∅

/-- The machine before the addition. -/
def halfFilled : Machine :=
  (ofProgram halfReady).step.2

/-- The addition fails after its first slot was read, and fails again whatever is asked for; an idle
machine stays idle. -/
theorem Reachable.failure_atomic_and_final_halfFilled :
    halfFilled.step.1 = .error (.emptySlot .slot2 .b) ∧
    halfFilled.step.2.store.get .a = some 1 ∧ halfFilled.step.2.status = .halted ∧
    Gives halfFilled.step.2 [.run, .step]
      [(.error (.emptySlot .slot2 .b), halfFilled.step.2),
        (.error (.emptySlot .slot2 .b), halfFilled.step.2)] ∧
    halfFilled.error? = none ∧
    Machine.idle.step.1 = .error .noProgram ∧ Machine.idle.step.2 = Machine.idle := by
  have failed : halfFilled.step.1 = .error (.emptySlot .slot2 .b) := rfl
  have reachable : Reachable halfFilled := (Reachable.ofProgram halfReady).step
  obtain ⟨failure, -⟩ := Reachable.failure_atomic_and_final reachable
  obtain ⟨-, -, slots, -, final⟩ := failure _ failed
  obtain ⟨halted, -, again⟩ := final StepError.noConfusion StepError.noConfusion
  obtain ⟨-, success⟩ := Reachable.failure_atomic_and_final (Reachable.ofProgram halfReady)
  obtain ⟨failure', -⟩ := Reachable.failure_atomic_and_final Reachable.idle
  obtain ⟨-, -, -, unchanged, -⟩ := failure' .noProgram rfl
  exact ⟨failed, (slots .a).trans rfl, halted, (again _ _).mpr rfl, success rfl, rfl,
    (unchanged (.inl rfl)).1⟩

end Machine

end SlotAsm
