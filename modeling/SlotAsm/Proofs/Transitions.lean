import SlotAsm.Reach

/-!
All that an instruction and a step can do. `Instruction.effect_eq_ok_iff` lists the effects that
instructions have, one rule for each operation, and `Machine.transition_step` the four things that
a step does. A run is a number of steps (`Machine.exists_afterSteps_of_run`), so what every step
keeps holds of every reachable machine (`Machine.invariant_of_reachable`). What holds along every
run is proved from these.
-/

namespace SlotAsm

/-! ## The effects of instructions -/

/-- A computation succeeds when its first part does and then the rest. -/
theorem bind_eq_ok_iff {ε α β : Type} {first : Except ε α} {rest : α → Except ε β} {result : β} :
    first >>= rest = .ok result ↔ ∃ value, first = .ok value ∧ rest value = .ok result := by
  cases first with
  | error error =>
      constructor
      · intro failed
        cases failed
      · intro succeeded
        rcases succeeded with ⟨value, failed, -⟩
        cases failed
  | ok value =>
      constructor
      · intro succeeded
        exact ⟨value, rfl, succeeded⟩
      · intro both
        rcases both with ⟨_, same, succeeded⟩
        cases same
        exact succeeded

theorem map_bind {ε α β γ : Type} (first : Except ε α) (rest : α → Except ε β) (f : β → γ) :
    (first >>= rest).map f = first >>= fun value => (rest value).map f := by
  cases first <;> rfl

namespace Instruction

/-- The effects that an instruction can have, with the operands that it reads. -/
inductive Performs (instruction : Instruction) (program : Program) (store : Store) (pc : Nat) :
    Effect → Prop
  | add {source target : Slot} {addend value : Value} :
      instruction.operation = .add →
      instruction.occupied store .slot1 = .ok (source, addend) →
      instruction.occupied store .slot2 = .ok (target, value) →
      Performs instruction program store pc ⟨some (target, value + addend), pc + 1⟩
  | sub {source target : Slot} {subtrahend value : Value} :
      instruction.operation = .sub →
      instruction.occupied store .slot1 = .ok (source, subtrahend) →
      instruction.occupied store .slot2 = .ok (target, value) →
      Performs instruction program store pc ⟨some (target, value - subtrahend), pc + 1⟩
  | str {target : Slot} {number : Value} :
      instruction.operation = .str →
      instruction.numberOf .number = .ok number →
      instruction.slotOf .slot = .ok target →
      Performs instruction program store pc ⟨some (target, number), pc + 1⟩
  | bne {first second : Slot} {left right : Value} {index : Nat} :
      instruction.operation = .bne →
      instruction.occupied store .slot1 = .ok (first, left) →
      instruction.occupied store .slot2 = .ok (second, right) →
      instruction.targetOf program .label = .ok index →
      Performs instruction program store pc ⟨none, if left = right then pc + 1 else index⟩

variable {instruction : Instruction} {program : Program} {store : Store} {pc : Nat}
  {effect : Effect}

theorem effect_eq_ok_iff :
    instruction.effect program store pc = .ok effect ↔
      instruction.Performs program store pc effect := by
  constructor
  · intro succeeded
    unfold Instruction.effect at succeeded
    split at succeeded
    · next operation =>
      obtain ⟨⟨source, addend⟩, first, succeeded⟩ := bind_eq_ok_iff.mp succeeded
      obtain ⟨⟨target, value⟩, second, succeeded⟩ := bind_eq_ok_iff.mp succeeded
      cases succeeded
      exact .add operation first second
    · next operation =>
      obtain ⟨⟨source, subtrahend⟩, first, succeeded⟩ := bind_eq_ok_iff.mp succeeded
      obtain ⟨⟨target, value⟩, second, succeeded⟩ := bind_eq_ok_iff.mp succeeded
      cases succeeded
      exact .sub operation first second
    · next operation =>
      obtain ⟨number, first, succeeded⟩ := bind_eq_ok_iff.mp succeeded
      obtain ⟨target, second, succeeded⟩ := bind_eq_ok_iff.mp succeeded
      cases succeeded
      exact .str operation first second
    · next operation =>
      obtain ⟨⟨source, left⟩, first, succeeded⟩ := bind_eq_ok_iff.mp succeeded
      obtain ⟨⟨target, right⟩, second, succeeded⟩ := bind_eq_ok_iff.mp succeeded
      obtain ⟨index, third, succeeded⟩ := bind_eq_ok_iff.mp succeeded
      cases succeeded
      exact .bne operation first second third
  · intro performs
    unfold Instruction.effect
    cases performs with
    | add operation first second =>
        rw [operation]
        exact bind_eq_ok_iff.mpr ⟨_, first, bind_eq_ok_iff.mpr ⟨_, second, rfl⟩⟩
    | sub operation first second =>
        rw [operation]
        exact bind_eq_ok_iff.mpr ⟨_, first, bind_eq_ok_iff.mpr ⟨_, second, rfl⟩⟩
    | str operation first second =>
        rw [operation]
        exact bind_eq_ok_iff.mpr ⟨_, first, bind_eq_ok_iff.mpr ⟨_, second, rfl⟩⟩
    | bne operation first second third =>
        rw [operation]
        exact bind_eq_ok_iff.mpr
          ⟨_, first, bind_eq_ok_iff.mpr ⟨_, second, bind_eq_ok_iff.mpr ⟨_, third, rfl⟩⟩⟩

theorem targetOf_le {operand : Operand} {index : Nat}
    (found : instruction.targetOf program operand = .ok index) : index ≤ program.length := by
  unfold targetOf at found
  split at found
  · cases found
  · next label _ =>
    split at found
    · cases found
    · next target declared =>
      cases found
      have within := (Option.filter_eq_some_iff.mp declared).2
      exact of_decide_eq_true within

/-- An instruction that stands in a program goes on within the program or at its end. -/
theorem effect_next_le (succeeded : instruction.effect program store pc = .ok effect)
    (inside : pc < program.length) : effect.next ≤ program.length := by
  cases effect_eq_ok_iff.mp succeeded with
  | add => exact inside
  | sub => exact inside
  | str => exact inside
  | bne operation first second third =>
      have target := targetOf_le third
      dsimp only
      split
      · exact inside
      · exact target

end Instruction

/-! ## The steps of the machine -/

theorem Program.get?_eq_some_lt {program : Program} {index : Nat} {instruction : Instruction}
    (found : program.get? index = some instruction) : index < program.length :=
  (List.getElem?_eq_some_iff.mp found).1

namespace Machine

theorem step_finished {session : Session} (ended : session.current? = none) :
    (loaded session).step = (.error .finished, loaded session) := by
  simp [step, next, Session.next, ended, Except.map, halt, Session.halt]

theorem step_failed {session : Session} {instruction : Instruction} {error : StepError}
    (current : session.current? = some instruction)
    (failed : instruction.effect session.program session.store session.pc = .error error) :
    (loaded session).step = (.error error, loaded { session with error := some error }) := by
  simp [step, next, Session.next, current, failed, Except.map, halt, Session.halt]

theorem step_executed {session : Session} {instruction : Instruction} {effect : Effect}
    (current : session.current? = some instruction)
    (succeeded : instruction.effect session.program session.store session.pc = .ok effect) :
    (loaded session).step =
      (.ok (), loaded { session with
        store := effect.apply session.store, pc := effect.next, error := none }) := by
  simp [step, next, Session.next, current, succeeded, Except.map]

/-- What a step can do: the machine before it, its result and the machine after it. -/
inductive Transition : Machine → Except StepError Unit → Machine → Prop
  | idle : Transition idle (.error .noProgram) idle
  | finished {session : Session} :
      session.current? = none →
      Transition (loaded session) (.error .finished) (loaded session)
  | failed {session : Session} {instruction : Instruction} {error : StepError} :
      session.current? = some instruction →
      instruction.effect session.program session.store session.pc = .error error →
      Transition (loaded session) (.error error) (loaded { session with error := some error })
  | executed {session : Session} {instruction : Instruction} {effect : Effect} :
      session.current? = some instruction →
      instruction.effect session.program session.store session.pc = .ok effect →
      Transition (loaded session) (.ok ()) (loaded
        { session with store := effect.apply session.store, pc := effect.next, error := none })

theorem transition_step (machine : Machine) :
    Transition machine machine.step.1 machine.step.2 := by
  cases machine with
  | idle => exact .idle
  | loaded session =>
      cases current : session.current? with
      | none =>
          rw [step_finished current]
          exact .finished current
      | some instruction =>
          cases outcome :
              instruction.effect session.program session.store session.pc with
          | error error =>
              rw [step_failed current outcome]
              exact .failed current outcome
          | ok effect =>
              rw [step_executed current outcome]
              exact .executed current outcome

theorem step_program (machine : Machine) : machine.step.2.program = machine.program := by
  have transition := machine.transition_step
  generalize machine.step.1 = result at transition
  generalize machine.step.2 = after at transition
  cases transition <;> rfl

theorem current?_ne_none_of_step_eq_ok {machine : Machine} (succeeded : machine.step.1 = .ok ()) :
    machine.current? ≠ none := by
  intro ended
  cases machine with
  | idle => cases succeeded
  | loaded session =>
    rw [step_finished ended] at succeeded
    cases succeeded

theorem after_succ_eq_ok_iff {n : Nat} {machine reached : Machine} :
    after (n + 1) machine = .ok reached ↔
      machine.step.1 = .ok () ∧ after n machine.step.2 = .ok reached := by
  rw [after, step]
  cases machine.next <;> simp

/-- The instructions before a number of instructions that succeed succeed too. -/
theorem exists_after_of_le {n count : Nat} {machine reached : Machine}
    (ran : after n machine = .ok reached) (le : count ≤ n) :
    ∃ earlier, after count machine = .ok earlier := by
  induction count generalizing n machine with
  | zero => exact ⟨machine, rfl⟩
  | succ count ih =>
    obtain ⟨n, rfl⟩ := Nat.exists_eq_succ_of_ne_zero (Nat.ne_zero_of_lt le)
    obtain ⟨succeeded, ran⟩ := after_succ_eq_ok_iff.mp ran
    obtain ⟨earlier, ran⟩ := ih ran (Nat.le_of_succ_le_succ le)
    exact ⟨earlier, after_succ_eq_ok_iff.mpr ⟨succeeded, ran⟩⟩

/-- After instructions that all succeed, the machine is the one after as many steps. -/
theorem afterSteps_eq_of_after {n : Nat} {machine reached : Machine}
    (ran : machine.after n = .ok reached) : machine.afterSteps n = reached := by
  induction n generalizing machine with
  | zero =>
    cases ran
    rfl
  | succ n ih => exact ih (after_succ_eq_ok_iff.mp ran).2

theorem afterSteps_add (machine : Machine) (n k : Nat) :
    machine.afterSteps (n + k) = (machine.afterSteps n).afterSteps k := by
  induction n generalizing machine with
  | zero => rw [Nat.zero_add, afterSteps_zero]
  | succ n ih => rw [Nat.add_right_comm, afterSteps_succ, ih, afterSteps_succ]

/-- What every step keeps is kept by any number of steps. -/
theorem afterSteps_induction {Invariant : Machine → Prop}
    (step : ∀ machine, Invariant machine → Invariant machine.step.2) {machine : Machine}
    (start : Invariant machine) (n : Nat) : Invariant (machine.afterSteps n) := by
  induction n generalizing machine with
  | zero => exact start
  | succ n ih => exact ih (step machine start)

theorem not_executes_zero {machine earlier : Machine} {instruction : Instruction} :
    ¬ machine.Executes 0 earlier instruction := by
  intro executes
  rcases executes with ⟨k, below, -⟩
  exact Nat.not_lt_zero k below

/-- An instruction is executed by the first step or by one of the others. -/
theorem executes_succ_iff {n : Nat} {machine earlier : Machine} {instruction : Instruction} :
    machine.Executes (n + 1) earlier instruction ↔
      (machine = earlier ∧ earlier.current? = some instruction ∧ earlier.step.1 = .ok ()) ∨
        machine.step.2.Executes n earlier instruction := by
  constructor
  · intro executes
    rcases executes with ⟨k, below, reached, executed⟩
    cases k with
    | zero => exact .inl ⟨reached, executed⟩
    | succ k => exact .inr ⟨k, Nat.lt_of_succ_lt_succ below, reached, executed⟩
  · intro executes
    rcases executes with ⟨reached, executed⟩ | ⟨k, below, reached, executed⟩
    · exact ⟨0, Nat.succ_pos n, reached, executed⟩
    · exact ⟨k + 1, Nat.succ_lt_succ below, reached, executed⟩

theorem afterSteps_program (machine : Machine) (n : Nat) :
    (machine.afterSteps n).program = machine.program := by
  induction n generalizing machine with
  | zero => rfl
  | succ n ih => rw [afterSteps_succ, ih, step_program]

/-- A machine that a run ends with is the machine after a number of steps, the last of which may
have failed. -/
theorem exists_afterSteps_of_run {machine after : Machine} {limit : Nat}
    {result : Except StepError Unit} (ran : machine.run limit = some (result, after)) :
    ∃ n, machine.afterSteps n = after := by
  induction limit generalizing machine with
  | zero =>
      unfold run at ran
      split at ran
      · cases ran
        exact ⟨0, rfl⟩
      · cases ran
  | succ limit ih =>
      unfold run at ran
      split at ran
      · cases ran
        exact ⟨0, rfl⟩
      · cases outcome : machine.next with
        | ok following =>
            have stepped : machine.step.2 = following := by simp [step, outcome]
            simp only [outcome] at ran
            obtain ⟨n, reached⟩ := ih ran
            exact ⟨n + 1, by rw [afterSteps_succ, stepped, reached]⟩
        | error error =>
            have stepped : machine.step.2 = machine.halt error := by simp [step, outcome]
            simp only [outcome, Option.some.injEq, Prod.mk.injEq] at ran
            exact ⟨1, by rw [afterSteps_succ, afterSteps_zero, stepped, ran.2]⟩

/-- What holds of the idle machine and at the start of every program, and is kept by every step,
holds of every reachable machine. -/
theorem invariant_of_reachable {Invariant : Machine → Prop} (atIdle : Invariant idle)
    (atStart : ∀ program, Invariant (ofProgram program))
    (step : ∀ machine, Invariant machine → Invariant machine.step.2) {machine : Machine}
    (reachable : Reachable machine) : Invariant machine := by
  induction reachable with
  | idle => exact atIdle
  | load text =>
      unfold load
      cases parse text with
      | error error => exact atIdle
      | ok program => exact atStart program
  | ofProgram program => exact atStart program
  | step _ ih => exact step _ ih
  | run _ ran ih =>
      obtain ⟨n, rfl⟩ := exists_afterSteps_of_run ran
      exact afterSteps_induction step ih n

end Machine

end SlotAsm
