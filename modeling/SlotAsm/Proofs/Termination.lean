import SlotAsm.Proofs.Runs

/-!
What it takes for a run to have no end. Every step that succeeds brings execution nearer to the end
of the program, unless it takes a branch that goes back (`Machine.pc_lt_or_branchesBack`). So more
steps than there are instructions left to the end contain such a branch, and where no branch of a
program goes back, every run ends (`Machine.Reachable.long_runs_branch_back`).
-/

namespace SlotAsm

/-! ## Branches that go back -/

/-- The instruction is a branch that goes back from the index `pc`, or stays there: its slots hold
different values, and its label names no later index. -/
def Instruction.BranchesBack (given : Instruction) (program : Program) (store : Store) (pc : Nat) :
    Prop :=
  given.operation = .bne ∧ ∃ (first second : Slot) (left right : Value) (target : Nat),
    given.occupied store .slot1 = .ok (first, left) ∧
    given.occupied store .slot2 = .ok (second, right) ∧ left ≠ right ∧
    given.targetOf program .label = .ok target ∧ target ≤ pc

/-- Every branch of the program goes to a later index, if it goes anywhere. -/
def Program.BranchesForward (program : Program) : Prop :=
  ∀ index given target, program.get? index = some given → given.operation = .bne →
    given.targetOf program .label = .ok target → index < target

/-- An instruction goes on at a later index or branches back. -/
theorem Instruction.Performs.lt_next_or_branchesBack {given : Instruction} {program : Program}
    {store : Store} {pc : Nat} {effect : Effect}
    (performs : given.Performs program store pc effect) :
    pc < effect.next ∨ given.BranchesBack program store pc := by
  cases performs with
  | add | sub | str => exact .inl (Nat.lt_succ_self pc)
  | @bne first second left right target operation named named' resolved =>
    by_cases equal : left = right
    · rw [if_pos equal]
      exact .inl (Nat.lt_succ_self pc)
    · rw [if_neg equal]
      rcases Nat.lt_or_ge pc target with ahead | back
      · exact .inl ahead
      · exact .inr ⟨operation, first, second, left, right, target, named, named', equal, resolved,
          back⟩

namespace Machine

variable {machine reached : Machine} {n : Nat}

/-! ## Steps and the distance to the end -/

/-- One of the first `n` steps of the machine takes a branch that goes back. -/
def GoesBack (machine : Machine) (n : Nat) : Prop :=
  ∃ earlier given, machine.Executes n earlier given ∧
    given.BranchesBack earlier.program earlier.store earlier.pc

/-- A step that succeeds goes on at a later index or takes a branch that goes back. -/
theorem pc_lt_or_branchesBack (succeeded : machine.step.1 = .ok ()) :
    machine.pc < machine.step.2.pc ∨ ∃ given, machine.current? = some given ∧
      given.BranchesBack machine.program machine.store machine.pc := by
  have transition := machine.transition_step
  rw [succeeded] at transition
  generalize machine.step.2 = after at transition ⊢
  cases transition with
  | executed current executed =>
    rcases (Instruction.effect_eq_ok_iff.mp executed).lt_next_or_branchesBack with ahead | back
    · exact .inl ahead
    · exact .inr ⟨_, current, back⟩

/-- Steps that all succeed go on by at least as many indices, unless one of them takes a branch that
goes back. -/
theorem goesBack_or_add_le (ran : machine.after n = .ok reached) :
    machine.GoesBack n ∨ machine.pc + n ≤ reached.pc := by
  induction n generalizing machine with
  | zero =>
    cases ran
    exact .inr (Nat.le_refl _)
  | succ n ih =>
    obtain ⟨succeeded, ran⟩ := after_succ_eq_ok_iff.mp ran
    rcases pc_lt_or_branchesBack succeeded with ahead | ⟨given, current, back⟩
    · rcases ih ran with ⟨earlier, given, executes, back⟩ | further
      · exact .inl ⟨earlier, given, executes_succ_iff.mpr (.inr executes), back⟩
      · exact .inr (by omega)
    · exact .inl ⟨machine, given, executes_succ_iff.mpr (.inl ⟨rfl, current, succeeded⟩), back⟩

/-- Execution does not leave the program, so more steps than are left to its end go back. -/
theorem Placed.goesBack (placed : Placed machine) (ran : machine.after n = .ok reached)
    (long : machine.program.length - machine.pc < n) : machine.GoesBack n := by
  refine (goesBack_or_add_le ran).resolve_right fun further => ?_
  have within := (placed.after ran).pc_le
  have same : reached.program = machine.program := by
    rw [← afterSteps_eq_of_after ran, afterSteps_program]
  rw [same] at within
  omega

theorem not_goesBack_of_branchesForward (forward : machine.program.BranchesForward) :
    ¬ machine.GoesBack n := by
  intro goesBack
  obtain ⟨_, given, ⟨k, -, rfl, current, -⟩, branch, _, _, _, _, target, -, -, -, resolved, back⟩ :=
    goesBack
  rw [current?, afterSteps_program] at current
  rw [afterSteps_program] at resolved
  exact Nat.not_lt.mpr back (forward _ given target current branch resolved)

/-- A run ends after at most `limit` instructions that succeed, or one more succeeds. -/
theorem exists_ends_or_after (machine : Machine) (limit : Nat) :
    (∃ n ≤ limit, ∃ reached result final, machine.after n = .ok reached ∧
      Ends reached result final) ∨
    ∃ reached, machine.after (limit + 1) = .ok reached := by
  induction limit generalizing machine with
  | zero =>
    rcases ends_or_step_eq_ok machine with ⟨result, final, ends⟩ | succeeded
    · exact .inl ⟨0, Nat.le_refl 0, machine, result, final, rfl, ends⟩
    · exact .inr ⟨machine.step.2, after_succ_eq_ok_iff.mpr ⟨succeeded, rfl⟩⟩
  | succ limit ih =>
    rcases ends_or_step_eq_ok machine with ⟨result, final, ends⟩ | succeeded
    · exact .inl ⟨0, Nat.zero_le _, machine, result, final, rfl, ends⟩
    rcases ih machine.step.2 with ⟨n, le, reached, result, final, ran, ends⟩ | ⟨reached, ran⟩
    · exact .inl ⟨n + 1, Nat.succ_le_succ le, reached, result, final,
        after_succ_eq_ok_iff.mpr ⟨succeeded, ran⟩, ends⟩
    · exact .inr ⟨reached, after_succ_eq_ok_iff.mpr ⟨succeeded, ran⟩⟩

/-- Only branches that go back make a run long. If more steps succeed than there are instructions
from the place of execution to the end of the program, one of them takes a branch to its own index
or an earlier one. If no branch of the program can, a run ends after at most as many steps that
succeed. -/
theorem Reachable.long_runs_branch_back (reachable : Reachable machine) :
    (∀ n reached, machine.after n = .ok reached → machine.program.length - machine.pc < n →
      machine.GoesBack n) ∧
    (machine.program.BranchesForward →
      ∃ n ≤ machine.program.length - machine.pc, ∃ reached result final,
        machine.after n = .ok reached ∧ Ends reached result final ∧
          machine.Returns result final) := by
  have placed := reachable.placed
  refine ⟨fun n reached ran long => placed.goesBack ran long, fun forward => ?_⟩
  rcases exists_ends_or_after machine (machine.program.length - machine.pc) with
    ⟨n, le, reached, result, final, ran, ends⟩ | ⟨reached, ran⟩
  · exact ⟨n, le, reached, result, final, ran, ends, returns_iff.mpr ⟨n, reached, ran, ends⟩⟩
  · have goesBack := placed.goesBack ran (Nat.lt_succ_self _)
    exact absurd goesBack (not_goesBack_of_branchesForward forward)

/-- A program with a branch over the store that its last instruction needs. -/
def branchOver : Program where
  instructions := [⟨.str, ["1", "A"]⟩, ⟨.str, ["2", "B"]⟩, ⟨.bne, ["A", "B", "over"]⟩,
    ⟨.str, ["3", "C"]⟩, ⟨.add, ["C", "A"]⟩]
  labels := (∅ : LabelTable).insert "over" 4

theorem branchesForward_branchOver : branchOver.BranchesForward := by
  intro index given target stands branch resolved
  match index with
  | 0 | 1 | 3 | 4 =>
    cases stands
    cases branch
  | 2 =>
    cases stands
    cases resolved
    decide
  | index + 5 => cases stands

/-- Six steps of a program with four instructions contain its branch back. The branch over a store
goes forward, so the run ends, and it ends early. -/
theorem long_runs_branch_back_twoRounds :
    (ofProgram twoRounds).GoesBack 6 ∧
    ∃ result final, (ofProgram branchOver).Returns result final ∧
      result = .error (.emptySlot .slot1 .c) := by
  obtain ⟨long, -⟩ := Reachable.long_runs_branch_back (.ofProgram twoRounds)
  obtain ⟨-, forward⟩ := Reachable.long_runs_branch_back (.ofProgram branchOver)
  obtain ⟨n, -, reached, result, final, -, -, returns⟩ := forward branchesForward_branchOver
  refine ⟨long 6 _ rfl (by decide), result, final, returns, ?_⟩
  exact (returns.unique ⟨4, rfl⟩).1

end Machine

end SlotAsm
