import SlotAsm.Proofs.Lifecycle

/-!
A run is a number of steps. The bound that `Machine.run` takes only says how far to look: a run that
ends within a bound ends alike within every larger one (`run_add`). `Machine.returns_iff` says where
a run ends, and `runsForever_iff` when it has no end. A step that succeeds leaves the rest of the
run to be done, so a machine can be stepped any number of times before it is run
(`Machine.run_eq_repeated_step`).
-/

namespace SlotAsm.Machine

variable {machine reached : Machine} {result : Except StepError Unit} {final : Machine}
  {error : StepError}

/-! ## A run and its first step -/

theorem status_ne_complete_of_step_eq_ok (succeeded : machine.step.1 = .ok ()) :
    machine.status ≠ .complete := by
  rcases Option.ne_none_iff_exists'.mp (current?_ne_none_of_step_eq_ok succeeded) with
    ⟨instruction, current⟩
  exact status_ne_complete_of_current? current

theorem run_of_complete (complete : machine.status = .complete) (limit : Nat) :
    machine.run limit = some (.ok (), machine) := by
  cases limit <;> simp [run, complete]

theorem run_zero (running : machine.status ≠ .complete) : machine.run 0 = none := by
  simp [run, running]

theorem run_of_step_eq_error (running : machine.status ≠ .complete)
    (failed : machine.step.1 = .error error) (limit : Nat) :
    machine.run (limit + 1) = some (.error error, machine.step.2) := by
  unfold step at failed ⊢
  cases outcome : machine.next with
  | ok following =>
    rw [outcome] at failed
    cases failed
  | error cause =>
    rw [outcome] at failed
    cases failed
    simp [run, running, outcome]

theorem run_of_step_eq_ok (succeeded : machine.step.1 = .ok ()) (limit : Nat) :
    machine.run (limit + 1) = machine.step.2.run limit := by
  have running := status_ne_complete_of_step_eq_ok succeeded
  unfold step at succeeded ⊢
  cases outcome : machine.next with
  | ok following => simp [run, running, outcome]
  | error cause =>
    rw [outcome] at succeeded
    cases succeeded

/-- More instructions than a run needs change nothing. -/
theorem run_add {limit : Nat} {outcome : Except StepError Unit × Machine}
    (ended : machine.run limit = some outcome) (more : Nat) :
    machine.run (limit + more) = some outcome := by
  induction limit generalizing machine with
  | zero =>
    by_cases complete : machine.status = .complete
    · rw [run_of_complete complete] at ended ⊢
      exact ended
    · rw [run_zero complete] at ended
      cases ended
  | succ limit ih =>
    by_cases complete : machine.status = .complete
    · rw [run_of_complete complete] at ended ⊢
      exact ended
    · rw [Nat.add_right_comm]
      cases outcome : machine.step.1 with
      | ok _ =>
        rw [run_of_step_eq_ok outcome] at ended ⊢
        exact ih ended
      | error error =>
        rw [run_of_step_eq_error complete outcome] at ended ⊢
        exact ended

theorem Returns.unique {other : Except StepError Unit} {last : Machine}
    (returns : machine.Returns result final) (returns' : machine.Returns other last) :
    result = other ∧ final = last := by
  obtain ⟨limit, ended⟩ := returns
  obtain ⟨limit', ended'⟩ := returns'
  have same := run_add ended' limit
  rw [Nat.add_comm, run_add ended limit'] at same
  cases same
  exact ⟨rfl, rfl⟩

/-- A machine after a step that succeeds has the same run before it. -/
theorem returns_step_iff (succeeded : machine.step.1 = .ok ()) :
    machine.Returns result final ↔ machine.step.2.Returns result final := by
  constructor
  · intro returns
    rcases returns with ⟨limit, ended⟩
    cases limit with
    | zero =>
      rw [run_zero (status_ne_complete_of_step_eq_ok succeeded)] at ended
      cases ended
    | succ limit =>
      rw [run_of_step_eq_ok succeeded] at ended
      exact ⟨limit, ended⟩
  · intro returns
    rcases returns with ⟨limit, ended⟩
    exact ⟨limit + 1, (run_of_step_eq_ok succeeded limit).trans ended⟩

/-! ## Where a run ends -/

/-- A run ends at the machine: its program has come to its end, or its next instruction fails. -/
inductive Ends (machine : Machine) : Except StepError Unit → Machine → Prop
  | complete : machine.status = .complete → Ends machine (.ok ()) machine
  | failed {error : StepError} :
      machine.status ≠ .complete → machine.step.1 = .error error →
      Ends machine (.error error) machine.step.2

theorem Ends.returns (ends : Ends machine result final) : machine.Returns result final := by
  cases ends with
  | complete complete => exact ⟨0, run_of_complete complete 0⟩
  | failed running failed => exact ⟨1, run_of_step_eq_error running failed 0⟩

/-- A run ends at the machine or goes on after a step that succeeds. -/
theorem ends_or_step_eq_ok (machine : Machine) :
    (∃ result final, Ends machine result final) ∨ machine.step.1 = .ok () := by
  by_cases complete : machine.status = .complete
  · exact .inl ⟨_, _, .complete complete⟩
  · cases outcome : machine.step.1 with
    | ok _ => exact .inr rfl
    | error error => exact .inl ⟨_, _, .failed complete outcome⟩

theorem returns_after_iff {n : Nat} (ran : machine.after n = .ok reached) :
    machine.Returns result final ↔ reached.Returns result final := by
  induction n generalizing machine with
  | zero =>
    cases ran
    exact Iff.rfl
  | succ n ih =>
    obtain ⟨succeeded, ran⟩ := after_succ_eq_ok_iff.mp ran
    rw [returns_step_iff succeeded, ih ran]

/-- A run executes instructions that succeed, up to a machine where it ends. -/
theorem returns_iff :
    machine.Returns result final ↔
      ∃ n reached, machine.after n = .ok reached ∧ Ends reached result final := by
  constructor
  · intro returns
    rcases returns with ⟨limit, ended⟩
    induction limit generalizing machine with
    | zero =>
      by_cases complete : machine.status = .complete
      · rw [run_of_complete complete] at ended
        cases ended
        exact ⟨0, _, rfl, .complete complete⟩
      · rw [run_zero complete] at ended
        cases ended
    | succ limit ih =>
      rcases ends_or_step_eq_ok machine with ⟨other, last, ends⟩ | succeeded
      · obtain ⟨rfl, rfl⟩ := Returns.unique ⟨_, ended⟩ ends.returns
        exact ⟨0, machine, rfl, ends⟩
      · rw [run_of_step_eq_ok succeeded] at ended
        obtain ⟨n, reached, ran, ends⟩ := ih ended
        exact ⟨n + 1, reached, after_succ_eq_ok_iff.mpr ⟨succeeded, ran⟩, ends⟩
  · intro ending
    rcases ending with ⟨n, reached, ran, ends⟩
    exact (returns_after_iff ran).mpr ends.returns

/-! ## Runs without an end -/

theorem runsForever_iff_not_returns :
    machine.RunsForever ↔ ¬ ∃ result final, machine.Returns result final := by
  constructor
  · intro forever ended
    rcases ended with ⟨result, final, limit, ended⟩
    rw [forever limit] at ended
    cases ended
  · intro never limit
    cases ended : machine.run limit with
    | none => rfl
    | some outcome => exact absurd ⟨outcome.1, outcome.2, limit, ended⟩ never

/-- A machine whose run has no end executes its next instruction, and the run after it has no end
either. -/
theorem RunsForever.step (forever : machine.RunsForever) :
    machine.step.1 = .ok () ∧ machine.step.2.RunsForever := by
  have never := runsForever_iff_not_returns.mp forever
  rcases ends_or_step_eq_ok machine with ⟨result, final, ends⟩ | succeeded
  · exact absurd ⟨result, final, ends.returns⟩ never
  · refine ⟨succeeded, runsForever_iff_not_returns.mpr fun returns => ?_⟩
    rcases returns with ⟨result, final, returns⟩
    exact never ⟨result, final, (returns_step_iff succeeded).mpr returns⟩

/-- A run has no end when every number of instructions succeeds without the program coming to its
end. -/
theorem runsForever_iff :
    machine.RunsForever ↔
      ∀ n, ∃ reached, machine.after n = .ok reached ∧ reached.status ≠ .complete := by
  constructor
  · intro forever n
    induction n generalizing machine with
    | zero => exact ⟨machine, rfl, status_ne_complete_of_step_eq_ok forever.step.1⟩
    | succ n ih =>
      rcases forever.step with ⟨succeeded, forever⟩
      rcases ih forever with ⟨reached, ran, running⟩
      exact ⟨reached, after_succ_eq_ok_iff.mpr ⟨succeeded, ran⟩, running⟩
  · intro going limit
    induction limit generalizing machine with
    | zero =>
      rcases going 0 with ⟨reached, ran, running⟩
      cases ran
      exact run_zero running
    | succ limit ih =>
      rcases going 1 with ⟨following, ran, -⟩
      have succeeded := (after_succ_eq_ok_iff.mp ran).1
      rw [run_of_step_eq_ok succeeded]
      refine ih fun n => ?_
      rcases going (n + 1) with ⟨reached, ran, running⟩
      exact ⟨reached, (after_succ_eq_ok_iff.mp ran).2, running⟩

/-! ## Stepping and running -/

/-- Every machine on the way to one that is reached by instructions that all succeed still has an
instruction to execute. -/
theorem status_ne_complete_of_after {n k : Nat} (ran : machine.after n = .ok reached) (lt : k < n) :
    ∃ earlier, machine.after k = .ok earlier ∧ earlier.status ≠ .complete := by
  induction k generalizing n machine with
  | zero =>
    rcases Nat.exists_eq_succ_of_ne_zero (Nat.ne_zero_of_lt lt) with ⟨n, rfl⟩
    exact ⟨machine, rfl, status_ne_complete_of_step_eq_ok (after_succ_eq_ok_iff.mp ran).1⟩
  | succ k ih =>
    rcases Nat.exists_eq_succ_of_ne_zero (Nat.ne_zero_of_lt lt) with ⟨n, rfl⟩
    rcases after_succ_eq_ok_iff.mp ran with ⟨succeeded, ran⟩
    rcases ih ran (by omega) with ⟨earlier, before, running⟩
    exact ⟨earlier, after_succ_eq_ok_iff.mpr ⟨succeeded, before⟩, running⟩

theorem step_of_complete (complete : machine.status = .complete) :
    machine.step = (.error .finished, machine) := by
  cases machine with
  | idle => cases complete
  | loaded session =>
    exact step_finished (current?_eq_none_iff_status.mpr (.inr complete) : session.current? = none)

/-- A run is repeated steps. It returns without an error when a number of steps succeed and the last
one, and no earlier one, brings the program to its end; it returns an error when steps succeed and
the one after them fails with it; and it does not return when all steps succeed without end. What
it returns is therefore the same after any number of steps that succeed. -/
theorem run_eq_repeated_step (machine : Machine) :
    (∀ final, machine.Returns (.ok ()) final ↔
      ∃ n, machine.after n = .ok final ∧
        (∀ k < n, ∃ earlier, machine.after k = .ok earlier ∧ earlier.status ≠ .complete) ∧
        final.status = .complete) ∧
    (∀ error final, machine.Returns (.error error) final ↔
      ∃ n reached, machine.after n = .ok reached ∧ reached.status ≠ .complete ∧
        reached.step = (.error error, final)) ∧
    (machine.RunsForever ↔
      ∀ n, ∃ reached, machine.after n = .ok reached ∧ reached.status ≠ .complete) ∧
    (∀ result final other last, machine.Returns result final → machine.Returns other last →
      result = other ∧ final = last) ∧
    (∀ k later, machine.after k = .ok later →
      (machine.RunsForever ∧ later.RunsForever) ∨
        ∃ result final, machine.Returns result final ∧ later.Returns result final) ∧
    (machine.status = .complete →
      machine.Returns (.ok ()) machine ∧ machine.step = (.error .finished, machine)) := by
  refine ⟨fun final => ?_, fun error final => ?_, runsForever_iff,
    fun _ _ _ _ returns returns' => returns.unique returns', fun k later ran => ?_,
    fun complete => ⟨(Ends.complete complete).returns, step_of_complete complete⟩⟩
  · rw [returns_iff]
    constructor
    · intro ending
      rcases ending with ⟨n, reached, ran, ends⟩
      cases ends with
      | complete complete =>
        exact ⟨n, ran, fun k lt => status_ne_complete_of_after ran lt, complete⟩
    · intro ending
      rcases ending with ⟨n, ran, -, complete⟩
      exact ⟨n, final, ran, .complete complete⟩
  · rw [returns_iff]
    constructor
    · intro ending
      rcases ending with ⟨n, reached, ran, ends⟩
      cases ends with
      | failed running failed => exact ⟨n, reached, ran, running, Prod.ext failed rfl⟩
    · intro ending
      rcases ending with ⟨n, reached, ran, running, failed⟩
      obtain rfl : reached.step.2 = final := congrArg Prod.snd failed
      exact ⟨n, reached, ran, .failed running (congrArg Prod.fst failed)⟩
  · by_cases returns : ∃ result final, machine.Returns result final
    · rcases returns with ⟨result, final, returns⟩
      exact .inr ⟨result, final, returns, (returns_after_iff ran).mp returns⟩
    · refine .inl ⟨runsForever_iff_not_returns.mpr returns, ?_⟩
      rw [runsForever_iff_not_returns]
      intro returns'
      rcases returns' with ⟨result, final, returns'⟩
      exact returns ⟨result, final, (returns_after_iff ran).mpr returns'⟩

/-- A program that goes twice around a loop and then comes to its end. -/
def twoRounds : Program where
  instructions := [⟨.str, ["3", "A"]⟩, ⟨.str, ["1", "B"]⟩, ⟨.sub, ["B", "A"]⟩,
    ⟨.bne, ["A", "B", "again"]⟩]
  labels := (∅ : LabelTable).insert "again" 2

/-- A run from the middle of the first round ends where the run of the whole program does. -/
theorem run_eq_repeated_step_twoRounds :
    ∃ later final, (ofProgram twoRounds).after 3 = .ok later ∧ later.Returns (.ok ()) final ∧
      final.pc = 4 ∧ final.step = (.error .finished, final) := by
  let later : Machine := loaded ⟨twoRounds, (Store.empty.set .a 2).set .b 1, 3, none⟩
  let final : Machine := loaded ⟨twoRounds, (Store.empty.set .a 1).set .b 1, 4, none⟩
  have ran : (ofProgram twoRounds).after 6 = .ok final := rfl
  obtain ⟨completes, -, -, unique, resumed, -⟩ := run_eq_repeated_step (ofProgram twoRounds)
  obtain ⟨-, -, -, -, -, ended⟩ := run_eq_repeated_step final
  have returns : (ofProgram twoRounds).Returns (.ok ()) final :=
    (completes final).mpr ⟨6, ran, fun k lt => status_ne_complete_of_after ran lt, rfl⟩
  rcases resumed 3 later rfl with ⟨forever, -⟩ | ⟨result, last, returns', laterReturns⟩
  · exact absurd ⟨_, _, returns⟩ (runsForever_iff_not_returns.mp forever)
  · obtain ⟨rfl, rfl⟩ := unique _ _ _ _ returns returns'
    exact ⟨later, final, rfl, laterReturns, rfl, (ended rfl).2⟩

end SlotAsm.Machine
