import SlotAsm.Proofs.Transitions

/-!
The life of a machine. `Machine.Placed` is the invariant: execution stands within the program or at
its end, and an error is kept only within. A step preserves it, hence so do any number of steps and
a run, and every reachable machine has it (`Machine.Reachable.placed`). The status, which is not
kept anywhere but computed from the rest, then says what it should.
-/

namespace SlotAsm.Machine

/-! ## The invariant -/

/-- Execution stands within the program or at its end, and within it when an error is kept. -/
structure Placed (machine : Machine) : Prop where
  pc_le : machine.pc ≤ machine.program.length
  pc_lt_of_error : machine.error?.isSome = true → machine.pc < machine.program.length

theorem placed_idle : Placed idle where
  pc_le := Nat.le_refl _
  pc_lt_of_error := nofun

theorem placed_ofProgram (program : Program) : Placed (ofProgram program) where
  pc_le := Nat.zero_le _
  pc_lt_of_error := nofun

/-- A step goes on within the program or at its end, and an instruction that fails is one of the
program's. -/
theorem Placed.of_transition {before after : Machine} {result : Except StepError Unit}
    (placed : Placed before) (transition : Transition before result after) : Placed after := by
  cases transition with
  | idle => exact placed
  | finished => exact placed
  | failed current =>
      exact ⟨placed.pc_le, fun _ => Program.get?_eq_some_lt current⟩
  | executed current succeeded =>
      refine ⟨?_, nofun⟩
      exact Instruction.effect_next_le succeeded (Program.get?_eq_some_lt current)

theorem Placed.step {machine : Machine} (placed : Placed machine) : Placed machine.step.2 :=
  placed.of_transition machine.transition_step

theorem Placed.afterSteps {machine : Machine} (placed : Placed machine) (n : Nat) :
    Placed (machine.afterSteps n) :=
  afterSteps_induction (fun _ placed => placed.step) placed n

theorem Placed.after {n : Nat} {machine reached : Machine} (placed : Placed machine)
    (ran : machine.after n = .ok reached) : Placed reached := by
  rw [← afterSteps_eq_of_after ran]
  exact placed.afterSteps n

/-- Every reachable machine is placed. -/
theorem Reachable.placed {machine : Machine} (reachable : Reachable machine) : Placed machine :=
  invariant_of_reachable placed_idle placed_ofProgram (fun _ placed => placed.step) reachable

/-! ## What the status says -/

theorem status_loaded (session : Session) :
    (loaded session).status =
      if session.program.length ≤ session.pc then .complete
      else if session.error.isSome then .halted
      else .ready :=
  rfl

theorem status_eq_idle_iff {machine : Machine} : machine.status = .idle ↔ machine = .idle := by
  cases machine with
  | idle => simp [status]
  | loaded session =>
      rw [status_loaded]
      split
      · simp
      · split <;> simp

theorem status_eq_complete_iff {session : Session} :
    (loaded session).status = .complete ↔ session.program.length ≤ session.pc := by
  rw [status_loaded]
  split
  · next ended => simp [ended]
  · next inside => split <;> simp [inside]

theorem status_eq_halted_iff {session : Session} :
    (loaded session).status = .halted ↔
      session.pc < session.program.length ∧ session.error.isSome = true := by
  rw [status_loaded]
  split
  · next ended => simp [Nat.not_lt.mpr ended]
  · next inside =>
    split
    · next error => simp [error, Nat.not_le.mp inside]
    · next clean => simp [clean]

/-- A machine halts in its place when an instruction fails. -/
theorem halted_of_step_eq_error {machine : Machine} {error : StepError}
    (inside : machine.current? ≠ none) (failed : machine.step.1 = .error error) :
    machine.step.2.pc = machine.pc ∧ machine.step.2.status = .halted := by
  cases machine with
  | idle => exact absurd rfl inside
  | loaded session =>
    obtain ⟨instruction, current⟩ := Option.ne_none_iff_exists'.mp inside
    cases outcome : instruction.effect session.program session.store session.pc with
    | error cause =>
      rw [step_failed current outcome]
      exact ⟨rfl, status_eq_halted_iff.mpr ⟨Program.get?_eq_some_lt current, rfl⟩⟩
    | ok effect =>
      rw [step_executed current outcome] at failed
      cases failed

theorem current?_eq_none_iff {machine : Machine} :
    machine.current? = none ↔ machine.program.length ≤ machine.pc :=
  List.getElem?_eq_none_iff

/-- There is no instruction to execute exactly when the machine is idle or complete. -/
theorem current?_eq_none_iff_status {machine : Machine} :
    machine.current? = none ↔ machine.status = .idle ∨ machine.status = .complete := by
  rw [current?_eq_none_iff]
  cases machine with
  | idle => simp [status, program, pc, Program.length, EmptyCollection.emptyCollection,
      Program.empty]
  | loaded session =>
      rw [status_eq_complete_iff, status_eq_idle_iff]
      simp [program, pc]

theorem status_ne_complete_of_current? {machine : Machine} {instruction : Instruction}
    (current : machine.current? = some instruction) : machine.status ≠ .complete := by
  intro complete
  rw [current?_eq_none_iff_status.mpr (.inr complete)] at current
  cases current

/-- A loaded machine has an instruction to execute until its program comes to its end. -/
theorem exists_current? {machine : Machine} (loaded : machine ≠ .idle)
    (running : machine.status ≠ .complete) :
    ∃ instruction, machine.current? = some instruction := by
  rw [← Option.ne_none_iff_exists']
  intro ended
  rcases current?_eq_none_iff_status.mp ended with idle | complete
  · exact loaded (status_eq_idle_iff.mp idle)
  · exact running complete

/-- A machine stays loaded. -/
theorem step_ne_idle {machine : Machine} (loaded : machine ≠ .idle) : machine.step.2 ≠ .idle := by
  have transition := machine.transition_step
  generalize machine.step.1 = result, machine.step.2 = after at transition
  cases transition with
  | idle => exact absurd rfl loaded
  | finished => exact loaded
  | failed => exact Machine.noConfusion
  | executed => exact Machine.noConfusion

/-- An error is kept exactly when the machine is halted. -/
theorem Placed.error?_isSome_iff {machine : Machine} (placed : Placed machine) :
    machine.error?.isSome = true ↔ machine.status = .halted := by
  cases machine with
  | idle => simp [error?, status]
  | loaded session =>
      rw [status_eq_halted_iff]
      exact ⟨fun error => ⟨placed.pc_lt_of_error error, error⟩, And.right⟩

/-- The life of every reachable machine. -/
theorem Reachable.lifecycle {machine : Machine} (reachable : Reachable machine) :
    machine.pc ≤ machine.program.length ∧
    (machine.error?.isSome = true ↔ machine.status = .halted) ∧
    (machine.error?.isSome = true →
      (∃ session, machine = loaded session) ∧ machine.pc < machine.program.length) ∧
    (machine.current? = none ↔ machine.status = .idle ∨ machine.status = .complete) ∧
    (machine.status = .idle →
      machine.program = ∅ ∧ machine.pc = 0 ∧ machine.error? = none ∧
        ∀ slot, machine.store.get slot = none) ∧
    (machine.status = .ready ∨ machine.status = .halted →
      ∃ instruction, machine.current? = some instruction) ∧
    ∀ instruction, machine.current? = some instruction →
      machine.pc + 1 ≤ machine.program.length := by
  have placed := reachable.placed
  refine ⟨placed.pc_le, placed.error?_isSome_iff, fun error => ?_, current?_eq_none_iff_status,
    fun isIdle => ?_, fun running => ?_, fun instruction => Program.get?_eq_some_lt⟩
  · refine ⟨?_, placed.pc_lt_of_error error⟩
    cases machine with
    | idle => cases error
    | loaded session => exact ⟨session, rfl⟩
  · obtain rfl := status_eq_idle_iff.mp isIdle
    exact ⟨rfl, rfl, rfl, Store.get_empty⟩
  · apply Option.ne_none_iff_exists'.mp
    intro ended
    rcases current?_eq_none_iff_status.mp ended with status | status <;> simp [status] at running

/-- A machine that executed a branch to a label far beyond the end of its program. -/
def farBranch : Machine :=
  (ofProgram
    { instructions := [⟨.str, ["1", "A"]⟩, ⟨.str, ["-1", "B"]⟩, ⟨.bne, ["A", "B", "far"]⟩]
      labels := (∅ : LabelTable).insert "far" 18446744073709551615 }).step.2.step.2.step.2

theorem Reachable.lifecycle_farBranch :
    farBranch.error? = some (.undefinedLabel "far") ∧ farBranch.status = .halted ∧
      farBranch.pc < farBranch.program.length := by
  have reachable : Reachable farBranch := (Reachable.ofProgram _).step.step.step
  have failed : farBranch.error? = some (.undefinedLabel "far") := by decide
  have kept : farBranch.error?.isSome = true := by rw [failed, Option.isSome_some]
  obtain ⟨-, halted, within, -⟩ := Reachable.lifecycle reachable
  exact ⟨failed, halted.mp kept, (within kept).2⟩

end SlotAsm.Machine
