import SlotAsm.Fields
import SlotAsm.Proofs.Runs

/-!
A machine is its parts (`Machine.fields_injective`). Every operation on the parts of a machine gives
the parts of what it gives on the machine (`Machine.step_fields`, `Machine.run_fields`), so the
records that the operations lead to are the parts of the machines that they lead to
(`Machine.Fields.reachable_iff`), and a record without a program holds nothing else either
(`Machine.Fields.Reachable.eq_idle`).
-/

namespace SlotAsm.Machine

variable {machine : Machine}

/-- A machine is determined by its parts. -/
theorem fields_injective {machine other : Machine} (same : machine.fields = other.fields) :
    machine = other := by
  have loads := congrArg Fields.isLoaded same
  cases machine with
  | idle =>
    cases other with
    | idle => rfl
    | loaded session => cases loads
  | loaded session =>
    cases other with
    | idle => cases loads
    | loaded session' =>
      have program : session.program = session'.program := congrArg Fields.program same
      have store : session.store = session'.store := congrArg Fields.store same
      have pc : session.pc = session'.pc := congrArg Fields.pc same
      have error : session.error = session'.error := congrArg Fields.error same
      cases session
      simp_all

/-! ## The operations -/

theorem current?_fields (machine : Machine) : machine.fields.current? = machine.current? :=
  rfl

theorem status_fields (machine : Machine) : machine.fields.status = machine.status := by
  cases machine <;> rfl

theorem load_fields (text : String) :
    Fields.load text = ((load text).1, (load text).2.fields) := by
  unfold Fields.load load
  cases parse text <;> rfl

theorem status_eq_ready_or_halted {instruction : Instruction}
    (current : machine.current? = some instruction) :
    machine.status = .ready ∨ machine.status = .halted := by
  have running : ¬ (machine.status = .idle ∨ machine.status = .complete) := by
    rw [← current?_eq_none_iff_status, current]
    exact Option.some_ne_none instruction
  cases status : machine.status with
  | idle => exact absurd (.inl status) running
  | ready => exact .inl rfl
  | halted => exact .inr rfl
  | complete => exact absurd (.inr status) running

namespace Fields

variable {fields : Fields} (running : fields.status = .ready ∨ fields.status = .halted)

include running

/-- While the program has not come to its end, a step does what its next instruction does. -/
theorem step_of_effect_eq_ok {effect : Effect} (succeeded : fields.effect = .ok effect) :
    fields.step = (.ok (), { fields with
      store := effect.apply fields.store, pc := effect.next, error := none }) := by
  rcases running with ready | halted
  · simp only [step, ready, succeeded]
  · simp only [step, halted, succeeded]

theorem step_of_effect_eq_error {error : StepError} (failed : fields.effect = .error error) :
    fields.step = (.error error, { fields with error := some error }) := by
  rcases running with ready | halted
  · simp only [step, ready, failed]
  · simp only [step, halted, failed]

end Fields

theorem step_fields (machine : Machine) :
    machine.fields.step = (machine.step.1, machine.step.2.fields) := by
  cases machine with
  | idle => rfl
  | loaded session =>
    cases current : session.current? with
    | none =>
      have complete : (loaded session).status = .complete :=
        status_eq_complete_iff.mpr (List.getElem?_eq_none_iff.mp current)
      rw [step_finished current]
      simp only [Fields.step, status_fields, complete]
    | some instruction =>
      have found : (loaded session).current? = some instruction := current
      have running : (loaded session).fields.status = .ready ∨
          (loaded session).fields.status = .halted := by
        rw [status_fields]
        exact status_eq_ready_or_halted found
      have effect : (loaded session).fields.effect =
          instruction.effect session.program session.store session.pc := by
        rw [Fields.effect, current?_fields, found]
        rfl
      cases outcome : instruction.effect session.program session.store session.pc with
      | ok effect' =>
        rw [step_executed current outcome,
          Fields.step_of_effect_eq_ok running (effect.trans outcome)]
        rfl
      | error error =>
        rw [step_failed current outcome,
          Fields.step_of_effect_eq_error running (effect.trans outcome)]
        rfl

theorem run_fields (limit : Nat) (machine : Machine) :
    machine.fields.run limit =
      (machine.run limit).map fun (result, after) => (result, after.fields) := by
  induction limit generalizing machine with
  | zero =>
    unfold Fields.run
    rw [status_fields]
    by_cases complete : machine.status = .complete
    · rw [if_pos complete, run_of_complete complete, Option.map_some]
    · rw [if_neg complete, run_zero complete, Option.map_none]
  | succ limit ih =>
    unfold Fields.run
    rw [status_fields]
    by_cases complete : machine.status = .complete
    · rw [if_pos complete, run_of_complete complete, Option.map_some]
    · rw [if_neg complete, step_fields]
      cases outcome : machine.step.1 with
      | ok _ =>
        rw [run_of_step_eq_ok outcome]
        exact ih machine.step.2
      | error error => rw [run_of_step_eq_error complete outcome, Option.map_some]

/-! ## The records that the operations lead to -/

namespace Fields

/-- The operations lead to the parts of the machines that they lead to. -/
theorem reachable_iff {fields : Fields} :
    fields.Reachable ↔ ∃ machine : Machine, machine.Reachable ∧ machine.fields = fields := by
  constructor
  · intro reachable
    induction reachable with
    | idle => exact ⟨.idle, .idle, rfl⟩
    | load text => exact ⟨(Machine.load text).2, .load text, by rw [load_fields]⟩
    | ofProgram program => exact ⟨Machine.ofProgram program, .ofProgram program, rfl⟩
    | step _ ih =>
      rcases ih with ⟨machine, reachable, rfl⟩
      exact ⟨machine.step.2, .step reachable, by rw [step_fields]⟩
    | run _ ran ih =>
      rcases ih with ⟨machine, reachable, rfl⟩
      rw [run_fields] at ran
      obtain ⟨⟨result, after⟩, returned, same⟩ := Option.map_eq_some_iff.mp ran
      cases same
      exact ⟨after, .run reachable returned, rfl⟩
  · intro reached
    rcases reached with ⟨machine, reachable, rfl⟩
    induction reachable with
    | idle => exact .idle
    | load text =>
      have loaded := Reachable.load text
      rw [load_fields] at loaded
      exact loaded
    | ofProgram program => exact .ofProgram program
    | step _ ih =>
      have stepped := ih.step
      rw [step_fields] at stepped
      exact stepped
    | @run machine after limit result _ ran ih =>
      have returned : machine.fields.run limit = some (result, after.fields) := by
        rw [run_fields, ran, Option.map_some]
      exact ih.run returned

/-- A record that says that there is no program has no other parts either. -/
theorem Reachable.eq_idle {fields : Fields} (reachable : fields.Reachable)
    (unloaded : fields.isLoaded = false) : fields = Fields.idle := by
  obtain ⟨machine, -, rfl⟩ := reachable_iff.mp reachable
  cases machine with
  | idle => rfl
  | loaded session => cases unloaded

end Fields

end SlotAsm.Machine
