import SlotAsm.Proofs.Initialisation
import SlotAsm.Proofs.Operands

/-!
Which slots are empty. Sums and differences are written as well, but only into slots that held a
value before, so an instruction fills no other slot than the one it stores into
(`Instruction.Performs.filled_iff`). A slot is therefore filled after a number of steps when it was
filled before them or one of them executed a store into it (`Machine.filled_afterSteps_iff`), along
whatever way the branches took. From its start a program finds all slots empty, which leaves the
stores alone (`Machine.filled_iff_hasStored`).
-/

namespace SlotAsm

/-! ## What an instruction fills -/

theorem Store.get_set_ne_none_iff {store : Store} {target slot : Slot} {value : Value} :
    (store.set target value).get slot ≠ none ↔ store.get slot ≠ none ∨ target = slot := by
  rw [get_set]
  split
  · next same => exact iff_of_true (Option.some_ne_none value) (.inr same)
  · next distinct => exact (or_iff_left distinct).symm

namespace Instruction

variable {given : Instruction} {program : Program} {store : Store} {pc : Nat} {effect : Effect}
  {slot : Slot} {value : Value} {operand : Operand}

theorem get_of_occupied (held : given.occupied store operand = .ok (slot, value)) :
    store.get slot = some value := by
  unfold occupied at held
  split at held
  · cases held
  · split at held
    · cases held
    · next found =>
      cases held
      exact found

theorem slotStored?_eq_none (notStore : given.operation ≠ .str) : given.slotStored? = none :=
  if_neg notStore

/-- What is written into a slot that held a value fills no further slot. -/
theorem filled_iff_of_held {target : Slot} {other : Value} (held : store.get target = some other)
    (notStore : given.operation ≠ .str) :
    (store.set target value).get slot ≠ none ↔
      store.get slot ≠ none ∨ given.slotStored? = some slot := by
  have kept : target = slot → store.get slot ≠ none := by
    rintro rfl
    rw [held]
    exact Option.some_ne_none other
  rw [Store.get_set_ne_none_iff, slotStored?_eq_none notStore, or_iff_left_of_imp kept,
    or_iff_left (Option.some_ne_none slot).symm]

/-- An instruction fills the slot that it stores into and no other. -/
theorem Performs.filled_iff (performs : given.Performs program store pc effect) :
    (effect.apply store).get slot ≠ none ↔
      store.get slot ≠ none ∨ given.slotStored? = some slot := by
  cases performs with
  | add operation _ second | sub operation _ second =>
    exact filled_iff_of_held (get_of_occupied second) (by rw [operation]; decide)
  | str operation _ named =>
    rw [slotStored?_eq_some operation named, Option.some_inj]
    exact Store.get_set_ne_none_iff
  | bne operation =>
    rw [slotStored?_eq_none (by rw [operation]; decide)]
    exact (or_iff_left nofun).symm

/-- An instruction that fails because a slot is empty finds it empty. -/
theorem get_of_emptySlot
    (failed : given.effect program store pc = .error (.emptySlot operand slot)) :
    store.get slot = none := by
  obtain ⟨reader, refuses⟩ := exists_refuses failed
  generalize given.token? reader.position = token? at refuses
  cases refuses with
  | emptySlot _ empty => exact empty

end Instruction

/-! ## What steps fill -/

namespace Machine

variable {machine : Machine} {slot : Slot} {operand : Operand} {n : Nat}

/-- One of the first `n` steps of the machine executes a store into the slot. -/
def HasStored (machine : Machine) (n : Nat) (slot : Slot) : Prop :=
  ∃ earlier given, machine.Executes n earlier given ∧ given.slotStored? = some slot

theorem not_hasStored_zero : ¬ machine.HasStored 0 slot := by
  intro stored
  rcases stored with ⟨_, _, executes, -⟩
  exact not_executes_zero executes

/-- A store is executed by the first step or by one of the others. -/
theorem hasStored_succ_iff :
    machine.HasStored (n + 1) slot ↔
      (∃ given, machine.current? = some given ∧ machine.step.1 = .ok () ∧
        given.slotStored? = some slot) ∨ machine.step.2.HasStored n slot := by
  constructor
  · intro stored
    rcases stored with ⟨earlier, given, executes, stored⟩
    rcases executes_succ_iff.mp executes with ⟨rfl, current, succeeded⟩ | later
    · exact .inl ⟨given, current, succeeded, stored⟩
    · exact .inr ⟨earlier, given, later, stored⟩
  · intro stored
    rcases stored with ⟨given, current, succeeded, stored⟩ | ⟨earlier, given, later, stored⟩
    · exact ⟨machine, given, executes_succ_iff.mpr (.inl ⟨rfl, current, succeeded⟩), stored⟩
    · exact ⟨earlier, given, executes_succ_iff.mpr (.inr later), stored⟩

/-- A slot is filled after a step when it was filled before or the step executes a store into
it. -/
theorem filled_step_iff :
    machine.step.2.store.get slot ≠ none ↔
      machine.store.get slot ≠ none ∨ ∃ given, machine.current? = some given ∧
        machine.step.1 = .ok () ∧ given.slotStored? = some slot := by
  have transition := machine.transition_step
  generalize machine.step.1 = result at transition ⊢
  generalize machine.step.2 = after at transition ⊢
  cases transition with
  | idle | finished | failed => exact (or_iff_left fun ⟨_, _, failed, _⟩ => nomatch failed).symm
  | executed current succeeded =>
    refine (Instruction.effect_eq_ok_iff.mp succeeded).filled_iff.trans (or_congr_right ?_)
    constructor
    · intro stored
      exact ⟨_, current, rfl, stored⟩
    · intro stored
      obtain ⟨given, stands, -, stored⟩ := stored
      cases current.symm.trans stands
      exact stored

/-- A slot is filled after a number of steps when it was filled before or one of them executes a
store into it. -/
theorem filled_afterSteps_iff :
    (machine.afterSteps n).store.get slot ≠ none ↔
      machine.store.get slot ≠ none ∨ machine.HasStored n slot := by
  induction n generalizing machine with
  | zero => exact (or_iff_left not_hasStored_zero).symm
  | succ n ih => rw [afterSteps_succ, ih, filled_step_iff, hasStored_succ_iff, or_assoc]

/-- A step that fails because a slot is empty finds it empty. -/
theorem get_of_step_eq_emptySlot
    (failed : machine.step.1 = .error (.emptySlot operand slot)) :
    machine.store.get slot = none := by
  have transition := machine.transition_step
  rw [failed] at transition
  generalize machine.step.2 = after at transition
  cases transition with
  | failed _ failed => exact Instruction.get_of_emptySlot failed

/-! ## Stores of the program -/

/-- The program of the machine stores into every slot that is filled. -/
def Sourced (machine : Machine) : Prop :=
  ∀ slot, machine.store.get slot ≠ none →
    ∃ given ∈ machine.program.instructions, given.slotStored? = some slot

theorem sourced_of_empty (empty : machine.store = ∅) : Sourced machine := by
  intro slot filled
  rw [empty, Store.get_empty] at filled
  exact absurd rfl filled

/-- A step executes an instruction of the program, which stays the same. -/
theorem Sourced.step (sourced : Sourced machine) : Sourced machine.step.2 := by
  intro slot filled
  rw [step_program]
  rcases filled_step_iff.mp filled with before | ⟨given, current, -, stored⟩
  · exact sourced slot before
  · exact ⟨given, List.mem_of_getElem? current, stored⟩

theorem Reachable.sourced (reachable : Reachable machine) : Sourced machine :=
  invariant_of_reachable (sourced_of_empty rfl) (fun _ => sourced_of_empty rfl)
    (fun _ sourced => sourced.step) reachable

/-! ## Stores since the start -/

/-- From the start of a program the filled slots are those that were stored into. -/
theorem filled_ofProgram_iff {program : Program} :
    ((ofProgram program).afterSteps n).store.get slot ≠ none ↔
      (ofProgram program).HasStored n slot := by
  rw [filled_afterSteps_iff]
  exact or_iff_right fun filled => filled (Store.get_empty slot)

/-- A run that fails because a slot is empty leaves it empty. -/
theorem Returns.get_of_emptySlot {final : Machine}
    (returns : machine.Returns (.error (.emptySlot operand slot)) final) :
    ∃ n, machine.afterSteps n = final ∧ final.store.get slot = none := by
  obtain ⟨n, reached, ran, ends⟩ := returns_iff.mp returns
  cases ends with
  | failed _ failed =>
    have empty := get_of_step_eq_emptySlot failed
    refine ⟨n + 1, ?_, ?_⟩
    · rw [afterSteps_add, afterSteps_eq_of_after ran]
      rfl
    · have transition := reached.transition_step
      rw [failed] at transition
      rw [transition.program_pc_store_eq.2.2, empty]

/-- A slot is empty as long as nothing was stored into it. However many steps a program makes from
its start, the slots that are filled are those that an executed instruction stored into. That a slot
is empty is an error only of a step or a run before which nothing was stored into it; a slot that no
instruction of a program stores into is empty in every machine with this program; and a slot that
is filled stays so. -/
theorem filled_iff_hasStored (program : Program) :
    let start := ofProgram program
    (∀ n slot, (start.afterSteps n).store.get slot ≠ none ↔ start.HasStored n slot) ∧
    (∀ n operand slot, (start.afterSteps n).step.1 = .error (.emptySlot operand slot) →
      ¬ start.HasStored n slot) ∧
    (∀ n operand slot final,
      (start.afterSteps n).Returns (.error (.emptySlot operand slot)) final →
        ∃ k ≥ n, start.afterSteps k = final ∧ ¬ start.HasStored k slot) ∧
    (∀ machine slot, Reachable machine → machine.program = program →
      (∀ given ∈ program.instructions, given.slotStored? ≠ some slot) →
        machine.store.get slot = none) ∧
    ∀ (machine : Machine) (slot : Slot), machine.store.get slot ≠ none →
      (∀ n, (machine.afterSteps n).store.get slot ≠ none) ∧
        ∀ result final, machine.Returns result final → final.store.get slot ≠ none := by
  refine ⟨fun n slot => filled_ofProgram_iff, fun n operand slot failed stored => ?_,
    fun n operand slot final returns => ?_, fun machine slot reachable same unstored => ?_,
    fun machine slot filled => ?_⟩
  · exact filled_ofProgram_iff.mpr stored (get_of_step_eq_emptySlot failed)
  · obtain ⟨k, rfl, empty⟩ := returns.get_of_emptySlot
    refine ⟨n + k, Nat.le_add_right n k, afterSteps_add _ n k, fun stored => ?_⟩
    rw [← afterSteps_add] at empty
    exact filled_ofProgram_iff.mpr stored empty
  · by_contra filled
    obtain ⟨given, member, stored⟩ := reachable.sourced slot filled
    rw [same] at member
    exact unstored given member stored
  · have stays : ∀ n, (machine.afterSteps n).store.get slot ≠ none :=
      fun n => filled_afterSteps_iff.mpr (.inl filled)
    refine ⟨stays, fun result final returns => ?_⟩
    obtain ⟨limit, ran⟩ := returns
    obtain ⟨n, rfl⟩ := exists_afterSteps_of_run ran
    exact stays n

/-- A program that adds a slot to itself and then to one that it never stores into. -/
def doubling : Program where
  instructions := [⟨.str, ["1", "A"]⟩, ⟨.add, ["A", "A"]⟩, ⟨.add, ["A", "B"]⟩]
  labels := ∅

/-- The second addition fails, also when the whole program is run, and the slot stays empty. -/
theorem filled_iff_hasStored_doubling :
    (ofProgram doubling).HasStored 2 .a ∧ ¬ (ofProgram doubling).HasStored 2 .b ∧
    (∃ k final, (ofProgram doubling).Returns (.error (.emptySlot .slot2 .b)) final ∧
      (ofProgram doubling).afterSteps k = final ∧ ¬ (ofProgram doubling).HasStored k .b) ∧
    ∀ n, ((ofProgram doubling).afterSteps n).store.get .b = none ∧
      ((ofProgram doubling).afterSteps (1 + n)).store.get .a ≠ none := by
  obtain ⟨stored, failing, running, unstored, stays⟩ := filled_iff_hasStored doubling
  have returns : (ofProgram doubling).Returns (.error (.emptySlot .slot2 .b))
      ((ofProgram doubling).afterSteps 3) := ⟨3, rfl⟩
  obtain ⟨k, -, reached, never⟩ := running 0 _ _ _ returns
  refine ⟨(stored 2 .a).mp (by decide), failing 2 _ _ rfl, ⟨k, _, returns, reached, never⟩,
    fun n => ⟨?_, ?_⟩⟩
  · have reachable : Reachable ((ofProgram doubling).afterSteps n) :=
      afterSteps_induction (fun _ reachable => reachable.step) (.ofProgram doubling) n
    exact unstored _ .b reachable (afterSteps_program _ n) (by decide)
  · rw [afterSteps_add]
    exact (stays _ .a (by decide)).1 n

end Machine

end SlotAsm
