import SlotAsm.Proofs.Decoding
import SlotAsm.Proofs.Reading
import SlotAsm.Proofs.Transitions

/-!
The machine that reads its tokens when it executes them, beside the machine that was given them
decoded. An instruction has the effect of the action that it is decoded to, error and all
(`Action.Decodes.effect_eq`), so a step keeps the two machines `InStep`, and with them any number of
steps. A decoded machine has no tokens that it could find malformed, and the only labels it can miss
are undeclared; hence the same holds of a program that was read from a text.
-/

namespace SlotAsm

/-! ## The effect of an action -/

namespace Instruction

theorem slotOf_eq (instruction : Instruction) (operand : Operand) {slot : Slot}
    (named : (instruction.token? operand.position).bind Slot.ofName? = some slot) :
    instruction.slotOf operand = .ok slot := by
  rw [slotOf, named]

/-- An operand that names a slot fails only when the slot is empty. -/
theorem occupied_eq (instruction : Instruction) (store : Store) (operand : Operand) {slot : Slot}
    (named : (instruction.token? operand.position).bind Slot.ofName? = some slot) :
    instruction.occupied store operand =
      match store.get slot with
      | none => .error (.emptySlot operand slot)
      | some value => .ok (slot, value) := by
  have known := slotOf_eq instruction operand named
  cases held : store.get slot with
  | none => simp only [occupied, known, held]
  | some value => simp only [occupied, known, held]

theorem numberOf_eq (instruction : Instruction) (operand : Operand) {value : Value}
    (read : (instruction.token? operand.position).bind Value.ofText? = some value) :
    instruction.numberOf operand = .ok value := by
  rw [numberOf, read]

theorem targetOf_eq (instruction : Instruction) (program : Program) (operand : Operand)
    {label : String} (given : instruction.token? operand.position = some label) :
    instruction.targetOf program operand =
      match program.target? label with
      | none => .error (.undefinedLabel label)
      | some target => .ok target := by
  cases found : program.target? label with
  | none => simp only [targetOf, given, found]
  | some target => simp only [targetOf, given, found]

end Instruction

/-- No label of a well-formed program is mapped beyond its end, so a branch finds them all. -/
theorem Program.WellFormed.target?_eq {program : Program} (wellFormed : program.WellFormed)
    (label : String) : program.target? label = program.labels.get? label := by
  unfold target?
  cases declared : program.labels.get? label with
  | none => rfl
  | some index => simpa using wellFormed.get?_le declared

/-- In a well-formed program, an instruction has the effect of the action that it is decoded to, or
the same error. -/
theorem Action.Decodes.effect_eq {program : Program} {instruction : Instruction}
    {action : Action Value} (decodes : Decodes Value.ofText? program.labels instruction action)
    (wellFormed : program.WellFormed) (store : Store) (pc : Nat) :
    instruction.effect program store pc = Decoded.effect store pc action := by
  cases decodes with
  | @add first second source target named named' =>
      have addend := Instruction.occupied_eq ⟨.add, [first, second]⟩ store .slot1 named
      have value := Instruction.occupied_eq ⟨.add, [first, second]⟩ store .slot2 named'
      simp only [Instruction.effect, Decoded.effect, addend, value]
      cases store.get source <;> cases store.get target <;> rfl
  | @sub first second source target named named' =>
      have subtrahend := Instruction.occupied_eq ⟨.sub, [first, second]⟩ store .slot1 named
      have value := Instruction.occupied_eq ⟨.sub, [first, second]⟩ store .slot2 named'
      simp only [Instruction.effect, Decoded.effect, subtrahend, value]
      cases store.get source <;> cases store.get target <;> rfl
  | @str first second value target read named =>
      have number := Instruction.numberOf_eq ⟨.str, [first, second]⟩ .number read
      have slot := Instruction.slotOf_eq ⟨.str, [first, second]⟩ .slot named
      simp only [Instruction.effect, Decoded.effect, number, slot]
      rfl
  | @bne first second label left right named named' =>
      have x := Instruction.occupied_eq ⟨.bne, [first, second, label]⟩ store .slot1 named
      have y := Instruction.occupied_eq ⟨.bne, [first, second, label]⟩ store .slot2 named'
      have target := Instruction.targetOf_eq ⟨.bne, [first, second, label]⟩ program .label rfl
      rw [wellFormed.target?_eq] at target
      simp only [Instruction.effect, Decoded.effect, x, y, target]
      cases store.get left <;> cases store.get right <;> cases program.labels.get? label <;> rfl

/-- A decoded action fails for an empty slot, or for a label that it has no target for. -/
theorem Decoded.effect_eq_error {store : Store} {pc : Nat} {action : Action Value}
    {error : StepError} (failed : effect store pc action = .error error) :
    (∃ operand slot, error = .emptySlot operand slot) ∨
      ∃ left right label, action = .branch left right label none ∧
        error = .undefinedLabel label := by
  cases action with
  | add source target =>
      simp only [effect] at failed
      split at failed <;> cases failed
      · exact .inl ⟨_, _, rfl⟩
      · exact .inl ⟨_, _, rfl⟩
  | sub source target =>
      simp only [effect] at failed
      split at failed <;> cases failed
      · exact .inl ⟨_, _, rfl⟩
      · exact .inl ⟨_, _, rfl⟩
  | store value target => cases failed
  | branch left right label target =>
      simp only [effect] at failed
      split at failed <;> cases failed
      · exact .inl ⟨_, _, rfl⟩
      · exact .inl ⟨_, _, rfl⟩
      · exact .inr ⟨_, _, _, rfl, rfl⟩

/-! ## The two machines -/

/-- A machine that executes a program and one that executes its actions, at the same index with the
same slots. An error that the first one keeps has no counterpart in the second. -/
inductive InStep (program : Program) (actions : List (Action Value)) :
    Machine → Decoded.Machine → Prop
  | intro (store : Store) (pc : Nat) (error : Option StepError) :
      InStep program actions (.loaded ⟨program, store, pc, error⟩) ⟨actions, store, pc⟩

namespace Decoded.Machine

/-- What makes a step of a decoded machine fail. -/
theorem step_eq_error {machine : Machine} {error : StepError}
    (failed : machine.step.1 = .error error) :
    error = .finished ∨
      ∃ action, machine.actions[machine.pc]? = some action ∧
        effect machine.store machine.pc action = .error error := by
  unfold step at failed
  split at failed
  · cases failed
    exact .inl rfl
  · next action current =>
    split at failed
    · next outcome =>
      cases failed
      exact .inr ⟨action, current, outcome⟩
    · cases failed

end Decoded.Machine

section Lockstep

variable {program : Program} {actions : List (Action Value)} {raw : Machine}
  {typed : Decoded.Machine}

theorem InStep.pc_eq (inStep : InStep program actions raw typed) : raw.pc = typed.pc := by
  cases inStep
  rfl

theorem InStep.store_eq (inStep : InStep program actions raw typed) :
    raw.store = typed.store := by
  cases inStep
  rfl

/-- The two machines make the same step. -/
theorem InStep.step (inStep : InStep program actions raw typed)
    (decoded : program.actions? Value.ofText? = some actions) (wellFormed : program.WellFormed) :
    raw.step.1 = typed.step.1 ∧ InStep program actions raw.step.2 typed.step.2 := by
  cases inStep with
  | intro store pc error =>
      rcases Program.getElem?_actions decoded pc with
        ⟨ended, noAction⟩ | ⟨instruction, action, current, stands, decodes⟩
      · have finished : Session.current? ⟨program, store, pc, error⟩ = none := ended
        rw [Machine.step_finished finished]
        simp only [Decoded.Machine.step, noAction]
        exact ⟨trivial, .intro store pc error⟩
      · have next : Session.current? ⟨program, store, pc, error⟩ = some instruction := current
        have same := decodes.effect_eq wellFormed store pc
        cases outcome : Decoded.effect store pc action with
        | error cause =>
            rw [outcome] at same
            rw [Machine.step_failed next same]
            simp only [Decoded.Machine.step, stands, outcome]
            exact ⟨trivial, .intro store pc (some cause)⟩
        | ok effect =>
            rw [outcome] at same
            rw [Machine.step_executed next same]
            simp only [Decoded.Machine.step, stands, outcome]
            exact ⟨trivial, .intro (effect.apply store) effect.next none⟩

/-- Two machines that are in step stay so. -/
theorem InStep.afterSteps (inStep : InStep program actions raw typed)
    (decoded : program.actions? Value.ofText? = some actions) (wellFormed : program.WellFormed)
    (n : Nat) : InStep program actions (raw.afterSteps n) (typed.afterSteps n) := by
  induction n generalizing raw typed with
  | zero => exact inStep
  | succ n ih => exact ih (inStep.step decoded wellFormed).2

/-- Execution comes to the end, or fails for an empty slot or a label that is not declared. -/
theorem InStep.step_eq_error (inStep : InStep program actions raw typed)
    (decoded : program.actions? Value.ofText? = some actions) (wellFormed : program.WellFormed)
    {error : StepError} (failed : raw.step.1 = .error error) :
    error = .finished ∨ (∃ operand slot, error = .emptySlot operand slot) ∨
      ∃ label, error = .undefinedLabel label ∧ program.labels.get? label = none := by
  rw [(inStep.step decoded wellFormed).1] at failed
  cases inStep with
  | intro store pc kept =>
      rcases Decoded.Machine.step_eq_error failed with finished | ⟨action, current, failed⟩
      · exact .inl finished
      rcases Decoded.effect_eq_error failed with empty | ⟨left, right, label, branch, undefined⟩
      · exact .inr (.inl empty)
      rcases Program.getElem?_actions decoded pc with
        ⟨-, noAction⟩ | ⟨instruction, other, -, stands, decodes⟩
      · rw [noAction] at current
        cases current
      · obtain rfl : other = action := Option.some.inj (stands.symm.trans current)
        exact .inr (.inr ⟨label, undefined, (decodes.target_eq branch).symm⟩)

end Lockstep

/-- A program that was read from a text is executed as its actions are: with the same slots, at the
same index and with the same results. No token turns out to be malformed, and no branch misses a
label that a line of the text declares. -/
theorem parse_lockstep {text : String} {program : Program} (parsed : parse text = .ok program) :
    ∃ actions, program.actions? Value.ofText? = some actions ∧ ∀ n,
      let raw := (Machine.ofProgram program).afterSteps n
      let typed := (Decoded.Machine.start actions).afterSteps n
      raw.pc = typed.pc ∧ raw.store = typed.store ∧ raw.step.1 = typed.step.1 ∧
        (∀ operation operand token,
          raw.step.1 ≠ .error (.malformedOperand operation operand token)) ∧
        ∀ label, raw.step.1 = .error (.undefinedLabel label) →
          ∀ line ∈ Text.lines text.toList, ¬ Grammar.Declares line label.toList := by
  have wellFormed := Program.wellFormed_of_parse parsed
  obtain ⟨actions, decoded⟩ :=
    wellFormed.exists_actions fun token => checkNumber_eq_ok_iff_ofText?.mp
  refine ⟨actions, decoded, fun n => ?_⟩
  have start : InStep program actions (Machine.ofProgram program) (Decoded.Machine.start actions) :=
    .intro ∅ 0 none
  have inStep := start.afterSteps decoded wellFormed n
  refine ⟨inStep.pc_eq, inStep.store_eq, (inStep.step decoded wellFormed).1, ?_, ?_⟩
  · intro operation operand token failed
    rcases inStep.step_eq_error decoded wellFormed failed with
      finished | ⟨_, _, empty⟩ | ⟨_, undefined, -⟩
    · cases finished
    · cases empty
    · cases undefined
  · intro label failed
    rcases inStep.step_eq_error decoded wellFormed failed with
      finished | ⟨_, _, empty⟩ | ⟨_, undefined, undeclared⟩
    · cases finished
    · cases empty
    · cases undefined
      exact (Program.get?_eq_none_iff_of_parse parsed).mp undeclared

/-- The branch after the loop is taken for undeclared although its slots are equal. -/
theorem parse_lockstep_countdown :
    parse countdown = .ok countdownProgram ∧
    ((Machine.ofProgram countdownProgram).afterSteps 6).step.1 =
      .error (.undefinedLabel "nowhere") ∧
    ∀ line ∈ Text.lines countdown.toList, ¬ Grammar.Declares line "nowhere".toList := by
  have failed : ((Machine.ofProgram countdownProgram).afterSteps 6).step.1 =
      .error (.undefinedLabel "nowhere") := by decide
  obtain ⟨actions, -, agree⟩ := parse_lockstep parse_countdown
  obtain ⟨-, -, -, -, undeclared⟩ := agree 6
  exact ⟨parse_countdown, failed, undeclared "nowhere" failed⟩

end SlotAsm
