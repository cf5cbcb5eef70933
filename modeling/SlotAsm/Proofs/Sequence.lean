import SlotAsm.Proofs.Concatenation
import SlotAsm.Proofs.Lifecycle
import SlotAsm.Proofs.RoundTrip

/-!
A program that runs inside a longer one. `Program.StandsIn` says that the instructions of a program
stand in another one some places later, and that its branches go the same way there; an instruction
then has the same effect in both, with the places apart (`StandsIn.effect_eq`). A step of the one
machine is a step of the other as long as it stays inside, so in a text of two parts the first part
runs as it does alone, and then the second one does (`parse_append_runs_in_sequence`).
-/

namespace SlotAsm

open Text (Terminated)

/-! ## A program inside another -/

/-- The label that a branch goes to. -/
def Instruction.branchLabel? (given : Instruction) : Option String :=
  if given.operation = .bne then given.token? Operand.label.position else none

/-- The labels that the branches of a program go to. -/
def Program.branchLabels (program : Program) : List String :=
  program.instructions.filterMap Instruction.branchLabel?

/-- The effect of an instruction that stands some places later. -/
def Effect.shift (offset : Nat) (effect : Effect) : Effect :=
  { effect with next := effect.next + offset }

namespace Program

/-- The instructions of `part` stand in `whole`, `offset` places later, and so do the targets of its
branches. -/
structure StandsIn (part whole : Program) (offset : Nat) : Prop where
  instructions : ∀ {index : Nat} {instruction : Instruction},
    part.get? index = some instruction → whole.get? (index + offset) = some instruction
  targets : ∀ label ∈ part.branchLabels,
    whole.target? label = (part.target? label).map (· + offset)

namespace StandsIn

variable {part whole : Program} {offset : Nat} {instruction : Instruction}

theorem targetOf_eq (standsIn : StandsIn part whole offset)
    (member : instruction ∈ part.instructions) (branch : instruction.operation = .bne) :
    instruction.targetOf whole .label =
      (instruction.targetOf part .label).map (· + offset) := by
  unfold Instruction.targetOf
  cases given : instruction.token? Operand.label.position with
  | none => rfl
  | some label =>
    have named : instruction.branchLabel? = some label := by
      rw [Instruction.branchLabel?, if_pos branch, given]
    have target := standsIn.targets label (List.mem_filterMap.mpr ⟨instruction, member, named⟩)
    simp only [target]
    cases part.target? label <;> rfl

/-- An instruction does the same in both programs, and goes on the same places apart. -/
theorem effect_eq (standsIn : StandsIn part whole offset)
    (member : instruction ∈ part.instructions) (store : Store) (pc : Nat) :
    instruction.effect whole store (pc + offset) =
      (instruction.effect part store pc).map (Effect.shift offset) := by
  have next : pc + offset + 1 = pc + 1 + offset := Nat.add_right_comm pc offset 1
  unfold Instruction.effect
  rw [next]
  cases operation : instruction.operation with
  | add =>
    simp only [map_bind]
    rfl
  | sub =>
    simp only [map_bind]
    rfl
  | str =>
    simp only [map_bind]
    rfl
  | bne =>
    simp only [map_bind, standsIn.targetOf_eq member operation]
    refine bind_congr fun first => bind_congr fun second => ?_
    cases instruction.targetOf part .label with
    | error error => rfl
    | ok target =>
      have place := apply_ite (· + offset) (first.2 = second.2) (pc + 1) target
      exact congrArg (fun next => Except.ok (Effect.mk none next)) place.symm

end StandsIn

/-- The first of two joined programs, when its branches go to no label of the second. -/
theorem Joins.front_standsIn {front back whole : Program} (joins : Joins front back whole)
    (wellFormed : front.WellFormed)
    (apart : ∀ label ∈ front.branchLabels, back.labels.get? label = none) :
    StandsIn front whole 0 where
  instructions := by
    intro index instruction stands
    rw [get?, joins.instructions, Nat.add_zero,
      List.getElem?_append_left (Program.get?_eq_some_lt stands)]
    exact stands
  targets label named := by
    have declared := joins.labels label
    rw [apart label named, Option.map_none, Option.none_or] at declared
    rw [target?, target?, declared, joins.length_eq]
    cases found : front.labels.get? label with
    | none => rfl
    | some index =>
      have within := wellFormed.get?_le found
      simp [Option.filter, within, Nat.le_add_left_of_le within]

/-- The second of two joined programs, when its branches go to no label that only the first has. -/
theorem Joins.back_standsIn {front back whole : Program} (joins : Joins front back whole)
    (apart : ∀ label ∈ back.branchLabels,
      back.labels.get? label = none → front.labels.get? label = none) :
    StandsIn back whole front.length where
  instructions := by
    intro index instruction stands
    have place : index + front.length = front.instructions.length + index := Nat.add_comm _ _
    rw [get?, joins.instructions, place, List.getElem?_append_right (Nat.le_add_right _ _),
      Nat.add_sub_cancel_left]
    exact stands
  targets label named := by
    have declared := joins.labels label
    rw [target?, target?, declared, joins.length_eq]
    cases found : back.labels.get? label with
    | none => simp [apart label named found]
    | some index => simp [Option.filter]

end Program

/-! ## Two machines -/

namespace Machine

/-- The two machines execute instructions that all succeed, at the same places with the same slots.
-/
def AgreeFor (n : Nat) (inner outer : Machine) : Prop :=
  ∀ count ≤ n, ∃ earlier further, inner.after count = .ok earlier ∧
    outer.after count = .ok further ∧ further.pc = earlier.pc ∧ further.store = earlier.store

/-- A machine that executes `part`, and one that executes `whole` at the same place of it with the
same slots. -/
inductive Along (part whole : Program) (offset : Nat) : Machine → Machine → Prop
  | intro (store : Store) (pc : Nat) (error : Option StepError) :
    Along part whole offset (loaded ⟨part, store, pc, error⟩)
      (loaded ⟨whole, store, pc + offset, error⟩)

namespace Along

variable {part whole : Program} {offset : Nat} {inner outer : Machine}

theorem pc_eq (along : Along part whole offset inner outer) : outer.pc = inner.pc + offset := by
  cases along
  rfl

theorem store_eq (along : Along part whole offset inner outer) : outer.store = inner.store := by
  cases along
  rfl

theorem error?_eq (along : Along part whole offset inner outer) : outer.error? = inner.error? := by
  cases along
  rfl

/-- The two machines make the same step while there is an instruction in `part`. -/
theorem step (along : Along part whole offset inner outer)
    (standsIn : part.StandsIn whole offset) (inside : inner.current? ≠ none) :
    outer.step.1 = inner.step.1 ∧ Along part whole offset inner.step.2 outer.step.2 := by
  cases along with
  | intro store pc error =>
    obtain ⟨instruction, current⟩ := Option.ne_none_iff_exists'.mp inside
    have currentInner : Session.current? ⟨part, store, pc, error⟩ = some instruction := current
    have currentOuter : Session.current? ⟨whole, store, pc + offset, error⟩ = some instruction :=
      standsIn.instructions current
    have same := standsIn.effect_eq (List.mem_of_getElem? current) store pc
    cases outcome : instruction.effect part store pc with
    | error cause =>
      rw [outcome] at same
      rw [step_failed currentInner outcome, step_failed currentOuter same]
      exact ⟨rfl, .intro store pc (some cause)⟩
    | ok effect =>
      rw [outcome] at same
      rw [step_executed currentInner outcome, step_executed currentOuter same]
      exact ⟨rfl, .intro (effect.apply store) effect.next none⟩

theorem current?_ne_none (along : Along part whole offset inner outer)
    (running : inner.status ≠ .complete) : inner.current? ≠ none := by
  cases along with
  | intro store pc error =>
    intro ended
    exact running (status_eq_complete_iff.mpr (current?_eq_none_iff.mp ended))

theorem current?_outer (along : Along part whole offset inner outer)
    (standsIn : part.StandsIn whole offset) (inside : inner.current? ≠ none) :
    outer.current? ≠ none := by
  cases along with
  | intro store pc error =>
    obtain ⟨instruction, current⟩ := Option.ne_none_iff_exists'.mp inside
    exact Option.ne_none_iff_exists'.mpr ⟨instruction, standsIn.instructions current⟩

/-- Instructions that succeed in `part` succeed in `whole`. -/
theorem after (along : Along part whole offset inner outer)
    (standsIn : part.StandsIn whole offset) {n : Nat} {reached : Machine}
    (ran : inner.after n = .ok reached) :
    ∃ further, outer.after n = .ok further ∧ Along part whole offset reached further := by
  induction n generalizing inner outer with
  | zero =>
    cases ran
    exact ⟨outer, rfl, along⟩
  | succ n ih =>
    obtain ⟨succeeded, ran⟩ := after_succ_eq_ok_iff.mp ran
    obtain ⟨same, along⟩ := along.step standsIn (current?_ne_none_of_step_eq_ok succeeded)
    obtain ⟨further, ran, along⟩ := ih along ran
    exact ⟨further, after_succ_eq_ok_iff.mpr ⟨same.trans succeeded, ran⟩, along⟩

/-- The machines agree as long as instructions succeed in `part`, when it stands at the front. -/
theorem agreeFor (along : Along part whole 0 inner outer) (standsIn : part.StandsIn whole 0)
    {n : Nat} {reached : Machine} (ran : inner.after n = .ok reached) : AgreeFor n inner outer := by
  intro count le
  obtain ⟨earlier, ran⟩ := exists_after_of_le ran le
  obtain ⟨further, ran', along⟩ := along.after standsIn ran
  exact ⟨earlier, further, ran, ran', along.pc_eq, along.store_eq⟩

/-- When `whole` ends where `part` does, the two machines make the same step at the end too. -/
theorem step_of_ends (along : Along part whole offset inner outer)
    (standsIn : part.StandsIn whole offset) (ends : whole.length = part.length + offset) :
    outer.step.1 = inner.step.1 ∧ Along part whole offset inner.step.2 outer.step.2 := by
  by_cases inside : inner.current? = none
  · cases along with
    | intro store pc error =>
      have endInner : Session.current? ⟨part, store, pc, error⟩ = none := inside
      have beyond : part.length ≤ pc := current?_eq_none_iff.mp inside
      have endOuter : Session.current? ⟨whole, store, pc + offset, error⟩ = none :=
        List.getElem?_eq_none_iff.mpr (ends.trans_le (Nat.add_le_add_right beyond offset))
      rw [step_finished endInner, step_finished endOuter]
      exact ⟨rfl, .intro store pc error⟩
  · exact along.step standsIn inside

theorem afterSteps (along : Along part whole offset inner outer)
    (standsIn : part.StandsIn whole offset) (ends : whole.length = part.length + offset) (n : Nat) :
    Along part whole offset (inner.afterSteps n) (outer.afterSteps n) := by
  induction n generalizing inner outer with
  | zero => exact along
  | succ n ih => exact ih (along.step_of_ends standsIn ends).2

theorem status_eq (along : Along part whole offset inner outer)
    (ends : whole.length = part.length + offset) : outer.status = inner.status := by
  cases along with
  | intro store pc error =>
    have ended : whole.length ≤ pc + offset ↔ part.length ≤ pc := by omega
    simp only [status_loaded, ended]

/-- A machine that has come to the end of `part` has no error, and the other one stands behind the
last instruction of `part`. -/
theorem of_complete (along : Along part whole offset inner outer) (placed : Placed inner)
    (complete : inner.status = .complete) :
    inner.pc = part.length ∧ outer = loaded ⟨whole, inner.store, part.length + offset, none⟩ := by
  cases along with
  | intro store pc error =>
    have beyond : part.length ≤ pc := status_eq_complete_iff.mp complete
    have place : pc = part.length := Nat.le_antisymm placed.pc_le beyond
    cases error with
    | none => exact ⟨place, by rw [place]; rfl⟩
    | some error => exact absurd (placed.pc_lt_of_error rfl) (Nat.not_lt.mpr beyond)

/-- An instruction of `part` that fails halts both machines. -/
theorem step_eq_error (along : Along part whole offset inner outer)
    (standsIn : part.StandsIn whole offset) (running : inner.status ≠ .complete)
    {error : StepError} (failed : inner.step.1 = .error error) :
    outer.step.1 = .error error ∧ outer.step.2.pc = outer.pc ∧ outer.step.2.status = .halted := by
  have inside := along.current?_ne_none running
  obtain ⟨same, -⟩ := along.step standsIn inside
  have failedOuter := same.trans failed
  exact ⟨failedOuter, halted_of_step_eq_error (along.current?_outer standsIn inside) failedOuter⟩

end Along

end Machine

open Machine in
/-- A text of two parts runs one part after the other, provided that no branch of the first part
names a label of the second, and no branch of the second a label that only the first has. The first
part's instructions succeed and fail as they do alone; where it comes to its end, the second part
goes on with what the slots hold, as it does alone but for its place. -/
theorem parse_append_runs_in_sequence {text more : String} {front back : Program}
    (terminated : Terminated text.toList) (parsed : parse text = .ok front)
    (parsedMore : parse more = .ok back)
    (apart : ∀ label ∈ front.branchLabels, back.labels.get? label = none)
    (apartMore : ∀ label ∈ back.branchLabels,
      back.labels.get? label = none → front.labels.get? label = none) :
    ∃ whole, parse (text ++ more) = .ok whole ∧
      (∀ n reached, (ofProgram front).after n = .ok reached → reached.status = .complete →
        AgreeFor n (ofProgram front) (ofProgram whole) ∧
        ∃ further, (ofProgram whole).after n = .ok further ∧
          further.pc = front.length ∧ further.store = reached.store ∧
          ∀ k,
            let inner := (loaded { Session.start back with store := reached.store }).afterSteps k
            let outer := further.afterSteps k
            outer.step.1 = inner.step.1 ∧ outer.error? = inner.error? ∧
              outer.store = inner.store ∧ outer.pc = inner.pc + front.length ∧
              outer.status = inner.status) ∧
      ∀ n reached error, (ofProgram front).after n = .ok reached → reached.status ≠ .complete →
        reached.step.1 = .error error →
        AgreeFor n (ofProgram front) (ofProgram whole) ∧
        ∃ further, (ofProgram whole).after n = .ok further ∧
          further.step.1 = .error error ∧ further.step.2.pc = reached.pc ∧
          further.step.2.status = .halted := by
  obtain ⟨whole, parsedWhole, joins⟩ := Program.joins_of_parse terminated parsed parsedMore
  have frontStands := joins.front_standsIn (Program.wellFormed_of_parse parsed) apart
  have backStands := joins.back_standsIn apartMore
  have start : Along front whole 0 (ofProgram front) (ofProgram whole) := .intro ∅ 0 none
  refine ⟨whole, parsedWhole,
    fun n reached ran complete => ⟨start.agreeFor frontStands ran, ?_⟩,
    fun n reached error ran running failed => ⟨start.agreeFor frontStands ran, ?_⟩⟩
  · obtain ⟨further, ran', along⟩ := start.after frontStands ran
    obtain ⟨-, rfl⟩ := along.of_complete ((placed_ofProgram front).after ran) complete
    refine ⟨_, ran', rfl, rfl, fun k => ?_⟩
    have resumed : Along back whole front.length
        (loaded { Session.start back with store := reached.store })
        (loaded ⟨whole, reached.store, 0 + front.length, none⟩) := .intro reached.store 0 none
    rw [Nat.zero_add] at resumed
    have later := resumed.afterSteps backStands joins.length_eq k
    exact ⟨(later.step_of_ends backStands joins.length_eq).1, later.error?_eq, later.store_eq,
      later.pc_eq, later.status_eq joins.length_eq⟩
  · obtain ⟨further, ran', along⟩ := start.after frontStands ran
    obtain ⟨failed, place, halted⟩ := along.step_eq_error frontStands running failed
    exact ⟨further, ran', failed, place.trans along.pc_eq, halted⟩

/-- A program that leaves before its last instruction. -/
def leaveEarly : Program where
  instructions := [⟨.str, ["1", "A"]⟩, ⟨.str, ["2", "B"]⟩, ⟨.bne, ["A", "B", "end"]⟩,
    ⟨.str, ["9", "C"]⟩]
  labels := (∅ : LabelTable).insert "end" 4

theorem parse_leaveEarly : parse leaveEarly.text = .ok leaveEarly :=
  Program.WellFormed.parse_text ⟨by decide, by decide, by decide⟩

/-- The early end of the first program becomes the start of the second, which fails where it fails
alone, and which fails before the first program when it stands in front. -/
theorem parse_append_runs_in_sequence_leaveEarly :
    (∃ whole, parse (leaveEarly.text ++ countdown) = .ok whole ∧
      ∃ further, (Machine.ofProgram whole).after 3 = .ok further ∧ further.pc = 4 ∧
        (further.afterSteps 6).pc = 8 ∧
        (further.afterSteps 6).step.1 = .error (.undefinedLabel "nowhere")) ∧
    ∃ whole, parse (countdown ++ leaveEarly.text) = .ok whole ∧
      ∃ further, (Machine.ofProgram whole).after 6 = .ok further ∧
        further.step.1 = .error (.undefinedLabel "nowhere") ∧ further.step.2.status = .halted := by
  obtain ⟨whole, parsed, completes, -⟩ := parse_append_runs_in_sequence (by decide)
    parse_leaveEarly parse_countdown (by decide) (by decide)
  let left : Machine := .loaded ⟨leaveEarly, (Store.empty.set .a 1).set .b 2, 4, none⟩
  obtain ⟨-, further, ran, place, -, later⟩ := completes 3 left (by decide) (by decide)
  obtain ⟨failed, -, -, laterPlace, -⟩ := later 6
  obtain ⟨whole', parsed', -, fails⟩ := parse_append_runs_in_sequence (by decide)
    parse_countdown parse_leaveEarly (by decide) (by decide)
  let counted : Machine := .loaded ⟨countdownProgram, (Store.empty.set .a 1).set .b 1, 4, none⟩
  obtain ⟨-, further', ran', failed', -, halted⟩ :=
    fails 6 counted (.undefinedLabel "nowhere") (by decide) (by decide) (by decide)
  exact ⟨⟨whole, parsed, further, ran, place, laterPlace.trans (by decide),
    failed.trans (by decide)⟩, whole', parsed', further', ran', failed', halted⟩

end SlotAsm
