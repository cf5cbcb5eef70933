import Mathlib.Logic.Equiv.Basic
import SlotAsm.Proofs.Sequence
import SlotAsm.Proofs.SideBySide
import SlotAsm.Renaming

/-!
Names mean nothing by themselves. An instruction of a renamed program reads from renamed slots what
it read before, and fails with the renamed error (`Instruction.effect_rename`), provided that labels
with different names keep different names. So a program and a renamed one are executed side by side
(`Program.rename_runs_alike`), even where a label takes the name of a slot or of a number.
-/

namespace SlotAsm

variable {names : Renaming}

/-! ## Labels -/

/-- The labels that a program uses or declares. -/
def Program.labelNames (program : Program) : List String :=
  program.branchLabels ++ program.labels.toList.map (·.1)

/-- Labels of the program that have different names keep different names. -/
def Renaming.Separates (names : Renaming) (program : Program) : Prop :=
  ∀ label ∈ program.labelNames, ∀ other ∈ program.labelNames,
    names.label label = names.label other → label = other

/-- A label is mapped by its new name to what it was mapped to, unless another label has taken the
same name. -/
theorem LabelTable.get?_rename {table : LabelTable} {label : String}
    (distinct : ∀ entry ∈ table.toList, names.label label = names.label entry.1 → label = entry.1) :
    (table.rename names).get? (names.label label) = table.get? label := by
  unfold rename get?
  unfold toList at distinct ⊢
  generalize table.entries = entries at distinct ⊢
  induction entries with
  | nil => rfl
  | cons entry entries ih =>
    obtain ⟨here, later⟩ := List.forall_mem_cons.mp distinct
    rw [List.foldr_cons]
    -- The first entry counts before and after, since only an entry of the label has its new name.
    refine (get?_insert _ _ _ _).trans ?_
    by_cases same : label = entry.1
    · rw [if_pos (congrArg names.label same), same, List.lookup_cons_self]
    · rw [if_neg (mt here same), lookup_cons_of_ne same]
      exact ih later

namespace Program

variable {program : Program}

@[simp] theorem length_rename : (program.rename names).length = program.length :=
  List.length_map _

theorem get?_rename (index : Nat) :
    (program.rename names).get? index = (program.get? index).map (Instruction.rename names) :=
  List.getElem?_map

theorem target?_rename (separates : names.Separates program) {label : String}
    (used : label ∈ program.branchLabels) :
    (program.rename names).target? (names.label label) = program.target? label := by
  have found : (program.rename names).labels.get? (names.label label) = program.labels.get? label :=
    LabelTable.get?_rename fun entry member => separates label (List.mem_append_left _ used) entry.1
      (List.mem_append_right _ (List.mem_map_of_mem member))
  rw [target?, target?, found, length_rename]

end Program

/-! ## Instructions -/

/-- Slots of the second store hold what the slots that they take the place of hold in the first. -/
def Renaming.comparison (names : Renaming) : Comparison where
  related store store' := ∀ slot, store'.get (names.slot slot) = store.get slot
  translate := StepError.rename names
  translate_finished := rfl

theorem Renaming.related_set {store store' : Store}
    (related : names.comparison.related store store') (target : Slot) (value : Value) :
    names.comparison.related (store.set target value) (store'.set (names.slot target) value) := by
  intro slot
  rw [Store.get_set, Store.get_set, related slot]
  simp only [EmbeddingLike.apply_eq_iff_eq]

namespace Instruction

variable {given : Instruction} {program : Program} {operand : Operand}

theorem token?_rename (names : Renaming) (takes : operand ∈ given.operation.operands) :
    (given.rename names).token? operand.position =
      (given.token? operand.position).map (names.token operand.kind) := by
  have place := Operation.operands_getElem?_position takes
  simp only [token?, rename, List.getElem?_mapIdx, place]

/-- A token that names no slot stays as it is, and so does the error for it. -/
theorem slotOf_rename (names : Renaming) (takes : operand ∈ given.operation.operands)
    (isSlot : operand.kind = .slot) :
    Corresponds (StepError.rename names) (fun slot slot' => slot' = names.slot slot)
      (given.slotOf operand) ((given.rename names).slotOf operand) := by
  have renamed := token?_rename names takes
  rw [isSlot] at renamed
  unfold slotOf malformed
  rw [renamed]
  cases given.token? operand.position with
  | none => exact .error (.malformedOperand given.operation operand "")
  | some token =>
    cases named : Slot.ofName? token with
    | none =>
      have stays : names.token .slot token = token := by simp only [Renaming.token, named]
      simp only [Option.map_some, Option.bind_some, stays, named]
      exact .error (.malformedOperand given.operation operand token)
    | some slot =>
      have taken : names.token .slot token = (names.slot slot).name := by
        simp only [Renaming.token, named]
      simp only [Option.map_some, Option.bind_some, taken, named, Slot.ofName?_name]
      exact .ok rfl

theorem occupied_rename (takes : operand ∈ given.operation.operands) (isSlot : operand.kind = .slot)
    {store store' : Store} (related : names.comparison.related store store') :
    Corresponds (StepError.rename names) (fun held held' => held' = (names.slot held.1, held.2))
      (given.occupied store operand) ((given.rename names).occupied store' operand) := by
  have slots := slotOf_rename names takes isSlot
  unfold occupied
  generalize given.slotOf operand = result at slots ⊢
  generalize (given.rename names).slotOf operand = result' at slots ⊢
  cases slots with
  | error error => exact .error error
  | @ok slot _ same =>
    subst same
    simp only [related slot]
    cases store.get slot with
    | none => exact .error (.emptySlot operand slot)
    | some value => exact .ok rfl

theorem numberOf_rename (takes : operand ∈ given.operation.operands)
    (isNumber : operand.kind = .number) :
    Corresponds (StepError.rename names) Eq (given.numberOf operand)
      ((given.rename names).numberOf operand) := by
  have renamed := token?_rename names takes
  rw [isNumber] at renamed
  have stays : (given.rename names).token? operand.position = given.token? operand.position :=
    renamed.trans (congrFun Option.map_id _)
  unfold numberOf malformed
  rw [stays]
  cases (given.token? operand.position).bind Value.ofText? with
  | none => exact .error (.malformedOperand given.operation operand _)
  | some value => exact .ok rfl

theorem targetOf_rename (separates : names.Separates program)
    (member : given ∈ program.instructions) (branch : given.operation = .bne) :
    Corresponds (StepError.rename names) Eq (given.targetOf program .label)
      ((given.rename names).targetOf (program.rename names) .label) := by
  have takes : Operand.label ∈ given.operation.operands := by
    rw [branch]
    decide
  have renamed := token?_rename names takes
  unfold targetOf malformed
  rw [renamed]
  cases named : given.token? Operand.label.position with
  | none => exact .error (.malformedOperand given.operation .label "")
  | some label =>
    have used : label ∈ program.branchLabels := by
      refine List.mem_filterMap.mpr ⟨given, member, ?_⟩
      rw [branchLabel?, if_pos branch, named]
    have target := Program.target?_rename separates used
    have taken : names.token Operand.label.kind label = names.label label := rfl
    simp only [Option.map_some, taken, target]
    cases program.target? label with
    | none => exact .error (.undefinedLabel label)
    | some index => exact .ok rfl

/-- An instruction of a renamed program does to the renamed slots what it did before. -/
theorem effect_rename (separates : names.Separates program) (member : given ∈ program.instructions)
    {store store' : Store} (related : names.comparison.related store store') (pc : Nat) :
    Corresponds (StepError.rename names) (names.comparison.Effects store store')
      (given.effect program store pc)
      ((given.rename names).effect (program.rename names) store' pc) := by
  have same : (given.rename names).operation = given.operation := rfl
  unfold effect
  rw [same]
  cases operation : given.operation with
  | add =>
    refine (occupied_rename (by rw [operation]; decide) rfl related).bind ?_
    rintro ⟨source, addend⟩ _ rfl
    refine (occupied_rename (by rw [operation]; decide) rfl related).bind ?_
    rintro ⟨target, value⟩ _ rfl
    exact .ok ⟨rfl, Renaming.related_set related target _⟩
  | sub =>
    refine (occupied_rename (by rw [operation]; decide) rfl related).bind ?_
    rintro ⟨source, subtrahend⟩ _ rfl
    refine (occupied_rename (by rw [operation]; decide) rfl related).bind ?_
    rintro ⟨target, value⟩ _ rfl
    exact .ok ⟨rfl, Renaming.related_set related target _⟩
  | str =>
    refine (numberOf_rename (by rw [operation]; decide) rfl).bind ?_
    rintro number _ rfl
    refine (slotOf_rename names (by rw [operation]; decide) rfl).bind ?_
    rintro target _ rfl
    exact .ok ⟨rfl, Renaming.related_set related target _⟩
  | bne =>
    refine (occupied_rename (by rw [operation]; decide) rfl related).bind ?_
    rintro ⟨first, left⟩ _ rfl
    refine (occupied_rename (by rw [operation]; decide) rfl related).bind ?_
    rintro ⟨second, right⟩ _ rfl
    refine (targetOf_rename separates member operation).bind ?_
    rintro index _ rfl
    exact .ok ⟨rfl, related⟩

end Instruction

/-! ## Programs -/

theorem Program.mirrors_rename {program : Program} (separates : names.Separates program) :
    names.comparison.Mirrors program (program.rename names) where
  length_eq := length_rename
  counterpart := by
    intro index given stands
    refine ⟨given.rename names, by rw [get?_rename, stands, Option.map_some], fun related => ?_⟩
    exact Instruction.effect_rename separates (List.mem_of_getElem? stands) related index

/-- A program does the same under other names. The slots may be exchanged in any way, and the labels
may take any names as long as different ones stay different. However many steps the two programs
make, they are at the same index and in the same stage, a slot holds what the slot that it takes the
place of holds, and the results are the same but for the names in them. -/
theorem Program.rename_runs_alike (names : Renaming) (program : Program)
    (separates : ∀ label ∈ program.labelNames, ∀ other ∈ program.labelNames,
      names.label label = names.label other → label = other) (n : Nat) :
    let machine := (Machine.ofProgram program).afterSteps n
    let renamed := (Machine.ofProgram (program.rename names)).afterSteps n
    renamed.pc = machine.pc ∧ renamed.status = machine.status ∧
      (∀ slot, renamed.store.get (names.slot slot) = machine.store.get slot) ∧
      renamed.error? = machine.error?.map (StepError.rename names) ∧
      renamed.step.1 = machine.step.1.mapError (StepError.rename names) := by
  have mirrors : names.comparison.Mirrors program (program.rename names) :=
    Program.mirrors_rename separates
  have starts : Machine.SideBySide names.comparison program (program.rename names)
      (.ofProgram program) (.ofProgram (program.rename names)) :=
    .intro 0 none fun slot => by rw [Store.get_empty, Store.get_empty]
  have beside := starts.afterSteps mirrors n
  exact ⟨beside.pc_eq, beside.status_eq mirrors, beside.related, beside.error?_eq,
    (beside.step mirrors).1⟩

/-- Exchanges two slots, and gives one label the name of a slot and another that of a number. -/
def crossNames : Renaming where
  slot := Equiv.swap .a .b
  label label := if label = "loop" then "A" else if label = "nowhere" then "10" else label

/-- The renamed program counts down in the other slot and misses the label `10` where `nowhere` was
missed. -/
theorem Program.rename_runs_alike_countdown :
    (countdownProgram.rename crossNames).instructions = [⟨.str, ["3", "B"]⟩, ⟨.str, ["+1", "A"]⟩,
      ⟨.sub, ["A", "B"]⟩, ⟨.bne, ["B", "A", "A"]⟩, ⟨.bne, ["B", "A", "10"]⟩] ∧
    (countdownProgram.rename crossNames).labels.get? "A" = some 2 ∧
    let renamed := (Machine.ofProgram (countdownProgram.rename crossNames)).afterSteps 6
    renamed.pc = 4 ∧ renamed.status = .ready ∧ renamed.store.get .b = some 1 ∧
      renamed.step.1 = .error (.undefinedLabel "10") := by
  have separates : ∀ label ∈ countdownProgram.labelNames, ∀ other ∈ countdownProgram.labelNames,
      crossNames.label label = crossNames.label other → label = other := by decide
  obtain ⟨place, stage, held, -, result⟩ :=
    Program.rename_runs_alike crossNames countdownProgram separates 6
  exact ⟨by decide, by decide, place.trans (by decide), stage.trans (by decide),
    (held .a).trans (by decide), result.trans (by decide)⟩

end SlotAsm
