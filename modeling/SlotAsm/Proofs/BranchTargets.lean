import SlotAsm.Proofs.Sequence

/-!
What execution needs the labels for. A program with the same instructions runs as another one does
when its branches go to the same places, where a label beyond the end counts as undeclared
(`Program.runsAs_of_target?_eq`). So it does not matter whether labels that no branch names are
declared, or labels beyond the end; the text of a program, which leaves the latter out, is read as a
program that runs alike (`Program.runs_by_branch_targets`).
-/

namespace SlotAsm

namespace Program

/-- However many steps two programs make from their starts, they are at the same index and in the
same stage, with the same slots, the same kept error and the same result of the next step. -/
def RunsAs (program other : Program) : Prop :=
  ∀ n,
    let machine := (Machine.ofProgram program).afterSteps n
    let counterpart := (Machine.ofProgram other).afterSteps n
    counterpart.pc = machine.pc ∧ counterpart.store = machine.store ∧
      counterpart.status = machine.status ∧ counterpart.error? = machine.error? ∧
      counterpart.step.1 = machine.step.1

variable {program other : Program}

/-- A program stands in the place of another when it has the same instructions and its branches find
the same targets. -/
theorem standsIn_of_target?_eq (instructions : other.instructions = program.instructions)
    (targets : ∀ label ∈ program.branchLabels, other.target? label = program.target? label) :
    StandsIn program other 0 where
  instructions := by
    intro index given stands
    rw [get?, instructions]
    exact stands
  targets label named := by
    rw [targets label named]
    exact (congrFun Option.map_id _).symm

theorem runsAs_of_target?_eq (instructions : other.instructions = program.instructions)
    (targets : ∀ label ∈ program.branchLabels, other.target? label = program.target? label) :
    program.RunsAs other := by
  intro n
  -- A program in place of another is one that stands in the other at the offset 0.
  have standsIn := standsIn_of_target?_eq instructions targets
  have ends : other.length = program.length + 0 := congrArg List.length instructions
  have starts : Machine.Along program other 0 (.ofProgram program) (.ofProgram other) :=
    .intro ∅ 0 none
  have along := starts.afterSteps standsIn ends n
  exact ⟨along.pc_eq, along.store_eq, along.status_eq ends, along.error?_eq,
    (along.step_of_ends standsIn ends).1⟩

theorem target?_withinEnd (label : String) :
    program.withinEnd.target? label = program.target? label := by
  have kept : program.withinEnd.labels.get? label = program.target? label :=
    program.labels.get?_upTo program.length label
  refine (congrArg (Option.filter (· ≤ program.length)) kept).trans ?_
  apply Option.ext
  intro index
  rw [Option.filter_eq_some_iff]
  exact and_iff_left_of_imp fun found => (Option.filter_eq_some_iff.mp found).2

/-- A label beyond the end counts as undeclared. -/
theorem target?_eq_none_of_beyond {label : String}
    (beyond : ∀ index, program.labels.get? label = some index → program.length < index) :
    program.target? label = none := by
  refine Option.filter_eq_none_iff.mpr fun index declared => ?_
  rw [decide_eq_true_eq]
  exact Nat.not_le.mpr (beyond index declared)

/-- The labels beyond the end are not written, so they may be such as cannot be read. -/
theorem parse_text_eq_withinEnd
    (instructions : ∀ instruction ∈ program.instructions, instruction.WellFormed)
    (labels : ∀ entry ∈ program.labels.toList, entry.2 ≤ program.length →
      checkLabel entry.1 = .ok ()) :
    parse program.text = .ok program.withinEnd := by
  have wellFormed : program.withinEnd.WellFormed := by
    refine ⟨instructions, fun entry member => ?_, fun entry member => ?_⟩
    · obtain ⟨listed, within⟩ := LabelTable.mem_toList_upTo.mp member
      exact labels entry listed within
    · exact (LabelTable.mem_toList_upTo.mp member).2
  rw [← text_withinEnd]
  exact wellFormed.parse_text

/-- A program is executed by its instructions and by the targets of its branches that are not beyond
the end, whatever else its labels are. Labels that no branch names make no difference, and neither
do labels beyond the end, in which the tables may differ. So a program whose tokens are well-formed,
with its labels up to the end, runs as the program that its text is read as. -/
theorem runs_by_branch_targets :
    (∀ program other : Program, other.instructions = program.instructions →
      (∀ label ∈ program.branchLabels,
        (other.labels.get? label).filter (· ≤ program.length) =
          (program.labels.get? label).filter (· ≤ program.length)) →
      program.RunsAs other) ∧
    (∀ (program : Program) (labels : LabelTable),
      (∀ label, labels.get? label ≠ program.labels.get? label → label ∈ program.branchLabels →
        (∀ index, program.labels.get? label = some index → program.length < index) ∧
          ∀ index, labels.get? label = some index → program.length < index) →
      program.RunsAs { program with labels := labels }) ∧
    ∀ program : Program, (∀ instruction ∈ program.instructions, instruction.WellFormed) →
      (∀ entry ∈ program.labels.toList, entry.2 ≤ program.length → checkLabel entry.1 = .ok ()) →
      ∃ again, parse program.text = .ok again ∧ program.RunsAs again := by
  refine ⟨fun program other instructions targets => ?_, fun program labels apart => ?_,
    fun program instructions labels => ?_⟩
  · refine runsAs_of_target?_eq instructions fun label named => ?_
    have lengths : other.length = program.length := congrArg List.length instructions
    rw [target?, target?, lengths, targets label named]
  · refine runsAs_of_target?_eq rfl fun label named => ?_
    by_cases same : labels.get? label = program.labels.get? label
    · exact congrArg (Option.filter (· ≤ program.length)) same
    · obtain ⟨beyond, beyond'⟩ := apart label same named
      exact (target?_eq_none_of_beyond beyond').trans (target?_eq_none_of_beyond beyond).symm
  · exact ⟨program.withinEnd, parse_text_eq_withinEnd instructions labels,
      runsAs_of_target?_eq rfl fun label _ => target?_withinEnd label⟩

/-- A program with a label that is not used, a branch to a label beyond the end, and a label beyond
the end that no source can declare. -/
def looseLabels : Program where
  instructions := [⟨.str, ["1", "A"]⟩, ⟨.str, ["2", "B"]⟩, ⟨.bne, ["A", "B", "far"]⟩]
  labels := .ofList [("start", 0), ("far", 9), ("no name", 12)]

/-- The branch fails in the same way without any labels, with its label at another index beyond the
end, and in the program that the text is read as. -/
theorem runs_by_branch_targets_looseLabels :
    looseLabels.RunsAs { looseLabels with labels := ∅ } ∧
    looseLabels.RunsAs { looseLabels with labels := (∅ : LabelTable).insert "far" 5 } ∧
    ∃ again, parse looseLabels.text = .ok again ∧
      ((Machine.ofProgram again).afterSteps 3).status = .halted ∧
      ((Machine.ofProgram again).afterSteps 3).error? = some (.undefinedLabel "far") := by
  obtain ⟨byTargets, byTable, byText⟩ := runs_by_branch_targets
  obtain ⟨again, parsed, runs⟩ := byText looseLabels (by decide) (by decide)
  obtain ⟨-, -, stage, kept, -⟩ := runs 3
  refine ⟨byTargets looseLabels _ rfl (by decide), byTable looseLabels _ fun label _ named => ?_,
    again, parsed, stage.trans (by decide), kept.trans (by decide)⟩
  obtain rfl : label = "far" := List.mem_singleton.mp named
  have far : looseLabels.labels.get? "far" = some 9 := by decide
  have nearer : ((∅ : LabelTable).insert "far" 5).get? "far" = some 5 := by decide
  refine ⟨fun index found => ?_, fun index found => ?_⟩
  · cases far.symm.trans found
    decide
  · cases nearer.symm.trans found
    decide

end Program

end SlotAsm
