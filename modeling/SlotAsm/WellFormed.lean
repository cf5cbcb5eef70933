import SlotAsm.Program

/-!
The programs that can be written down and read back. An instruction is well-formed when it has one
token for each operand and every token passes the check for its operand; a program is well-formed
when its instructions are, its labels pass the check for labels, and no label is mapped beyond the
end. `Program.withinEnd` drops the labels that are.
-/

namespace SlotAsm

/-- Each operand has one token, which is not empty and passes the check for the operand. -/
structure Instruction.WellFormed (instruction : Instruction) : Prop where
  arity : instruction.tokens.length = instruction.operation.arity
  checked : ∀ pair ∈ instruction.operands, pair.1.kind.check pair.2 = .ok ()
  nonempty : ∀ token ∈ instruction.tokens, token ≠ ""

namespace LabelTable

/-- The labels that are mapped to at most the given index. -/
def upTo (table : LabelTable) (bound : Nat) : LabelTable :=
  ⟨table.entries.filter fun entry => entry.2 ≤ bound, table.ascending.filter _⟩

/-- A label is kept when it is mapped to at most the bound. -/
theorem mem_toList_upTo {table : LabelTable} {bound : Nat} {entry : String × Nat} :
    entry ∈ (table.upTo bound).toList ↔ entry ∈ table.toList ∧ entry.2 ≤ bound := by
  simp [upTo, toList]

end LabelTable

namespace Program

/-- All instructions are well-formed, all labels can be declared and none lies beyond the end. -/
structure WellFormed (program : Program) : Prop where
  instructions : ∀ instruction ∈ program.instructions, instruction.WellFormed
  labels : ∀ entry ∈ program.labels.toList, checkLabel entry.1 = .ok ()
  withinEnd : ∀ entry ∈ program.labels.toList, entry.2 ≤ program.length

/-- The program without the labels that are mapped beyond its end. -/
def withinEnd (program : Program) : Program :=
  { program with labels := program.labels.upTo program.length }

end Program

end SlotAsm
