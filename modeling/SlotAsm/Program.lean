import SlotAsm.Instruction
import SlotAsm.LabelTable
import SlotAsm.Text.Lines
import SlotAsm.Token

/-!
A program: its instructions in order and its labels. `Program.text` writes a program as source text,
every label on a line of its own before the instruction that it names.
-/

namespace SlotAsm

/-- Instructions and the labels that name them. A label that is mapped to the number of instructions
names the end of the program. -/
structure Program where
  instructions : List Instruction
  labels : LabelTable
  deriving DecidableEq

namespace Program

/-- The program without instructions and labels. -/
def empty : Program :=
  ⟨[], ∅⟩

instance : EmptyCollection Program := ⟨empty⟩

instance : Inhabited Program := ⟨empty⟩

/-- The number of instructions. -/
def length (program : Program) : Nat :=
  program.instructions.length

/-- Whether there are no instructions. -/
def isEmpty (program : Program) : Bool :=
  program.instructions.isEmpty

/-- The instruction at an index, if there is one. -/
def get? (program : Program) (index : Nat) : Option Instruction :=
  program.instructions[index]?

/-- The index that a branch to a label goes to. A label that is mapped beyond the end of the program
counts as undeclared, so that execution stays within the program. -/
def target? (program : Program) (label : String) : Option Nat :=
  (program.labels.get? label).filter (· ≤ program.length)

/-- The lines of source for one index: the declarations of its labels, then its instruction. -/
def linesAt (program : Program) (index : Nat) : List String :=
  (program.labels.labelsAt index).map (String.singleton labelMark ++ ·)
    ++ (program.get? index).toList.map Instruction.text

/-- The lines of source of a program. The end of the program has labels too. -/
def sourceLines (program : Program) : List String :=
  (List.range (program.length + 1)).flatMap program.linesAt

/-- The program as source text. Labels beyond the end are left out. -/
def text (program : Program) : String :=
  String.ofList (Text.unlines (program.sourceLines.map String.toList))

end Program

end SlotAsm
