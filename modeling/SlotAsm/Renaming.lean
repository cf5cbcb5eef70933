import Mathlib.Logic.Equiv.Defs
import SlotAsm.Effect

/-!
Programs with other names. A `Renaming` exchanges the slots and gives labels other names.
`Program.rename` applies it to the tokens that name slots, to the labels that branches go to and to
the labels that the program declares; mnemonics, numbers and indices stay. `StepError.rename` gives
the error that then stands for an error of the program as it was.
-/

namespace SlotAsm

/-- Other names for slots and labels. -/
structure Renaming where
  /-- The slot that takes the place of a slot. -/
  slot : Equiv.Perm Slot
  /-- The name that takes the place of a label. -/
  label : String → String

/-- The token that takes the place of an operand's token. A token that should name a slot and does
not stays as it is. -/
def Renaming.token (names : Renaming) : OperandKind → String → String
  | .number, token => token
  | .slot, token =>
    match Slot.ofName? token with
    | none => token
    | some slot => (names.slot slot).name
  | .label, token => names.label token

/-- The instruction with the names in its operands replaced. Tokens without an operand stay as they
are. -/
def Instruction.rename (names : Renaming) (given : Instruction) : Instruction :=
  { given with
    tokens := given.tokens.mapIdx fun position token =>
      match given.operation.operands[position]? with
      | none => token
      | some operand => names.token operand.kind token }

/-- The table with other names for its labels. When two labels take the same name, the first one in
the table counts. -/
def LabelTable.rename (names : Renaming) (table : LabelTable) : LabelTable :=
  table.toList.foldr (fun entry renamed => renamed.insert (names.label entry.1) entry.2) ∅

/-- The program with the names of slots and labels replaced. -/
def Program.rename (names : Renaming) (program : Program) : Program where
  instructions := program.instructions.map (Instruction.rename names)
  labels := program.labels.rename names

/-- The error with the names of slots and labels replaced. -/
def StepError.rename (names : Renaming) : StepError → StepError
  | .emptySlot operand slot => .emptySlot operand (names.slot slot)
  | .undefinedLabel label => .undefinedLabel (names.label label)
  | .malformedOperand operation operand token => .malformedOperand operation operand token
  | .noProgram => .noProgram
  | .finished => .finished

end SlotAsm
