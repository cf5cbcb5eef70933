import SlotAsm.Machine
import SlotAsm.Text.Grid

/-!
The picture of a machine as text: a status line, and under it the slots and the instructions side by
side in a table. The instruction that is next carries the mark `* -->`, and each instruction carries
its index and the labels that name it. `Machine.picture` is drawn with any measure of lines, and
`Machine.text` with that of terminals; `Machine.isDrawable` says for which machines there is a text.
-/

namespace SlotAsm

/-- The mark of the instruction that is next. -/
def nextMark : String := "* --> "

/-- The table of the slots and what they hold. -/
def Store.grid (store : Store) : Text.Grid where
  align := .right
  titles := ("Slot".toList, "Contents".toList)
  rows := Slot.all.map fun slot =>
    ((slot.name ++ " =").toList, (contentsText (store.get slot)).toList)

namespace Program

/-- The address of an instruction: the labels that name it, if there are any, and its index. -/
def address (program : Program) (index : Nat) : String :=
  match program.labels.labelsAt index with
  | [] => s!"{index}"
  | labels => String.singleton labelMark ++ " ".intercalate labels ++ s!" {index}"

/-- The row of an instruction when the instruction at the index `pc` is next. -/
def row (program : Program) (pc index : Nat) (instruction : Instruction) :
    List Char × List Char :=
  let mark := if index = pc then nextMark else ""
  ((mark ++ program.address index).toList, instruction.text.toList)

/-- The table of the instructions when the one at the index `pc` is next. -/
def grid (program : Program) (pc : Nat) : Text.Grid where
  align := .right
  titles := ("Address".toList, "Instruction".toList)
  rows := program.instructions.mapIdx (program.row pc)

end Program

namespace Machine

/-- The table that holds the table of the slots and the table of the instructions. -/
def grid (measure : Text.Measure) (machine : Machine) : Text.Grid where
  align := .left
  titles := ("Slots".toList, "Code".toList)
  rows := [(machine.store.grid.text measure, (machine.program.grid machine.pc).text measure)]

/-- The line over the tables: the status, the error of the last instruction if it failed, and the
index of the next instruction. -/
def statusLine (machine : Machine) : String :=
  let error :=
    match machine.error? with
    | none => ""
    | some error => s!": {error.message}"
  s!"State: {machine.status.name}{error}\tpc = {machine.pc}\n"

/-- Whether the tables of a machine can be drawn: the inner ones on their own, and then the one that
holds them. -/
def hasPicture (measure : Text.Measure) (machine : Machine) : Bool :=
  machine.store.grid.isMeasurable measure &&
    (machine.program.grid machine.pc).isMeasurable measure &&
    (machine.grid measure).isMeasurable measure

/-- The picture of a machine, where it can be drawn. -/
def picture (measure : Text.Measure) (machine : Machine) : String :=
  machine.statusLine ++ String.ofList ((machine.grid measure).text measure)

/-- Whether a machine can be drawn on a terminal. -/
def isDrawable (machine : Machine) : Bool :=
  machine.hasPicture .terminal

/-- The picture of a machine on a terminal, where it can be drawn. -/
def text (machine : Machine) : String :=
  machine.picture .terminal

end Machine

end SlotAsm
