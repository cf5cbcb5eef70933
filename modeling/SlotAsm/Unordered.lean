import SlotAsm.Display

/-!
A label table whose entries stand in no order of their own. Mapping a label to an index may leave
the entries in any order, and nothing is sorted before it is listed. `Table.Built` holds of the
tables that a sequence of mappings can end in; `Table.labelsAt` lists the labels of an index, and
`Table.sourceText` and `Table.picture` are the texts that are drawn from these lists.
`Table.Resembles` says that none of this tells the table from a label table, whose entries ascend.
-/

namespace SlotAsm.Unordered

/-- Labels with their indices. Each label has one entry, and the order of the entries means
nothing. -/
structure Table where
  entries : List (String × Nat)
  distinct : entries.Pairwise (fun entry later => entry.1 ≠ later.1)

namespace Table

/-- The table without labels. -/
def empty : Table :=
  ⟨[], List.Pairwise.nil⟩

/-- The entries of a label table, which might as well stand in any other order. -/
def ofLabels (labels : LabelTable) : Table :=
  ⟨labels.entries, LabelTable.distinct_of_ascending labels.ascending⟩

/-- The index of a label, if the label has one. -/
def get? (table : Table) (label : String) : Option Nat :=
  table.entries.lookup label

/-- The number of labels. -/
def size (table : Table) : Nat :=
  table.entries.length

/-- The labels that are mapped to an index, sorted by the code points of their characters. -/
def labelsAt (table : Table) (index : Nat) : List String :=
  ((table.entries.filter fun entry => entry.2 == index).map (·.1)).mergeSort
    fun label other => decide (label ≤ other)

/-- Mapping a label to an index may give the table `after`: the entry of the label is new, the other
labels keep theirs, and all of them may change their places. -/
def Maps (table : Table) (label : String) (index : Nat) (after : Table) : Prop :=
  after.entries.Perm ((label, index) :: table.entries.filter fun entry => entry.1 ≠ label)

/-- The tables that may result from mapping labels one after another. -/
inductive Built : List (String × Nat) → Table → Prop
  | empty : Built [] empty
  | maps {pairs : List (String × Nat)} {table after : Table} {label : String} {index : Nat} :
      Built pairs table → table.Maps label index after → Built (pairs ++ [(label, index)]) after

/-! ## What is drawn from the lists of labels -/

/-- Instructions as source text when the table has their labels. -/
def sourceText (table : Table) (instructions : List Instruction) : String :=
  let linesAt (index : Nat) : List String :=
    (table.labelsAt index).map (String.singleton labelMark ++ ·)
      ++ instructions[index]?.toList.map Instruction.text
  String.ofList (Text.unlines
    (((List.range (instructions.length + 1)).flatMap linesAt).map String.toList))

/-- The address of an instruction: the labels that name it, if there are any, and its index. -/
def address (table : Table) (index : Nat) : String :=
  match table.labelsAt index with
  | [] => s!"{index}"
  | labels => String.singleton labelMark ++ " ".intercalate labels ++ s!" {index}"

/-- The table of the instructions when the one at the index `pc` is next. -/
def codeGrid (table : Table) (instructions : List Instruction) (pc : Nat) : Text.Grid where
  align := .right
  titles := ("Address".toList, "Instruction".toList)
  rows := instructions.mapIdx fun index instruction =>
    (((if index = pc then nextMark else "") ++ table.address index).toList,
      instruction.text.toList)

/-- The picture of a machine that executes instructions whose labels the table has. The line over
the tables shows no label. -/
def picture (table : Table) (instructions : List Instruction) (store : Store) (pc : Nat)
    (error : Option StepError) : String :=
  let grid : Text.Grid :=
    { align := .left
      titles := ("Slots".toList, "Code".toList)
      rows := [(store.grid.text .terminal, (table.codeGrid instructions pc).text .terminal)] }
  (Machine.loaded ⟨⟨instructions, ∅⟩, store, pc, error⟩).statusLine
    ++ String.ofList (grid.text .terminal)

/-- All that is asked of the table or drawn from it is as if it were a label table. -/
structure Resembles (table : Table) (labels : LabelTable) : Prop where
  get? : ∀ label, table.get? label = labels.get? label
  size : table.size = labels.size
  labelsAt : ∀ index, table.labelsAt index = labels.labelsAt index
  sourceText : ∀ instructions, table.sourceText instructions = Program.text ⟨instructions, labels⟩
  picture : ∀ instructions store pc error, table.picture instructions store pc error =
    (Machine.loaded ⟨⟨instructions, labels⟩, store, pc, error⟩).text

end Table

end SlotAsm.Unordered
