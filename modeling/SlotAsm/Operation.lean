/-!
The four operations and the operands that each of them takes.

* `ADD slot1 slot2` adds what `slot1` holds to `slot2`.
* `SUB slot1 slot2` subtracts what `slot1` holds from `slot2`.
* `STR number slot` writes a number into a slot.
* `BNE slot1 slot2 label` goes to a label when the two slots hold different values.

`Operation.ofName?_eq_some_iff` says that an operation is named by its mnemonic alone, in capitals.
-/

namespace SlotAsm

/-- What an operand's token has to denote. -/
inductive OperandKind
  | number
  | slot
  | label
  deriving DecidableEq, Repr

/-- The name of a kind of operand. -/
def OperandKind.name : OperandKind → String
  | number => "number"
  | slot => "slot"
  | label => "label"

/-- The operands that operations have. -/
inductive Operand
  | slot1
  | slot2
  | number
  | slot
  | label
  deriving DecidableEq, Repr

namespace Operand

/-- The name of an operand, as error texts give it. -/
def name : Operand → String
  | slot1 => "slot1"
  | slot2 => "slot2"
  | number => "number"
  | slot => "slot"
  | label => "label"

/-- What the token of an operand has to denote. -/
def kind : Operand → OperandKind
  | slot1 | slot2 | slot => .slot
  | number => .number
  | label => .label

/-- The place of an operand's token among the tokens of an instruction. An operand has the same
place in every operation that takes it. -/
def position : Operand → Nat
  | slot1 | number => 0
  | slot2 | slot => 1
  | label => 2

end Operand

/-- What an instruction does. -/
inductive Operation
  | add
  | sub
  | str
  | bne
  deriving DecidableEq, Repr

namespace Operation

/-- All operations. -/
def all : List Operation :=
  [add, sub, str, bne]

/-- The mnemonic of an operation. -/
def name : Operation → String
  | add => "ADD"
  | sub => "SUB"
  | str => "STR"
  | bne => "BNE"

/-- The operation that a text names, if it is the mnemonic of one. -/
def ofName? (text : String) : Option Operation :=
  all.find? fun operation => operation.name == text

/-- The operands of an operation, in the order of their tokens. -/
def operands : Operation → List Operand
  | add | sub => [.slot1, .slot2]
  | str => [.number, .slot]
  | bne => [.slot1, .slot2, .label]

/-- The number of operands. -/
def arity (operation : Operation) : Nat :=
  operation.operands.length

/-- Whether an operation can continue elsewhere than at the next instruction. -/
def isBranch (operation : Operation) : Bool :=
  operation.operands.any fun operand => operand.kind = .label

theorem ofName?_name (operation : Operation) : ofName? operation.name = some operation := by
  cases operation <;> decide

/-- A text names an operation exactly when it is that operation's mnemonic. -/
theorem ofName?_eq_some_iff {text : String} {operation : Operation} :
    ofName? text = some operation ↔ text = operation.name := by
  constructor
  · intro h
    have found := List.find?_some h
    exact (beq_iff_eq.mp found).symm
  · rintro rfl
    exact ofName?_name operation

/-- The operands of an operation stand at the places that they have. -/
theorem operands_getElem?_position {operation : Operation} {operand : Operand}
    (h : operand ∈ operation.operands) :
    operation.operands[operand.position]? = some operand := by
  revert h
  cases operation <;> cases operand <;> decide

end Operation

end SlotAsm
