import SlotAsm.Operation

/-!
An instruction is an operation with the tokens of its operands. The tokens are kept as they were
written and are given their meaning when the instruction is executed; an instruction that was not
read from a source may have too few of them, too many, or senseless ones.
-/

namespace SlotAsm

/-- An operation with the tokens given for it. -/
structure Instruction where
  operation : Operation
  tokens : List String
  deriving DecidableEq, Repr

namespace Instruction

/-- The token at a place, if there is one. -/
def token? (instruction : Instruction) (position : Nat) : Option String :=
  instruction.tokens[position]?

/-- The operands that have a token, each with its token. -/
def operands (instruction : Instruction) : List (Operand × String) :=
  instruction.operation.operands.zip instruction.tokens

/-- The instruction as a line of source: the mnemonic and the tokens, separated by single
spaces. -/
def text (instruction : Instruction) : String :=
  String.join (instruction.operation.name :: instruction.tokens.map (" " ++ ·))

end Instruction

end SlotAsm
