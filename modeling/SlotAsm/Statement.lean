import SlotAsm.Instruction
import SlotAsm.Text.Words
import SlotAsm.Token

/-!
What one line of source states. The comment mark ends the code of a line, and blanks around the code
do not count. Code that starts with the label mark declares a label, and other code is an
instruction: a mnemonic and its tokens. `Statement.ofLine` reads a line without regard to the lines
before it; a line without code states nothing.
-/

namespace SlotAsm

/-- What a line with code states. -/
inductive Statement
  /-- The label names the next instruction. -/
  | label (name : String)
  /-- The instruction is the next one. -/
  | instruction (instruction : Instruction)
  deriving DecidableEq, Repr

/-- What can be wrong with a line. -/
inductive LineError
  /-- The line starts with a word that is not a mnemonic. -/
  | notAnOperation (name : String)
  /-- The number of tokens is not the number of operands. -/
  | wrongArity (operation : Operation) (tokens : List String)
  /-- The token of an operand fails its check. -/
  | badOperand (operation : Operation) (operand : Operand) (cause : TokenError)
  /-- The name in a label declaration fails its check. -/
  | badLabel (cause : TokenError)
  deriving DecidableEq, Repr

/-- The text that reports what is wrong with a line. -/
def LineError.message : LineError → String
  | notAnOperation name => s!"{name} is not an operation."
  | wrongArity operation tokens =>
    s!"{operation.name} requires {operation.arity} arguments but was given {tokens.length}: "
      ++ "(" ++ ", ".intercalate tokens ++ ")"
  | badOperand operation operand cause =>
    s!"argument `{operand.name}` of {operation.name}: {cause.message}"
  | badLabel cause => s!"bad label declaration: {cause.message}"

/-- The code of a line: what stands before the first comment mark, without the blanks around it. -/
def codeOf (line : List Char) : List Char :=
  Text.trim (line.takeWhile (· != commentMark))

namespace Instruction

/-- What is wrong with the first token that fails the check for its operand. -/
def firstError? (instruction : Instruction) : Option LineError :=
  instruction.operands.findSome? fun (operand, token) =>
    match operand.kind.check token with
    | .ok () => none
    | .error cause => some (.badOperand instruction.operation operand cause)

/-- The instruction that a list of words gives, if it has as many tokens as operands and each token
passes its check. The line is named in the error when there are no words. -/
def ofWords (line : String) : List String → Except LineError Instruction
  | [] => .error (.notAnOperation line)
  | name :: tokens =>
    match Operation.ofName? name with
    | none => .error (.notAnOperation name)
    | some operation =>
      if tokens.length ≠ operation.arity then
        .error (.wrongArity operation tokens)
      else
        match firstError? ⟨operation, tokens⟩ with
        | some fault => .error fault
        | none => .ok ⟨operation, tokens⟩

/-- Reads code that is not a label declaration. -/
def ofCode (code : List Char) : Except LineError Instruction :=
  match Text.tokens? code with
  | none => .error (.notAnOperation (String.ofList code))
  | some words => ofWords (String.ofList code) (words.map String.ofList)

end Instruction

namespace Statement

/-- Reads what stands after the label mark. -/
def ofDeclaration (rest : List Char) : Except LineError Statement :=
  let name := String.ofList (Text.trim rest)
  match checkLabel name with
  | .error cause => .error (.badLabel cause)
  | .ok () => .ok (.label name)

/-- Reads code: a label declaration if it starts with the label mark, an instruction otherwise. -/
def ofCode (code : List Char) : Except LineError Statement :=
  if code.head? = some labelMark then ofDeclaration code.tail
  else (Instruction.ofCode code).map .instruction

/-- What a line states, if it has code. -/
def ofLine (line : List Char) : Except LineError (Option Statement) :=
  if codeOf line = [] then .ok none
  else (ofCode (codeOf line)).map some

end Statement

end SlotAsm
