import SlotAsm.Program
import SlotAsm.Statement

/-!
A source text and the program that it stands for. The lines are read in order up to the first one
that is wrong, and one wrong line means that there is no program. A label names the instruction that
comes after its declaration, whether it is used before or after; the last declaration of a label is
the one that counts. `parse` gives the program or the error, and `redeclarations` lists the places
where a label is declared anew.
-/

namespace SlotAsm

/-- A line of source that is wrong. -/
structure ParseError where
  /-- The number of the line, counted from one. -/
  line : Nat
  /-- The line as it was written, with its comment. -/
  text : String
  /-- What is wrong with it. -/
  cause : LineError
  deriving DecidableEq, Repr

/-- The text that reports a line that is wrong. -/
def ParseError.message (error : ParseError) : String :=
  s!"Error on line {error.line} (\"{error.text}\"): {error.cause.message}"

/-- What reading a source gives. -/
structure Reading where
  /-- The statements before the first wrong line, each with the number of its line. -/
  statements : List (Nat × Statement)
  /-- The first wrong line, if there is one. -/
  error : Option ParseError
  deriving DecidableEq, Repr

/-- Reads lines, the first of which has the given number. -/
def Reading.ofLines (number : Nat) : List (List Char) → Reading
  | [] => ⟨[], none⟩
  | line :: others =>
    match Statement.ofLine line with
    | .error cause => ⟨[], some ⟨number, String.ofList line, cause⟩⟩
    | .ok statement =>
      let rest := ofLines (number + 1) others
      ⟨statement.toList.map (number, ·) ++ rest.statements, rest.error⟩

/-- Reads a source text. -/
def Reading.ofText (text : String) : Reading :=
  ofLines 1 (Text.lines text.toList)

namespace Program

/-- The program after one more statement. -/
def extend (program : Program) : Statement → Program
  | .label name => { program with labels := program.labels.insert name program.length }
  | .instruction instruction =>
    { program with instructions := program.instructions ++ [instruction] }

/-- The program that statements make up. -/
def ofStatements (statements : List Statement) : Program :=
  statements.foldl extend ∅

end Program

/-- The program that a source text stands for, or the first line that is wrong. -/
def parse (text : String) : Except ParseError Program :=
  let reading := Reading.ofText text
  match reading.error with
  | some error => .error error
  | none => .ok (Program.ofStatements (reading.statements.map (·.2)))

/-- A declaration of a label that was declared before. -/
structure Redeclaration where
  label : String
  /-- The number of the line that declares the label anew. -/
  line : Nat
  /-- The index that the label had before that line. -/
  previous : Nat
  deriving DecidableEq, Repr

/-- The text that reports that a label is declared anew. -/
def Redeclaration.message (redeclaration : Redeclaration) : String :=
  s!"Label {redeclaration.label} on line {redeclaration.line} replaces its declaration at "
    ++ s!"instruction {redeclaration.previous}."

/-- The redeclarations among the statements that follow a part of a program. -/
def redeclarationsAfter (program : Program) : List (Nat × Statement) → List Redeclaration
  | [] => []
  | (line, statement) :: rest =>
    let here :=
      match statement with
      | .label name => (program.labels.get? name).toList.map fun previous => ⟨name, line, previous⟩
      | .instruction _ => []
    here ++ redeclarationsAfter (program.extend statement) rest

/-- The redeclarations of a source text, in order, up to the first wrong line. -/
def redeclarations (text : String) : List Redeclaration :=
  redeclarationsAfter ∅ (Reading.ofText text).statements

end SlotAsm
