import SlotAsm.Display

/-!
The command line: it loads a file, or a sample when no file is named, runs the program and writes
down every step with a picture of the machine after it. `start` and `proceed` say piece by piece
what is written and what comes next, and `transcript` puts the pieces together: what a whole run
writes to the standard output and to the error output, and its exit code. A machine that cannot be
drawn aborts the run at the place of its picture.
-/

namespace SlotAsm.Console

/-- Why a file cannot be read. -/
inductive ReadError
  /-- The system reports an error, with a description and a number. -/
  | system (description : String) (code : Nat)
  /-- The file is not text in UTF-8. -/
  | notUnicode
  deriving DecidableEq, Repr

namespace ReadError

/-- There is no file of that name. -/
def notFound : ReadError := system "No such file or directory" 2

/-- The name is that of a directory. -/
def isDirectory : ReadError := system "Is a directory" 21

/-- The text that reports why a file cannot be read. -/
def message : ReadError → String
  | system description code => s!"{description} (os error {code})"
  | notUnicode => "stream did not contain valid UTF-8"

end ReadError

/-- What the command line is to run. -/
inductive Input
  /-- No file is named. -/
  | sample
  /-- A file is named, with its text if it can be read. -/
  | file (path : String) (contents : Except ReadError String)

/-- What is to be done after a piece of output. -/
inductive Stage
  /-- Execute the machine's next instruction. -/
  | running (machine : Machine)
  /-- Write a text to the error output and end with an exit code. -/
  | done (errors : String) (exitCode : Nat)
  /-- Write a text to the error output and abort. -/
  | aborted (errors : String)

/-- What is written to the error output at a stage. -/
def Stage.errors : Stage → String
  | running _ => ""
  | done errors _ => errors
  | aborted errors => errors

/-- A piece of output and what is to be done after it. -/
structure Progress where
  output : String
  stage : Stage

/-- Writes a text and the picture of a machine after it, and comes to a stage. If the machine cannot
be drawn the run aborts: nothing of the picture is written, and of the stage there is only what it
writes to the error output. -/
def draw (text : String) (machine : Machine) (stage : Stage) : Progress :=
  if machine.isDrawable then ⟨text ++ s!"{machine.text}\n", stage⟩
  else ⟨text, .aborted stage.errors⟩

/-- The first line of every run. -/
def banner : String := "Computation Tracing ENABLED\n"

/-- The program that runs when no file is named: slot `A` counts up to slot `B`. -/
def sample : String :=
  "STR 0 A      # counter\nSTR 10 B     # limit\nSTR 1 C      # increment\n"
    ++ ">loop\nADD C A\nBNE A B loop\n"

/-- What is written when no file is named. -/
def usage : String :=
  s!"Usage: tinyasm <file>\nNo file given, running the sample program:\n{sample}\n"

/-- The lines for the labels that a source text declares anew. -/
def notices (text : String) : String :=
  String.join ((redeclarations text).map fun redeclaration => redeclaration.message ++ "\n")

/-- Loads a source text. -/
def load (text : String) : Progress :=
  match Machine.load text with
  | (.ok (), machine) =>
    draw (notices text ++ s!"Loaded {machine.program.length} instructions.\n") machine
      (.running machine)
  | (.error error, _) =>
    ⟨notices text ++ s!"{error.message}\n", .done s!"{error.message}\n" 1⟩

/-- Begins a run. -/
def start : Input → Progress
  | .sample =>
    let loading := load sample
    ⟨banner ++ usage ++ loading.output, loading.stage⟩
  | .file path (.error error) =>
    ⟨banner, .done s!"Error: cannot read '{path}': {error.message}\n" 1⟩
  | .file _ (.ok text) =>
    let loading := load text
    ⟨banner ++ loading.output, loading.stage⟩

/-- The line for the instruction that is about to be executed. -/
def instructionLine (machine : Machine) : String :=
  match machine.current? with
  | none => ""
  | some instruction =>
    String.ofList (s!"{machine.pc}".toList.leftpad 4 ' ') ++ s!": {instruction.text}\n"

/-- Executes one instruction, or ends the run when the program has come to its end. -/
def proceed (machine : Machine) : Progress :=
  if machine.status = .complete then
    draw "" machine (.done "" 0)
  else
    match machine.step with
    | (.ok (), after) => draw (instructionLine machine) after (.running after)
    | (.error error, after) =>
      draw (instructionLine machine ++ s!"Error at instruction {machine.pc}: {error.message}\n")
        after (.done s!"Runtime error at instruction {after.pc}: {error.message}\n" 1)

/-- What a run writes and how it ends. The report that the system itself makes of a run that aborts
is no part of it. -/
structure Transcript where
  output : String
  errors : String
  exitCode : Nat
  deriving DecidableEq, Repr

/-- The exit code of a run that aborts. -/
def abortCode : Nat := 101

/-- Goes on from a piece of output, all output before it being `written`. There is no answer if that
takes more than `limit` steps. -/
def follow (limit : Nat) (written : String) (progress : Progress) : Option Transcript :=
  match progress.stage with
  | .done errors exitCode => some ⟨written ++ progress.output, errors, exitCode⟩
  | .aborted errors => some ⟨written ++ progress.output, errors, abortCode⟩
  | .running machine =>
    match limit with
    | 0 => none
    | limit + 1 => follow limit (written ++ progress.output) (proceed machine)

/-- What a whole run writes and how it ends, if it does so within `limit` steps. -/
def transcript (limit : Nat) (input : Input) : Option Transcript :=
  follow limit "" (start input)

end SlotAsm.Console
