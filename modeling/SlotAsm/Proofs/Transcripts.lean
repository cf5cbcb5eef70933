import SlotAsm.Console
import SlotAsm.Proofs.Failures
import SlotAsm.Proofs.Pictures
import SlotAsm.Proofs.Redeclarations

/-!
What the command line writes about a source text, against the machine that executes the text and
writes nothing. `Console.Traced` lists the steps of that machine as long as they succeed, with the
picture after each of them, and `Console.Concluded` says how the list ends. A transcript holds just
that, after the redeclarations of the text (`Console.transcript_file_iff`): to write the steps down
changes none of them, and there is a transcript unless the machine runs without an end. Only a
machine that cannot be drawn ends the list before the run does: `Console.MeetsUndrawable` says that
the run comes to one, and then, and only then, the transcript ends with an abort.
-/

namespace SlotAsm.Console

open Text (lines)
open Machine (ofProgram)

/-! ## What there is to be written -/

/-- The line for a program that is loaded. -/
def loadedLine (count : Nat) : String :=
  s!"Loaded {count} instructions.\n"

/-- The line for an instruction that is executed: its index, filled with blanks to four characters,
and its text. -/
def executionLine (pc : Nat) (given : Instruction) : String :=
  String.ofList ((toString pc).toList.leftpad 4 ' ') ++ ": " ++ given.text ++ "\n"

/-- The line for an instruction that fails. -/
def failureLine (pc : Nat) (error : StepError) : String :=
  s!"Error at instruction {pc}: {error.message}\n"

/-- The line that goes to the error output when an instruction fails. -/
def runtimeErrorLine (pc : Nat) (error : StepError) : String :=
  s!"Runtime error at instruction {pc}: {error.message}\n"

/-- Steps that succeed, from the first machine to the last, and what is written about them: the
instruction of each step and the picture of the machine after it. -/
inductive Traced : Machine → String → Machine → Prop
  | nil {machine : Machine} : Traced machine "" machine
  | cons {machine next last : Machine} {given : Instruction} {rest : String} :
      machine.current? = some given → machine.step = (.ok (), next) → next.isDrawable = true →
      Traced next rest last →
      Traced machine (executionLine machine.pc given ++ next.text ++ "\n" ++ rest) last

/-- The end of a run at its last machine, all output before it being `written`: the program has come
to its end, or the next instruction fails, or the machine after the next instruction cannot be
drawn. -/
inductive Concluded (written : String) (last : Machine) : Transcript → Prop
  | complete :
      last.status = .complete → Concluded written last ⟨written ++ last.text ++ "\n", "", 0⟩
  | failed {halted : Machine} {given : Instruction} {error : StepError} :
      last.current? = some given → last.step = (.error error, halted) →
      Concluded written last
        ⟨written ++ executionLine last.pc given ++ failureLine last.pc error ++ halted.text ++ "\n",
          runtimeErrorLine last.pc error, 1⟩
  | aborted {next : Machine} {given : Instruction} :
      last.current? = some given → last.step = (.ok (), next) → next.isDrawable = false →
      Concluded written last ⟨written ++ executionLine last.pc given, "", abortCode⟩

/-- The run of the machine comes to a machine that cannot be drawn. -/
def MeetsUndrawable (machine : Machine) : Prop :=
  ∃ n reached, machine.after n = .ok reached ∧ reached.isDrawable = false

/-- The transcript for a source text whose redeclarations are reported by `notices`. -/
inductive Recorded (text notices : String) : Transcript → Prop
  | refused {error : ParseError} :
      parse text = .error error →
      Recorded text notices
        ⟨banner ++ notices ++ error.message ++ "\n", error.message ++ "\n", 1⟩
  | undrawable {program : Program} :
      parse text = .ok program → (ofProgram program).isDrawable = false →
      Recorded text notices ⟨banner ++ notices ++ loadedLine program.length, "", abortCode⟩
  | executed {program : Program} {trace : String} {last : Machine} {record : Transcript} :
      parse text = .ok program → (ofProgram program).isDrawable = true →
      Traced (ofProgram program) trace last →
      Concluded (banner ++ notices ++ loadedLine program.length ++ (ofProgram program).text ++ "\n"
        ++ trace) last record →
      Recorded text notices record

/-! ## One step of the command line -/

variable {machine next : Machine} {written output : String} {record : Transcript}
  {given : Instruction}

/-- A text with a line feed, as it is put together where it is written. -/
theorem line_eq (text : String) : s!"{text}\n" = text ++ "\n" :=
  rfl

theorem draw_of_drawable (drawable : machine.isDrawable = true) (text : String) (stage : Stage) :
    draw text machine stage = ⟨text ++ machine.text ++ "\n", stage⟩ := by
  rw [draw, if_pos drawable, line_eq, String.append_assoc]

theorem draw_of_undrawable (undrawable : machine.isDrawable = false) (text : String)
    (stage : Stage) : draw text machine stage = ⟨text, .aborted stage.errors⟩ := by
  rw [draw, undrawable]
  rfl

/-- Whether a machine can be drawn depends on its program, its slots and its place. -/
theorem isDrawable_congr {other : Machine} (program : other.program = machine.program)
    (pc : other.pc = machine.pc) (store : other.store = machine.store) :
    other.isDrawable = machine.isDrawable := by
  simp only [Machine.isDrawable, Machine.hasPicture, Machine.grid, program, pc, store]

theorem proceed_of_complete (drawable : machine.isDrawable = true)
    (complete : machine.status = .complete) :
    proceed machine = ⟨machine.text ++ "\n", .done "" 0⟩ := by
  rw [proceed, if_pos complete, draw_of_drawable drawable, String.empty_append]

theorem instructionLine_eq (current : machine.current? = some given) :
    instructionLine machine = executionLine machine.pc given := by
  rw [instructionLine, current]
  simp only [executionLine, String.append_assoc]
  rfl

theorem proceed_of_step_eq_ok (current : machine.current? = some given)
    (stepped : machine.step = (.ok (), next)) :
    proceed machine = draw (executionLine machine.pc given) next (.running next) := by
  have running := Machine.status_ne_complete_of_step_eq_ok (congrArg Prod.fst stepped)
  simp only [proceed, if_neg running, stepped, instructionLine_eq current]

theorem proceed_of_step_eq_error {halted : Machine} {error : StepError}
    (drawable : machine.isDrawable = true) (current : machine.current? = some given)
    (stepped : machine.step = (.error error, halted)) :
    proceed machine =
      ⟨executionLine machine.pc given ++ failureLine machine.pc error ++ halted.text ++ "\n",
        .done (runtimeErrorLine machine.pc error) 1⟩ := by
  have running := Machine.status_ne_complete_of_current? current
  have transition := machine.transition_step
  rw [stepped] at transition
  obtain ⟨program, place, store⟩ := transition.program_pc_store_eq
  have drawn := (isDrawable_congr program place store).trans drawable
  rw [proceed, if_neg running, stepped]
  show draw (instructionLine machine ++ failureLine machine.pc error) halted
    (.done (runtimeErrorLine halted.pc error) 1) = _
  rw [draw_of_drawable drawn, instructionLine_eq current, place]

theorem follow_done (limit : Nat) (written output errors : String) (exitCode : Nat) :
    follow limit written ⟨output, .done errors exitCode⟩ =
      some ⟨written ++ output, errors, exitCode⟩ := by
  cases limit <;> rfl

theorem follow_aborted (limit : Nat) (written output errors : String) :
    follow limit written ⟨output, .aborted errors⟩ =
      some ⟨written ++ output, errors, abortCode⟩ := by
  cases limit <;> rfl

/-! ## A whole run -/

/-- What is written from a loaded machine on: the steps that succeed, and then the end. -/
theorem exists_traced_of_follow {limit : Nat} (loaded : machine ≠ .idle)
    (drawable : machine.isDrawable = true)
    (followed : follow limit written ⟨output, .running machine⟩ = some record) :
    ∃ trace last, Traced machine trace last ∧
      Concluded (written ++ output ++ trace) last record := by
  induction limit generalizing machine written output with
  | zero => cases followed
  | succ limit ih =>
    have followed : follow limit (written ++ output) (proceed machine) = some record := followed
    by_cases complete : machine.status = .complete
    · rw [proceed_of_complete drawable complete, follow_done, Option.some_inj,
        ← String.append_assoc] at followed
      subst followed
      refine ⟨"", machine, .nil, ?_⟩
      rw [String.append_empty]
      exact .complete complete
    obtain ⟨given, current⟩ := Machine.exists_current? loaded complete
    cases outcome : machine.step.1 with
    | ok _ =>
      have stepped : machine.step = (.ok (), machine.step.2) := Prod.ext outcome rfl
      rw [proceed_of_step_eq_ok current stepped] at followed
      cases drawn : machine.step.2.isDrawable with
      | true =>
        rw [draw_of_drawable drawn] at followed
        rcases ih (Machine.step_ne_idle loaded) drawn followed with
          ⟨trace, last, traced, concluded⟩
        refine ⟨_, last, .cons current stepped drawn traced, ?_⟩
        simpa only [String.append_assoc] using concluded
      | false =>
        rw [draw_of_undrawable drawn, follow_aborted, Option.some_inj] at followed
        subst followed
        refine ⟨"", machine, .nil, ?_⟩
        rw [String.append_empty]
        exact .aborted current stepped drawn
    | error error =>
      have stepped : machine.step = (.error error, machine.step.2) := Prod.ext outcome rfl
      rw [proceed_of_step_eq_error drawable current stepped, follow_done, Option.some_inj]
        at followed
      subst followed
      refine ⟨"", machine, .nil, ?_⟩
      simp only [String.append_empty, ← String.append_assoc]
      exact .failed current stepped

/-- The command line comes to the end of steps that succeed. -/
theorem follow_of_traced {trace : String} {last : Machine} (drawable : machine.isDrawable = true)
    (traced : Traced machine trace last)
    (concluded : Concluded (written ++ output ++ trace) last record) :
    ∃ limit, follow limit written ⟨output, .running machine⟩ = some record := by
  induction traced generalizing written output with
  | @nil machine =>
    refine ⟨1, ?_⟩
    show follow 0 (written ++ output) (proceed machine) = some record
    rw [String.append_empty] at concluded
    cases concluded with
    | complete complete =>
      rw [proceed_of_complete drawable complete, follow_done, ← String.append_assoc]
    | failed current stepped =>
      rw [proceed_of_step_eq_error drawable current stepped, follow_done]
      simp only [String.append_assoc]
    | aborted current stepped undrawable =>
      rw [proceed_of_step_eq_ok current stepped, draw_of_undrawable undrawable, follow_aborted]
      rfl
  | @cons machine next last given rest current stepped drawn _ ih =>
    have later : Concluded (written ++ output ++
        (executionLine machine.pc given ++ next.text ++ "\n") ++ rest) last record := by
      simpa only [String.append_assoc] using concluded
    rcases ih drawn later with ⟨limit, followed⟩
    refine ⟨limit + 1, ?_⟩
    show follow limit (written ++ output) (proceed machine) = some record
    rw [proceed_of_step_eq_ok current stepped, draw_of_drawable drawn]
    exact followed

/-! ## A source text -/

variable {text path : String} {program : Program}

theorem start_of_parse_eq_error {error : ParseError} (refused : parse text = .error error) :
    start (.file path (.ok text)) =
      ⟨banner ++ (notices text ++ (error.message ++ "\n")), .done (error.message ++ "\n") 1⟩ := by
  simp only [start, load, Machine.load, refused, line_eq]

theorem start_of_undrawable (parsed : parse text = .ok program)
    (undrawable : (ofProgram program).isDrawable = false) :
    start (.file path (.ok text)) =
      ⟨banner ++ (notices text ++ loadedLine program.length), .aborted ""⟩ := by
  simp only [start, load, Machine.load, parsed, draw_of_undrawable undrawable]
  rfl

theorem start_of_drawable (parsed : parse text = .ok program)
    (drawable : (ofProgram program).isDrawable = true) :
    start (.file path (.ok text)) =
      ⟨banner ++ (notices text ++ loadedLine program.length ++ (ofProgram program).text ++ "\n"),
        .running (ofProgram program)⟩ := by
  simp only [start, load, Machine.load, parsed, draw_of_drawable drawable]
  rfl

theorem ofProgram_ne_idle (program : Program) : ofProgram program ≠ .idle :=
  Machine.noConfusion

/-- The command line writes what there is to be written, and nothing else. -/
theorem exists_transcript_iff_recorded :
    (∃ limit, transcript limit (.file path (.ok text)) = some record) ↔
      Recorded text (notices text) record := by
  unfold transcript
  constructor
  · intro followed
    rcases followed with ⟨limit, followed⟩
    cases parsed : parse text with
    | error error =>
      rw [start_of_parse_eq_error parsed, follow_done, Option.some_inj, String.empty_append]
        at followed
      subst followed
      simp only [← String.append_assoc]
      exact .refused parsed
    | ok program =>
      cases drawable : (ofProgram program).isDrawable with
      | true =>
        rw [start_of_drawable parsed drawable] at followed
        rcases exists_traced_of_follow (ofProgram_ne_idle program) drawable followed with
          ⟨trace, last, traced, concluded⟩
        refine .executed parsed drawable traced ?_
        simpa only [String.empty_append, String.append_assoc] using concluded
      | false =>
        rw [start_of_undrawable parsed drawable, follow_aborted, Option.some_inj,
          String.empty_append] at followed
        subst followed
        rw [← String.append_assoc]
        exact .undrawable parsed drawable
  · intro recorded
    cases recorded with
    | refused refused =>
      rw [start_of_parse_eq_error refused]
      refine ⟨0, ?_⟩
      simp only [follow_done, String.empty_append, String.append_assoc]
    | undrawable parsed undrawable =>
      rw [start_of_undrawable parsed undrawable]
      refine ⟨0, ?_⟩
      simp only [follow_aborted, String.empty_append, String.append_assoc]
    | executed parsed drawable traced concluded =>
      rw [start_of_drawable parsed drawable]
      refine follow_of_traced drawable traced ?_
      simpa only [String.empty_append, String.append_assoc] using concluded

/-! ## Runs that come to a machine that cannot be drawn -/

/-- A machine that can be drawn itself comes to one that cannot after a step that succeeds. -/
theorem meetsUndrawable_iff_step (drawable : machine.isDrawable = true) :
    MeetsUndrawable machine ↔ machine.step.1 = .ok () ∧ MeetsUndrawable machine.step.2 := by
  constructor
  · intro meets
    rcases meets with ⟨n, reached, ran, undrawable⟩
    cases n with
    | zero =>
      cases ran
      rw [drawable] at undrawable
      cases undrawable
    | succ n =>
      rcases Machine.after_succ_eq_ok_iff.mp ran with ⟨succeeded, ran⟩
      exact ⟨succeeded, n, reached, ran, undrawable⟩
  · intro later
    rcases later with ⟨succeeded, n, reached, ran, undrawable⟩
    exact ⟨n + 1, reached, Machine.after_succ_eq_ok_iff.mpr ⟨succeeded, ran⟩, undrawable⟩

theorem meetsUndrawable_iff_of_step_eq_ok (drawable : machine.isDrawable = true)
    (stepped : machine.step = (.ok (), next)) :
    MeetsUndrawable machine ↔ MeetsUndrawable next := by
  rw [meetsUndrawable_iff_step drawable, stepped]
  exact and_iff_right rfl

theorem not_meetsUndrawable_of_step_eq_error {halted : Machine} {error : StepError}
    (drawable : machine.isDrawable = true) (stepped : machine.step = (.error error, halted)) :
    ¬ MeetsUndrawable machine := by
  rw [meetsUndrawable_iff_step drawable, stepped]
  intro both
  cases both.1

variable {trace : String} {last reached : Machine}

theorem Traced.isDrawable (traced : Traced machine trace last)
    (drawable : machine.isDrawable = true) : last.isDrawable = true := by
  induction traced with
  | nil => exact drawable
  | cons _ _ drawn _ ih => exact ih drawn

theorem Traced.meetsUndrawable_iff (traced : Traced machine trace last)
    (drawable : machine.isDrawable = true) : MeetsUndrawable machine ↔ MeetsUndrawable last := by
  induction traced with
  | nil => exact Iff.rfl
  | cons _ stepped drawn _ ih =>
    rw [meetsUndrawable_iff_of_step_eq_ok drawable stepped]
    exact ih drawn

theorem Concluded.exitCode_eq_abortCode_iff (concluded : Concluded written last record)
    (drawable : last.isDrawable = true) :
    record.exitCode = abortCode ↔ MeetsUndrawable last := by
  cases concluded with
  | complete complete =>
    have other : 0 ≠ abortCode := by decide
    have stepped := Machine.step_of_complete complete
    exact iff_of_false other (not_meetsUndrawable_of_step_eq_error drawable stepped)
  | failed current stepped =>
    have other : 1 ≠ abortCode := by decide
    exact iff_of_false other (not_meetsUndrawable_of_step_eq_error drawable stepped)
  | aborted current stepped undrawable =>
    have meets := (meetsUndrawable_iff_of_step_eq_ok drawable stepped).mpr
      ⟨0, _, rfl, undrawable⟩
    exact iff_of_true rfl meets

/-- A transcript ends with an abort when the run comes to a machine that cannot be drawn. -/
theorem Recorded.exitCode_eq_abortCode_iff {notices : String}
    (recorded : Recorded text notices record) :
    record.exitCode = abortCode ↔
      ∃ program, parse text = .ok program ∧ MeetsUndrawable (ofProgram program) := by
  cases recorded with
  | refused refused =>
    have other : 1 ≠ abortCode := by decide
    refine iff_of_false other ?_
    intro parsed
    rcases parsed with ⟨program, parsed, -⟩
    cases refused.symm.trans parsed
  | undrawable parsed undrawable =>
    exact iff_of_true rfl ⟨_, parsed, 0, _, rfl, undrawable⟩
  | executed parsed drawable traced concluded =>
    rw [concluded.exitCode_eq_abortCode_iff (traced.isDrawable drawable),
      ← traced.meetsUndrawable_iff drawable]
    constructor
    · intro meets
      exact ⟨_, parsed, meets⟩
    · intro meets
      rcases meets with ⟨program, parsed', meets⟩
      cases parsed.symm.trans parsed'
      exact meets

/-- A label whose colour sequence gives back thirteen columns for characters that are drawn as one.
-/
def joinedLabel : String :=
  String.ofList ('\x1b' :: '[' :: (List.replicate 13 ['👩', '\u200d']).flatten ++ ['m'])

set_option maxRecDepth 4000 in
example : MeetsUndrawable (ofProgram ⟨[⟨.str, ["0", "A"]⟩], .ofList [(joinedLabel, 0)]⟩) :=
  ⟨0, _, rfl, by decide⟩

/-! ## Runs that end -/

theorem Traced.returns_iff (traced : Traced machine trace last)
    {result : Except StepError Unit} {final : Machine} :
    machine.Returns result final ↔ last.Returns result final := by
  induction traced with
  | nil => exact Iff.rfl
  | cons _ stepped _ _ ih =>
    rw [Machine.returns_step_iff (congrArg Prod.fst stepped), stepped]
    exact ih

theorem Traced.ne_idle (traced : Traced machine trace last) (loaded : machine ≠ .idle) :
    last ≠ .idle := by
  induction traced with
  | nil => exact loaded
  | cons _ stepped _ _ ih =>
    have loaded := Machine.step_ne_idle loaded
    rw [stepped] at loaded
    exact ih loaded

theorem Concluded.returns_or_meetsUndrawable (concluded : Concluded written last record)
    (drawable : last.isDrawable = true) :
    (∃ result final, last.Returns result final) ∨ MeetsUndrawable last := by
  cases concluded with
  | complete complete => exact .inl ⟨_, _, (Machine.Ends.complete complete).returns⟩
  | failed current stepped =>
    have running := Machine.status_ne_complete_of_current? current
    exact .inl ⟨_, _, (Machine.Ends.failed running (congrArg Prod.fst stepped)).returns⟩
  | aborted current stepped undrawable =>
    exact .inr ((meetsUndrawable_iff_of_step_eq_ok drawable stepped).mpr ⟨0, _, rfl, undrawable⟩)

/-- Instructions that all succeed can be written down, unless a machine on the way cannot be
drawn. -/
theorem exists_traced_of_after {n : Nat} (ran : machine.after n = .ok reached) :
    (∃ trace, Traced machine trace reached) ∨
      ∃ trace last, Traced machine trace last ∧ ∀ written, ∃ record,
        Concluded written last record := by
  induction n generalizing machine with
  | zero =>
    cases ran
    exact .inl ⟨"", .nil⟩
  | succ n ih =>
    rcases Machine.after_succ_eq_ok_iff.mp ran with ⟨succeeded, ran⟩
    rcases Option.ne_none_iff_exists'.mp (Machine.current?_ne_none_of_step_eq_ok succeeded) with
      ⟨given, current⟩
    have stepped : machine.step = (.ok (), machine.step.2) := Prod.ext succeeded rfl
    cases drawn : machine.step.2.isDrawable with
    | true =>
      rcases ih ran with ⟨rest, traced⟩ | ⟨rest, last, traced, concluded⟩
      · exact .inl ⟨_, .cons current stepped drawn traced⟩
      · exact .inr ⟨_, last, .cons current stepped drawn traced, concluded⟩
    | false => exact .inr ⟨"", machine, .nil, fun _ => ⟨_, .aborted current stepped drawn⟩⟩

/-- The end of a run can be written down. -/
theorem exists_concluded_of_ends (loaded : machine ≠ .idle) {result : Except StepError Unit}
    {final : Machine} (ends : Machine.Ends machine result final) (written : String) :
    ∃ record, Concluded written machine record := by
  cases ends with
  | complete complete => exact ⟨_, .complete complete⟩
  | failed running failed =>
    rcases Machine.exists_current? loaded running with ⟨given, current⟩
    exact ⟨_, .failed current (Prod.ext failed rfl)⟩

/-- Steps and their end can be written down when the run has an end or comes to a machine that
cannot be drawn. -/
theorem exists_traced_concluded (loaded : machine ≠ .idle) (drawable : machine.isDrawable = true)
    (ending : (∃ result final, machine.Returns result final) ∨ MeetsUndrawable machine) :
    ∃ trace last, Traced machine trace last ∧ ∀ written, ∃ record,
      Concluded written last record := by
  rcases ending with ⟨result, final, returns⟩ | ⟨n, reached, ran, undrawable⟩
  · rcases Machine.returns_iff.mp returns with ⟨n, reached, ran, ends⟩
    rcases exists_traced_of_after ran with ⟨trace, traced⟩ | traced
    · exact ⟨trace, reached, traced, exists_concluded_of_ends (traced.ne_idle loaded) ends⟩
    · exact traced
  · rcases exists_traced_of_after ran with ⟨trace, traced⟩ | traced
    · rw [traced.isDrawable drawable] at undrawable
      cases undrawable
    · exact traced

/-- There is a transcript when the text has no program, or the program's run has an end or comes to
a machine that cannot be drawn. -/
theorem exists_recorded_iff (notices : String) :
    (∃ record, Recorded text notices record) ↔
      ∀ program, parse text = .ok program →
        (∃ result final, (ofProgram program).Returns result final) ∨
          MeetsUndrawable (ofProgram program) := by
  constructor
  · intro recorded program parsed
    rcases recorded with ⟨record, recorded⟩
    cases recorded with
    | refused refused => cases parsed.symm.trans refused
    | undrawable parsed' undrawable =>
      cases parsed.symm.trans parsed'
      exact .inr ⟨0, _, rfl, undrawable⟩
    | executed parsed' drawable traced concluded =>
      cases parsed.symm.trans parsed'
      rw [traced.meetsUndrawable_iff drawable]
      simp only [traced.returns_iff]
      exact concluded.returns_or_meetsUndrawable (traced.isDrawable drawable)
  · intro ending
    cases parsed : parse text with
    | error error => exact ⟨_, .refused parsed⟩
    | ok program =>
      cases drawable : (ofProgram program).isDrawable with
      | false => exact ⟨_, .undrawable parsed drawable⟩
      | true =>
        rcases exists_traced_concluded (ofProgram_ne_idle program) drawable
            (ending program parsed) with ⟨trace, last, traced, concluded⟩
        rcases concluded _ with ⟨record, concluded⟩
        exact ⟨record, .executed parsed drawable traced concluded⟩

/-- A source that declares a label twice and fails at its second instruction. -/
def declaredTwice : String :=
  "> a\nSTR 1 A\n>a # again\nADD A B\n"

/-- What `declaredTwice` is read as. -/
def declaredTwiceProgram : Program where
  instructions := [⟨.str, ["1", "A"]⟩, ⟨.add, ["A", "B"]⟩]
  labels := (∅ : LabelTable).insert "a" 1

end SlotAsm.Console
