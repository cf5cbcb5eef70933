import SlotAsm.Proofs.LineForms
import SlotAsm.Source

/-!
Reading a text is reading its lines. `parse_eq_ok_iff` says that a text has a program when each of
its lines can be read on its own, and that the program is made up of what the lines state; so the
texts that have one are the texts of the grammar. What holds of every statement then holds of the
program: it is well-formed, and its labels are the ones that its lines declare.
-/

namespace SlotAsm

open Text (lines)

/-! ## One line after another -/

/-- What a line states, if it can be read and has code. -/
def Statement.ofLine? (line : List Char) : Option Statement :=
  (Statement.ofLine line).toOption.join

theorem Statement.ofLine?_eq_some_iff {line : List Char} {statement : Statement} :
    Statement.ofLine? line = some statement ↔ Statement.ofLine line = .ok (some statement) := by
  unfold ofLine?
  cases Statement.ofLine line with
  | error cause => simp [Except.toOption]
  | ok stated => simp [Except.toOption]

namespace Reading

/-- There is no wrong line exactly when each line can be read on its own. -/
theorem error_ofLines_eq_none_iff (number : Nat) (ls : List (List Char)) :
    (ofLines number ls).error = none ↔
      ∀ line ∈ ls, ∃ statement, Statement.ofLine line = .ok statement := by
  induction ls generalizing number with
  | nil => simp [ofLines]
  | cons line others ih =>
      rw [List.forall_mem_cons, ofLines]
      cases read : Statement.ofLine line with
      | error cause => simp
      | ok statement => simpa using ih (number + 1)

/-- The statements of lines that can all be read are what the lines state. -/
theorem statements_ofLines (number : Nat) {ls : List (List Char)}
    (readable : ∀ line ∈ ls, ∃ statement, Statement.ofLine line = .ok statement) :
    (ofLines number ls).statements.map (·.2) = ls.filterMap Statement.ofLine? := by
  induction ls generalizing number with
  | nil => rfl
  | cons line others ih =>
      obtain ⟨⟨statement, read⟩, rest⟩ := List.forall_mem_cons.mp readable
      have stated : Statement.ofLine? line = statement := by
        simp [Statement.ofLine?, read, Except.toOption]
      rw [ofLines, read]
      cases statement with
      | none => simp [stated, ih (number + 1) rest]
      | some statement => simp [stated, ih (number + 1) rest]

end Reading

/-- A text has a program when each of its lines can be read, and the program is what the lines
state. -/
theorem parse_eq_ok_iff {text : String} {program : Program} :
    parse text = .ok program ↔
      (∀ line ∈ lines text.toList, ∃ statement, Statement.ofLine line = .ok statement) ∧
        program = Program.ofStatements ((lines text.toList).filterMap Statement.ofLine?) := by
  have readable := Reading.error_ofLines_eq_none_iff 1 (lines text.toList)
  unfold parse Reading.ofText
  cases wrong : (Reading.ofLines 1 (lines text.toList)).error with
  | some error =>
      rw [wrong] at readable
      simp [wrong, ← readable]
  | none =>
      have all := readable.mp wrong
      rw [← Reading.statements_ofLines 1 all]
      simp only [wrong, Except.ok.injEq]
      exact ⟨fun same => ⟨all, same.symm⟩, fun h => h.2.symm⟩

/-- A text has a program exactly when every line is one of the grammar. -/
theorem exists_parse_iff_source (text : String) :
    (∃ program, parse text = .ok program) ↔ Grammar.Source text.toList := by
  have forms : (∀ line ∈ lines text.toList, ∃ statement, Statement.ofLine line = .ok statement) ↔
      Grammar.Source text.toList :=
    forall₂_congr fun line _ => Statement.exists_ofLine_iff
  rw [← forms]
  constructor
  · intro parses
    rcases parses with ⟨program, parsed⟩
    exact (parse_eq_ok_iff.mp parsed).1
  · intro readable
    exact ⟨_, parse_eq_ok_iff.mpr ⟨readable, rfl⟩⟩

/-! ## The program that statements make up -/

namespace Program

theorem wellFormed_empty : WellFormed ∅ where
  instructions := nofun
  labels := nofun
  withinEnd := nofun

/-- A well-formed statement keeps a program well-formed: a label names the end of the program as it
is so far, and a program only grows. -/
theorem WellFormed.extend {program : Program} {statement : Statement}
    (wellFormed : program.WellFormed) (valid : statement.WellFormed) :
    (program.extend statement).WellFormed := by
  cases statement with
  | label name =>
      have inserted : ∀ entry ∈ (program.labels.insert name program.length).toList,
          entry = (name, program.length) ∨ entry ∈ program.labels.toList := fun entry member =>
        LabelTable.mem_insertEntry member
      refine ⟨wellFormed.instructions, fun entry member => ?_, fun entry member => ?_⟩
      · rcases inserted entry member with rfl | earlier
        · exact valid
        · exact wellFormed.labels entry earlier
      · rcases inserted entry member with rfl | earlier
        · exact Nat.le_refl _
        · exact wellFormed.withinEnd entry earlier
  | instruction given =>
      refine ⟨fun instruction member => ?_, wellFormed.labels, fun entry member => ?_⟩
      · rcases List.mem_append.mp member with earlier | last
        · exact wellFormed.instructions instruction earlier
        · rw [List.mem_singleton.mp last]
          exact valid
      · have within := wellFormed.withinEnd entry member
        have longer : (program.extend (.instruction given)).length = program.length + 1 := by
          simp [Program.extend, length]
        omega

/-- The labels of a well-formed program name its instructions or its end. -/
theorem WellFormed.get?_le {program : Program} (wellFormed : program.WellFormed) {name : String}
    {index : Nat} (declared : program.labels.get? name = some index) : index ≤ program.length :=
  wellFormed.withinEnd (name, index)
    ((LabelTable.mem_iff_lookup program.labels.ascending).mpr declared)

theorem WellFormed.foldl_extend {program : Program} {statements : List Statement}
    (wellFormed : program.WellFormed) (valid : ∀ statement ∈ statements, statement.WellFormed) :
    (statements.foldl Program.extend program).WellFormed := by
  induction statements generalizing program with
  | nil => exact wellFormed
  | cons statement rest ih =>
      obtain ⟨first, others⟩ := List.forall_mem_cons.mp valid
      exact ih (wellFormed.extend first) others

/-- A label is declared in a program when it was before the statements or one of them declares
it. -/
theorem get?_foldl_extend_eq_none_iff {program : Program} {statements : List Statement}
    {name : String} :
    (statements.foldl extend program).labels.get? name = none ↔
      program.labels.get? name = none ∧ Statement.label name ∉ statements := by
  induction statements generalizing program with
  | nil => simp
  | cons statement rest ih =>
      rw [List.foldl_cons, ih, List.mem_cons, not_or]
      cases statement with
      | label other =>
          by_cases same : name = other
          · simp [extend, LabelTable.get?_insert, same]
          · simp [extend, LabelTable.get?_insert, same]
      | instruction given => simp [extend]

end Program

/-- A program that was read from a text is well-formed. -/
theorem Program.wellFormed_of_parse {text : String} {program : Program}
    (parsed : parse text = .ok program) : program.WellFormed := by
  obtain ⟨-, rfl⟩ := parse_eq_ok_iff.mp parsed
  refine wellFormed_empty.foldl_extend fun statement member => ?_
  obtain ⟨line, -, stated⟩ := List.mem_filterMap.mp member
  exact Statement.wellFormed_of_ofLine (Statement.ofLine?_eq_some_iff.mp stated)

/-- The program that lines make up. -/
def Program.ofLines (ls : List (List Char)) : Program :=
  ofStatements (ls.filterMap Statement.ofLine?)

/-- The labels of the program that lines make up are the ones that the lines declare. -/
theorem Program.get?_ofLines_eq_none_iff {ls : List (List Char)} {name : String} :
    (ofLines ls).labels.get? name = none ↔ ∀ line ∈ ls, ¬ Grammar.Declares line name.toList := by
  have absent : (∅ : Program).labels.get? name = none := rfl
  rw [ofLines, ofStatements, get?_foldl_extend_eq_none_iff, and_iff_right absent,
    List.mem_filterMap]
  simp only [not_exists, not_and, Statement.ofLine?_eq_some_iff, Statement.ofLine_eq_label_iff]

/-- The labels of a program that was read from a text are the ones that its lines declare. -/
theorem Program.get?_eq_none_iff_of_parse {text : String} {program : Program}
    (parsed : parse text = .ok program) {name : String} :
    program.labels.get? name = none ↔
      ∀ line ∈ lines text.toList, ¬ Grammar.Declares line name.toList := by
  obtain ⟨-, rfl⟩ := parse_eq_ok_iff.mp parsed
  exact get?_ofLines_eq_none_iff

/-! ## A source -/

/-- A source that counts down and then branches to a label that it does not declare. -/
def countdown : String :=
  "STR 3 A\nSTR +1 B\n> loop # counts down\nSUB B A\nBNE A B loop\nBNE A B nowhere\n"

/-- What `countdown` is read as. -/
def countdownProgram : Program where
  instructions := [⟨.str, ["3", "A"]⟩, ⟨.str, ["+1", "B"]⟩, ⟨.sub, ["B", "A"]⟩,
    ⟨.bne, ["A", "B", "loop"]⟩, ⟨.bne, ["A", "B", "nowhere"]⟩]
  labels := (∅ : LabelTable).insert "loop" 2

theorem parse_countdown : parse countdown = .ok countdownProgram := by
  decide +kernel

end SlotAsm
