import SlotAsm.Layout
import SlotAsm.Proofs.Concatenation

/-!
What the program of a text is made of. Its instructions are those of the instruction lines, and a
label names the number of instruction lines before the last line that declares it
(`Program.parts_of_parse`). Both are shown from the front of the text on: the program of a line and
of the lines after it joins the program of the line with theirs.
-/

namespace SlotAsm

open Text (lines)
open Grammar (Word Declares Instructs)

/-! ## One line -/

/-- Whether a line has code that is not the declaration of a label. -/
def isInstruction (line : List Char) : Bool :=
  codeOf line != [] && (codeOf line).head? != some labelMark

/-- The words of an instruction are those of the line that gives it. -/
theorem Grammar.Instructs.wordsOf_eq {line mnemonic : List Char} {words : List (List Char)}
    (instructs : Instructs line mnemonic words) (word : Word mnemonic) :
    wordsOf line = mnemonic :: words := by
  obtain ⟨before, rest, after, leading, -, spaced, trailing, whole⟩ := instructs
  rw [SlotAsm.wordsOf, takeWhile_commentMark, whole, List.append_assoc, List.append_assoc,
    Text.words_blanks_append leading,
    Text.words_word_append word (spaced.head?_append_isBlank trailing),
    Text.words_spaced_append spaced trailing]

namespace Statement

variable {line : List Char}

theorem isInstruction_of_ofLine_none (read : ofLine line = .ok none) :
    isInstruction line = false := by
  have code : codeOf line = [] := by
    rw [codeOf_eq]
    exact Text.trim_eq_nil_iff.mpr (ofLine_eq_none_iff.mp read)
  simp [isInstruction, code]

theorem isInstruction_of_ofLine_label {name : String}
    (read : ofLine line = .ok (some (.label name))) : isInstruction line = false := by
  rcases ofLine_eq_ok_some_iff.mp read with ⟨rest, code, -⟩ | ⟨-, instruction, -, same⟩
  · simp [isInstruction, code, labelMark]
  · cases same

theorem isInstruction_of_ofLine_instruction {given : Instruction}
    (read : ofLine line = .ok (some (.instruction given))) : isInstruction line = true := by
  rcases ofLine_eq_ok_some_iff.mp read with ⟨rest, -, declared⟩ | ⟨head, other, code, -⟩
  · cases (ofDeclaration_eq_ok_iff.mp declared).1
  · have nonempty : codeOf line ≠ [] := by
      intro empty
      rw [empty, Instruction.ofCode_eq_ok_iff] at code
      simp [Text.tokensFrom?] at code
    simp [isInstruction, nonempty, head, labelMark]

/-- The words of an instruction line are those of the instruction that it gives. -/
theorem wordsOf_of_ofLine_instruction {given : Instruction}
    (read : ofLine line = .ok (some (.instruction given))) :
    (wordsOf line).map String.ofList = given.operation.name :: given.tokens := by
  rw [(ofLine_eq_instruction_iff.mp read).wordsOf_eq given.operation.word_name]
  simp [Function.comp_def]

end Statement

namespace LabelTable

/-- The labels of a table. -/
def names (table : LabelTable) : List String :=
  table.toList.map (·.1)

theorem nodup_names (table : LabelTable) : table.names.Nodup :=
  List.pairwise_map.mpr (distinct_of_ascending table.ascending)

theorem mem_names_iff {table : LabelTable} {name : String} :
    name ∈ table.names ↔ table.get? name ≠ none := by
  rw [Option.ne_none_iff_exists', names, List.mem_map]
  constructor
  · intro listed
    rcases listed with ⟨⟨other, index⟩, member, rfl⟩
    exact ⟨index, (mem_iff_lookup table.ascending).mp member⟩
  · intro declared
    rcases declared with ⟨index, declared⟩
    exact ⟨(name, index), (mem_iff_lookup table.ascending).mpr declared, rfl⟩

end LabelTable

/-! ## The program of lines -/

namespace Program

@[simp] theorem instructions_empty : (∅ : Program).instructions = [] := rfl

@[simp] theorem labels_empty : (∅ : Program).labels = ∅ := rfl

@[simp] theorem length_empty : (∅ : Program).length = 0 := rfl

/-- A line in front of others. -/
theorem joins_ofLines (line : List Char) (others : List (List Char)) :
    Joins (ofLines [line]) (ofLines others) (ofLines (line :: others)) := by
  have split : (line :: others).filterMap Statement.ofLine? =
      [line].filterMap Statement.ofLine? ++ others.filterMap Statement.ofLine? := by
    rw [← List.filterMap_append, List.singleton_append]
  rw [ofLines, ofLines, ofLines, split]
  exact joins_ofStatements _ _

theorem ofLines_singleton {line : List Char} {stated : Option Statement}
    (read : Statement.ofLine line = .ok stated) :
    ofLines [line] = stated.elim ∅ (extend ∅) := by
  have here : Statement.ofLine? line = stated := by
    simp [Statement.ofLine?, read, Except.toOption]
  cases stated with
  | none => simp [ofLines, ofStatements, here]
  | some statement => simp [ofLines, ofStatements, here]

theorem instructions_ofLines {ls : List (List Char)}
    (readable : ∀ line ∈ ls, ∃ statement, Statement.ofLine line = .ok statement) :
    (ofLines ls).instructions.map (fun given => given.operation.name :: given.tokens) =
      (ls.filter isInstruction).map fun line => (wordsOf line).map String.ofList := by
  induction ls with
  | nil => rfl
  | cons line others ih =>
    obtain ⟨⟨stated, read⟩, rest⟩ := List.forall_mem_cons.mp readable
    rw [(joins_ofLines line others).instructions, List.map_append, ih rest, ofLines_singleton read]
    match stated with
    | none => simp [Statement.isInstruction_of_ofLine_none read]
    | some (.label name) => simp [extend, Statement.isInstruction_of_ofLine_label read]
    | some (.instruction given) =>
      simp [extend, Statement.isInstruction_of_ofLine_instruction read,
        Statement.wordsOf_of_ofLine_instruction read]

theorem length_ofLines {ls : List (List Char)}
    (readable : ∀ line ∈ ls, ∃ statement, Statement.ofLine line = .ok statement) :
    (ofLines ls).length = ls.countP isInstruction := by
  have lengths := congrArg List.length (instructions_ofLines readable)
  rwa [List.length_map, List.length_map, ← List.countP_eq_length_filter] at lengths

/-- A label of a single line names the line's own instruction, or what comes after it. -/
theorem get?_ofLines_singleton_eq_some_iff {line : List Char} {stated : Option Statement}
    (read : Statement.ofLine line = .ok stated) {name : String} {index : Nat} :
    (ofLines [line]).labels.get? name = some index ↔ Declares line name.toList ∧ index = 0 := by
  rw [ofLines_singleton read, ← Statement.ofLine_eq_label_iff, read]
  match stated with
  | none => simp
  | some (.label other) =>
    by_cases same : name = other
    · simp [extend, LabelTable.get?_insert, same, eq_comm]
    · simp [extend, LabelTable.get?_insert, same, Ne.symm same]
  | some (.instruction given) => simp [extend]

/-- A label names the number of instruction lines before the last line that declares it. -/
theorem get?_ofLines_eq_some_iff {ls : List (List Char)}
    (readable : ∀ line ∈ ls, ∃ statement, Statement.ofLine line = .ok statement)
    {name : String} {index : Nat} :
    (ofLines ls).labels.get? name = some index ↔
      ∃ earlier line later, ls = earlier ++ line :: later ∧ Declares line name.toList ∧
        (∀ other ∈ later, ¬ Declares other name.toList) ∧
        index = earlier.countP isInstruction := by
  induction ls generalizing index with
  | nil =>
    refine iff_of_false nofun ?_
    intro found
    rcases found with ⟨earlier, line, later, split, -⟩
    cases earlier <;> cases split
  | cons line others ih =>
    obtain ⟨⟨stated, read⟩, rest⟩ := List.forall_mem_cons.mp readable
    have length : (ofLines [line]).length = if isInstruction line then 1 else 0 := by
      rw [length_ofLines (List.forall_mem_singleton.mpr ⟨stated, read⟩), List.countP_singleton]
    rw [(joins_ofLines line others).labels, length]
    cases found : (ofLines others).labels.get? name with
    | none =>
      have undeclared := get?_ofLines_eq_none_iff.mp found
      rw [Option.map_none, Option.none_or, get?_ofLines_singleton_eq_some_iff read]
      constructor
      · intro here
        rcases here with ⟨declares, rfl⟩
        exact ⟨[], line, others, rfl, declares, undeclared, rfl⟩
      · intro found
        rcases found with ⟨earlier, last, later, split, declares, -, rfl⟩
        rcases List.cons_eq_append_iff.mp split with ⟨rfl, same⟩ | ⟨earlier, rfl, same⟩
        · cases same
          exact ⟨declares, rfl⟩
        · exact absurd declares (undeclared last (by simp [same]))
    | some index =>
      rw [Option.map_some, Option.some_or, Option.some.injEq]
      constructor
      · intro same
        subst same
        obtain ⟨earlier, last, later, rfl, declares, final, rfl⟩ := (ih rest).mp found
        exact ⟨line :: earlier, last, later, rfl, declares, final, List.countP_cons.symm⟩
      · intro found
        rcases found with ⟨earlier, last, later, split, declares, final, rfl⟩
        rcases List.cons_eq_append_iff.mp split with ⟨rfl, same⟩ | ⟨earlier, rfl, same⟩
        · -- The label would be declared among the other lines only after its last declaration.
          cases same
          rw [get?_ofLines_eq_none_iff.mpr final] at found
          cases found
        · have counted := (ih rest).mpr ⟨earlier, last, later, same, declares, final, rfl⟩
          rw [found, Option.some.injEq] at counted
          rw [counted, List.countP_cons]

/-- What a program is made of that was read from a text: the instructions of the instruction lines,
and for each label that a line declares the number of instruction lines before the last line that
declares it. -/
theorem parts_of_parse {text : String} {program : Program} (parsed : parse text = .ok program) :
    program.instructions.map (fun given => given.operation.name :: given.tokens) =
      ((lines text.toList).filter isInstruction).map
        (fun line => (wordsOf line).map String.ofList) ∧
    (∀ label index, program.labels.get? label = some index ↔
      ∃ earlier line later, lines text.toList = earlier ++ line :: later ∧
        Declares line label.toList ∧ (∀ other ∈ later, ¬ Declares other label.toList) ∧
        index = earlier.countP isInstruction) ∧
    ∃ names : List String, names.Nodup ∧
      (∀ name, name ∈ names ↔ ∃ line ∈ lines text.toList, Declares line name.toList) ∧
      program.labels.size = names.length := by
  have undeclared : ∀ name, program.labels.get? name = none ↔
      ∀ line ∈ lines text.toList, ¬ Declares line name.toList := fun name =>
    get?_eq_none_iff_of_parse parsed
  obtain ⟨readable, rfl⟩ := parse_eq_ok_iff.mp parsed
  refine ⟨instructions_ofLines readable, fun label index => get?_ofLines_eq_some_iff readable, ?_⟩
  refine ⟨_, LabelTable.nodup_names _, fun name => ?_, (List.length_map _).symm⟩
  rw [LabelTable.mem_names_iff, Ne, undeclared]
  simp

/-- Twice the same source: the second declaration of its label is the last one. -/
theorem parts_of_parse_countdown_twice :
    ∃ program, parse (countdown ++ countdown) = .ok program ∧
      program.labels.get? "loop" = some 7 ∧
      ∃ earlier line later,
        lines (countdown ++ countdown).toList = earlier ++ line :: later ∧
        Declares line "loop".toList ∧ (∀ other ∈ later, ¬ Declares other "loop".toList) ∧
        7 = earlier.countP isInstruction := by
  have terminated : Text.Terminated countdown.toList := by decide
  obtain ⟨program, parsed, joins⟩ := joins_of_parse terminated parse_countdown parse_countdown
  have declared : program.labels.get? "loop" = some 7 := (joins.labels "loop").trans (by decide)
  obtain ⟨-, labels, -⟩ := parts_of_parse parsed
  exact ⟨program, parsed, declared, (labels "loop" 7).mp declared⟩

end Program

end SlotAsm
