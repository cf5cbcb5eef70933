import SlotAsm.Proofs.Reading

/-!
Writing a program and reading it back. `Program.statements` lists what the lines of a written
program state. Making a program of those statements again gives the program without the labels
beyond its end, for any program (`Program.ofStatements_statements`); when its tokens and labels can
be written at all, its lines are read as those statements (`Program.parse_text_eq`). So writing and
reading are inverse on the well-formed programs, which are the ones that texts have.
-/

namespace SlotAsm

open Grammar (Blanks Word Spaced blanks_nil)

/-! ## The statements of a program -/

/-- A statement as a line of source. -/
def Statement.text : Statement → String
  | .label name => String.singleton labelMark ++ name
  | .instruction given => given.text

namespace LabelTable

/-- The table with labels mapped to an index, one after another. -/
theorem get?_foldl_insert (table : LabelTable) (names : List String) (index : Nat)
    (label : String) :
    (names.foldl (fun table name => table.insert name index) table).get? label =
      if label ∈ names then some index else table.get? label := by
  induction names generalizing table with
  | nil => rfl
  | cons name names ih =>
      rw [List.foldl_cons, ih, get?_insert]
      by_cases later : label ∈ names
      · simp [later]
      · simp [later]

theorem get?_upTo (table : LabelTable) (bound : Nat) (label : String) :
    (table.upTo bound).get? label = (table.get? label).filter (· ≤ bound) := by
  apply Option.ext
  intro index
  rw [get?, ← mem_iff_lookup (table.upTo bound).ascending, Option.filter_eq_some_iff, get?,
    ← mem_iff_lookup table.ascending]
  simp [upTo]

theorem labelsAt_upTo (table : LabelTable) {bound index : Nat} (within : index ≤ bound) :
    (table.upTo bound).labelsAt index = table.labelsAt index := by
  unfold labelsAt upTo
  rw [List.filter_filter]
  congr 1
  refine List.filter_congr fun entry _ => ?_
  by_cases here : entry.2 = index
  · simp [here, within]
  · simp [here]

/-- A copy of the labels below an index becomes one of the labels up to it. -/
theorem get?_foldl_labelsAt {table copy : LabelTable} {index : Nat}
    (copied : ∀ label, copy.get? label = (table.get? label).filter (· < index)) (label : String) :
    ((table.labelsAt index).foldl (fun table name => table.insert name index) copy).get? label =
      (table.get? label).filter (· < index + 1) := by
  rw [get?_foldl_insert, copied]
  by_cases here : label ∈ table.labelsAt index
  · rw [if_pos here, mem_labelsAt_iff.mp here]
    simp [Option.filter]
  · rw [if_neg here]
    cases found : table.get? label with
    | none => rfl
    | some target =>
        have elsewhere : target ≠ index := by
          intro same
          subst same
          exact here (mem_labelsAt_iff.mpr found)
        have same : target < index ↔ target < index + 1 := by omega
        simp only [Option.filter, decide_eq_decide.mpr same]

end LabelTable

namespace Program

/-- What the lines for one index state: the labels of the index, then its instruction. -/
def statementsAt (program : Program) (index : Nat) : List Statement :=
  (program.labels.labelsAt index).map .label ++ (program.get? index).toList.map .instruction

/-- What the lines of a written program state. -/
def statements (program : Program) : List Statement :=
  (List.range (program.length + 1)).flatMap program.statementsAt

theorem sourceLines_eq (program : Program) :
    program.sourceLines = program.statements.map Statement.text := by
  have linesAt : ∀ index,
      program.linesAt index = (program.statementsAt index).map Statement.text := by
    intro index
    simp [Program.linesAt, statementsAt, Function.comp_def, Statement.text]
  rw [sourceLines, statements, List.map_flatMap, funext linesAt]

theorem foldl_extend_labels (program : Program) (names : List String) :
    (names.map Statement.label).foldl extend program =
      { program with
        labels := names.foldl (fun table name => table.insert name program.length)
          program.labels } := by
  induction names generalizing program with
  | nil => rfl
  | cons name names ih =>
      rw [List.map_cons, List.foldl_cons, ih, List.foldl_cons]
      rfl

/-- The copy of a program as far as the statements for the indices below `index` make it up. -/
structure CopiedBelow (program : Program) (index : Nat) (copy : Program) : Prop where
  instructions : copy.instructions = program.instructions.take index
  labels : ∀ label, copy.labels.get? label = (program.labels.get? label).filter (· < index)

theorem copiedBelow_zero (program : Program) : program.CopiedBelow 0 ∅ where
  instructions := rfl
  labels label := by
    cases program.labels.get? label <;> rfl

/-- The statements for an index copy its labels, which then name the end of the copy, and its
instruction. -/
theorem CopiedBelow.foldl_statementsAt {program copy : Program} {index : Nat}
    (copied : program.CopiedBelow index copy) (within : index ≤ program.length) :
    program.CopiedBelow (index + 1) ((program.statementsAt index).foldl extend copy) := by
  have here : copy.length = index := by
    rw [length, copied.instructions, List.length_take]
    exact Nat.min_eq_left within
  have labels := LabelTable.get?_foldl_labelsAt copied.labels
  rw [statementsAt, List.foldl_append, foldl_extend_labels, here]
  cases found : program.get? index with
  | none =>
      refine ⟨?_, labels⟩
      have ended := List.getElem?_eq_none_iff.mp found
      rw [Option.toList_none, List.map_nil, List.foldl_nil, copied.instructions,
        List.take_of_length_le ended, List.take_of_length_le (Nat.le_succ_of_le ended)]
  | some given =>
      refine ⟨?_, labels⟩
      simp only [Option.toList_some, List.map_cons, List.map_nil, List.foldl_cons, List.foldl_nil,
        extend, copied.instructions, List.take_add_one]
      rw [show program.instructions[index]? = some given from found, Option.toList_some]

theorem copiedBelow_foldl_statements (program : Program) {count : Nat}
    (within : count ≤ program.length + 1) :
    program.CopiedBelow count
      (((List.range count).flatMap program.statementsAt).foldl extend ∅) := by
  induction count with
  | zero => exact program.copiedBelow_zero
  | succ count ih =>
      rw [List.range_succ, List.flatMap_append, List.foldl_append, List.flatMap_singleton]
      exact (ih (by omega)).foldl_statementsAt (by omega)

/-- The statements of a program make it up again, but for the labels beyond its end. -/
theorem ofStatements_statements (program : Program) :
    ofStatements program.statements = program.withinEnd := by
  have copied := program.copiedBelow_foldl_statements (Nat.le_refl _)
  have instructions : (ofStatements program.statements).instructions = program.instructions :=
    copied.instructions.trans (List.take_of_length_le (Nat.le_succ _))
  have labels : (ofStatements program.statements).labels = program.labels.upTo program.length := by
    apply LabelTable.ext_get?
    intro label
    rw [LabelTable.get?_upTo]
    simpa only [Nat.lt_succ_iff, ofStatements, statements] using copied.labels label
  calc ofStatements program.statements
      = ⟨(ofStatements program.statements).instructions,
          (ofStatements program.statements).labels⟩ := rfl
    _ = program.withinEnd := by rw [instructions, labels]; rfl

end Program

/-! ## The lines of a written program -/

theorem Instruction.toList_text (instruction : Instruction) :
    instruction.text.toList =
      instruction.operation.name.toList ++
        instruction.tokens.flatMap fun token => ' ' :: token.toList := by
  simp [text, String.toList_join, List.flatMap_map]

/-- Tokens with a blank in front of each are spaced words. -/
theorem Grammar.spaced_flatMap {tokens : List String}
    (words : ∀ token ∈ tokens, Word token.toList) :
    Spaced (tokens.map String.toList) (tokens.flatMap fun token => ' ' :: token.toList) := by
  induction tokens with
  | nil => exact .nil
  | cons token tokens ih =>
      obtain ⟨first, others⟩ := List.forall_mem_cons.mp words
      have blank : Blanks [' '] := List.forall_mem_singleton.mpr (by decide)
      exact .cons (List.cons_ne_nil _ _) blank first (ih others)

namespace Statement

/-- A statement is written with spaces, label marks and characters that are not reserved. -/
theorem mem_text {statement : Statement} (valid : statement.WellFormed) :
    ∀ c ∈ statement.text.toList, c = ' ' ∨ c = '>' ∨ isReserved c = false := by
  cases statement with
  | label name =>
      have free := checkLabel_eq_ok_iff.mp valid
      intro c member
      rw [text, String.toList_append, String.toList_singleton, List.singleton_append,
        List.mem_cons] at member
      exact .inr (member.imp_right (free c))
  | instruction given =>
      obtain ⟨-, mnemonic⟩ := given.operation.name_ne_nil_and_not_reserved
      intro c member
      rw [text, Instruction.toList_text, List.mem_append, List.mem_flatMap] at member
      obtain inside | ⟨token, listed, inside⟩ := member
      · exact .inr (.inr (mnemonic c inside))
      · rcases List.mem_cons.mp inside with rfl | inside
        · exact .inl rfl
        · obtain ⟨operand, paired⟩ := Instruction.exists_operand_of_mem valid.arity listed
          exact .inr (.inr (OperandKind.not_reserved_of_check (valid.checked _ paired) c inside))

/-- A written statement is one line. -/
theorem plain_text {statement : Statement} (valid : statement.WellFormed) :
    '\n' ∉ statement.text.toList ∧ statement.text.toList.getLast? ≠ some '\r' := by
  refine ⟨fun member => ?_, fun last => ?_⟩
  · exact absurd (mem_text valid _ member) (by decide)
  · exact absurd (mem_text valid _ (List.mem_of_getLast? last)) (by decide)

/-- A written statement has no comment. -/
theorem takeWhile_text {statement : Statement} (valid : statement.WellFormed) :
    statement.text.toList.takeWhile (· ≠ '#') = statement.text.toList := by
  refine List.takeWhile_eq_self_iff.mpr fun c member => ?_
  rw [decide_eq_true_eq]
  intro same
  subst same
  exact absurd (mem_text valid _ member) (by decide)

/-- A written statement is read back. -/
theorem ofLine_text {statement : Statement} (valid : statement.WellFormed) :
    ofLine statement.text.toList = .ok (some statement) := by
  have whole := takeWhile_text valid
  cases statement with
  | label name =>
      have free : Grammar.LabelName name.toList := fun c member =>
        have solid := isReserved_eq_false_iff.mp (checkLabel_eq_ok_iff.mp valid c member)
        ⟨solid.1, solid.2.2⟩
      refine ofLine_eq_label_iff.mpr ⟨[], [], [], blanks_nil, blanks_nil, free, blanks_nil, ?_⟩
      rw [whole]
      simp [text, labelMark]
  | instruction given =>
      obtain ⟨phrase, -⟩ := Instruction.wellFormed_iff_phrase.mp valid
      have words : ∀ token ∈ given.tokens, Word token.toList := by
        intro token listed
        obtain ⟨operand, paired⟩ := Instruction.exists_operand_of_mem valid.arity listed
        have checked := valid.checked _ paired
        exact (OperandKind.check_eq_ok_iff.mp ⟨valid.nonempty token listed, checked⟩).1.word
      refine ofLine_eq_instruction_iff.mpr
        ⟨[], _, [], blanks_nil, phrase, Grammar.spaced_flatMap words, blanks_nil, ?_⟩
      rw [whole, text, Instruction.toList_text]
      simp

end Statement

namespace Program

/-- The statements of a program are the declarations of its labels and its instructions. -/
theorem wellFormed_of_mem_statements {program : Program}
    (instructions : ∀ instruction ∈ program.instructions, instruction.WellFormed)
    (labels : ∀ entry ∈ program.labels.toList, checkLabel entry.1 = .ok ()) :
    ∀ statement ∈ program.statements, statement.WellFormed := by
  intro statement member
  obtain ⟨index, -, member⟩ := List.mem_flatMap.mp member
  rcases List.mem_append.mp member with member | member
  · obtain ⟨name, listed, rfl⟩ := List.mem_map.mp member
    have entry := LabelTable.mem_labelsAt_iff.mp listed
    exact labels (name, index) ((LabelTable.mem_iff_lookup program.labels.ascending).mpr entry)
  · obtain ⟨instruction, listed, rfl⟩ := List.mem_map.mp member
    exact instructions instruction (List.mem_of_getElem? (Option.mem_toList.mp listed))

/-- A program whose tokens and labels can be written is read back without the labels beyond its
end. -/
theorem parse_text_eq {program : Program}
    (instructions : ∀ instruction ∈ program.instructions, instruction.WellFormed)
    (labels : ∀ entry ∈ program.labels.toList, checkLabel entry.1 = .ok ()) :
    parse program.text = .ok program.withinEnd := by
  have valid := wellFormed_of_mem_statements instructions labels
  have written : Text.lines program.text.toList =
      program.statements.map fun statement => statement.text.toList := by
    rw [text, String.toList_ofList, sourceLines_eq, List.map_map]
    refine Text.lines_unlines fun line member => ?_
    obtain ⟨statement, listed, rfl⟩ := List.mem_map.mp member
    exact Statement.plain_text (valid statement listed)
  have stated : program.statements.filterMap
      (Statement.ofLine? ∘ fun statement => statement.text.toList) = program.statements := by
    refine (List.filterMap_congr fun statement listed => ?_).trans List.filterMap_some
    exact Statement.ofLine?_eq_some_iff.mpr (Statement.ofLine_text (valid statement listed))
  rw [parse_eq_ok_iff, written, List.filterMap_map]
  refine ⟨fun line member => ?_, ?_⟩
  · obtain ⟨statement, listed, rfl⟩ := List.mem_map.mp member
    exact ⟨_, Statement.ofLine_text (valid statement listed)⟩
  · rw [← ofStatements_statements, stated]

/-- The labels beyond the end are the only ones that a well-formed program cannot have. -/
theorem WellFormed.withinEnd_eq {program : Program} (wellFormed : program.WellFormed) :
    program.withinEnd = program := by
  have labels : program.labels.upTo program.length = program.labels := by
    apply LabelTable.ext_get?
    intro label
    rw [LabelTable.get?_upTo]
    cases found : program.labels.get? label with
    | none => rfl
    | some index =>
        simp only [Option.filter, decide_eq_true (wellFormed.get?_le found), if_true]
  rw [Program.withinEnd, labels]

/-- What is written for a well-formed program is read as that program. -/
theorem WellFormed.parse_text {program : Program} (wellFormed : program.WellFormed) :
    parse program.text = .ok program := by
  rw [parse_text_eq wellFormed.instructions wellFormed.labels, wellFormed.withinEnd_eq]

/-- Labels beyond the end are not written. -/
theorem text_withinEnd (program : Program) : program.withinEnd.text = program.text := by
  have statements : program.withinEnd.statements = program.statements := by
    refine List.flatMap_congr fun index member => ?_
    have within : index ≤ program.length := Nat.lt_succ_iff.mp (List.mem_range.mp member)
    simp only [statementsAt, withinEnd, LabelTable.labelsAt_upTo _ within, get?]
  rw [text, text, sourceLines_eq, sourceLines_eq, statements]

/-- Writing and reading are inverse. The programs that texts have are well-formed, and what is
written for a well-formed program is read as that program; when the labels beyond the end are all
that keeps a program from being well-formed, it is read without them and written alike again. -/
theorem text_parse_inverse :
    (∀ text program, parse text = .ok program →
      program.WellFormed ∧ parse program.text = .ok program) ∧
    (∀ program : Program, program.WellFormed → parse program.text = .ok program) ∧
    ∀ program : Program,
      (∀ instruction ∈ program.instructions, instruction.WellFormed) →
      (∀ entry ∈ program.labels.toList, checkLabel entry.1 = .ok ()) →
      ∃ again, parse program.text = .ok again ∧ again.text = program.text ∧
        again.instructions = program.instructions ∧
        ∀ label, again.labels.get? label =
          (program.labels.get? label).filter (· ≤ program.length) := by
  have written : ∀ program : Program, program.WellFormed → parse program.text = .ok program :=
    fun program wellFormed => by
      rw [parse_text_eq wellFormed.instructions wellFormed.labels, wellFormed.withinEnd_eq]
  refine ⟨fun text program parsed => ?_, written, fun program instructions labels => ?_⟩
  · have wellFormed := wellFormed_of_parse parsed
    exact ⟨wellFormed, written program wellFormed⟩
  · exact ⟨program.withinEnd, parse_text_eq instructions labels, text_withinEnd program, rfl,
      program.labels.get?_upTo program.length⟩

/-- A program with a label beyond its end, the empty label and a label at its end. -/
theorem text_parse_inverse_label_beyond_end :
    ∃ program : Program, ∃ again : Program,
      (∀ instruction ∈ program.instructions, instruction.WellFormed) ∧
      (∀ entry ∈ program.labels.toList, checkLabel entry.1 = .ok ()) ∧
      program.labels.get? "far" = some 9 ∧
      program.text = ">\nSTR +007 A\nBNE A A end\n>end\n" ∧
      parse program.text = .ok again ∧ again.WellFormed ∧ parse again.text = .ok again ∧
      again.labels.get? "" = some 0 ∧ again.labels.get? "end" = some 2 ∧
      again.labels.get? "far" = none := by
  let program : Program :=
    ⟨[⟨.str, ["+007", "A"]⟩, ⟨.bne, ["A", "A", "end"]⟩], .ofList [("end", 2), ("", 0), ("far", 9)]⟩
  have instructions : ∀ instruction ∈ program.instructions, instruction.WellFormed := by decide
  have labels : ∀ entry ∈ program.labels.toList, checkLabel entry.1 = .ok () := by decide
  obtain ⟨ofText, ofWellFormed, ofLabels⟩ := text_parse_inverse
  obtain ⟨again, parsed, -, -, kept⟩ := ofLabels program instructions labels
  have wellFormed := (ofText program.text again parsed).1
  refine ⟨program, again, instructions, labels, by decide, by decide, parsed, wellFormed,
    ofWellFormed again wellFormed, ?_, ?_, ?_⟩
  · rw [kept]
    decide
  · rw [kept]
    decide
  · rw [kept]
    decide

end Program

end SlotAsm
