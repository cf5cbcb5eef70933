import SlotAsm.Proofs.Tokens
import SlotAsm.Proofs.Words
import SlotAsm.Statement

/-!
What a line states, against the forms of lines in the grammar. `Grammar.Declares` and
`Grammar.Instructs` say over the characters of a line that it declares a label or gives an
instruction; `Statement.ofLine_eq_label_iff`, `ofLine_eq_instruction_iff` and `ofLine_eq_none_iff`
say that a line is read as what it is, so that it is read at all exactly when the grammar has it.
-/

namespace SlotAsm

open Text
open Grammar (Blanks Word Spaced Phrase LabelName)

/-! ## The forms of a line -/

namespace Grammar

/-- The line declares the label of the given name. -/
def Declares (line name : List Char) : Prop :=
  ∃ before between after, Blanks before ∧ Blanks between ∧ LabelName name ∧ Blanks after ∧
    line.takeWhile (· ≠ '#') = before ++ '>' :: between ++ name ++ after

/-- The line gives the instruction of the given mnemonic and words. -/
def Instructs (line mnemonic : List Char) (words : List (List Char)) : Prop :=
  ∃ before rest after, Blanks before ∧ Phrase mnemonic words ∧ Spaced words rest ∧ Blanks after ∧
    line.takeWhile (· ≠ '#') = before ++ mnemonic ++ rest ++ after

theorem line_iff {line : List Char} :
    Line line ↔ Blanks (line.takeWhile (· ≠ '#')) ∨ (∃ name, Declares line name) ∨
      ∃ mnemonic words, Instructs line mnemonic words := by
  unfold Line
  constructor
  · intro code
    generalize shape : line.takeWhile (· ≠ '#') = chars at code
    cases code with
    | blank blanks => exact .inl blanks
    | declaration leading inner name trailing =>
        exact .inr (.inl ⟨_, _, _, _, leading, inner, name, trailing, shape⟩)
    | instruction leading phrase spaced trailing =>
        exact .inr (.inr ⟨_, _, _, _, _, leading, phrase, spaced, trailing, shape⟩)
  · intro form
    rcases form with blanks |
      ⟨name, before, between, after, leading, inner, valid, trailing, shape⟩ |
      ⟨mnemonic, words, before, rest, after, leading, phrase, spaced, trailing, shape⟩
    · exact .blank blanks
    · rw [shape]
      exact .declaration leading inner valid trailing
    · rw [shape]
      exact .instruction leading phrase spaced trailing

/-- What stands before the first comment mark holds none. -/
theorem not_mem_takeWhile_comment (line : List Char) : '#' ∉ line.takeWhile (· ≠ '#') := by
  intro member
  simpa using List.mem_takeWhile_imp member

/-- Each of the spaced words is a word whose characters stand in the line. -/
theorem Spaced.word_and_subset {words : List (List Char)} {rest : List Char}
    (spaced : Spaced words rest) : ∀ word ∈ words, Word word ∧ word ⊆ rest := by
  induction spaced with
  | nil => exact fun word member => absurd member List.not_mem_nil
  | @cons gap word rest words _ _ valid _ ih =>
      refine List.forall_mem_cons.mpr ⟨⟨valid, ?_⟩, fun other member => ?_⟩
      · intro c member
        simp [member]
      · exact ⟨(ih other member).1, fun c inside => by simp [(ih other member).2 inside]⟩

/-- A label that a line declares passes the check, since a comment mark would have ended it. -/
theorem Declares.checkLabel {line : List Char} {name : String}
    (declares : Declares line name.toList) : checkLabel name = .ok () := by
  obtain ⟨before, between, after, -, -, valid, -, whole⟩ := declares
  refine checkLabel_eq_ok_iff.mpr fun c member =>
    isReserved_eq_false_iff.mpr ⟨(valid c member).1, ?_, (valid c member).2⟩
  intro same
  subst same
  apply not_mem_takeWhile_comment line
  rw [whole]
  simp [member]

/-- An instruction that a line gives is well-formed. -/
theorem Instructs.wellFormed {line : List Char} {instruction : Instruction}
    (instructs : Instructs line instruction.operation.name.toList
      (instruction.tokens.map String.toList)) : instruction.WellFormed := by
  obtain ⟨before, rest, after, -, phrase, spaced, -, whole⟩ := instructs
  refine Instruction.wellFormed_iff_phrase.mpr ⟨phrase, fun token member inside => ?_⟩
  apply not_mem_takeWhile_comment line
  have within := (spaced.word_and_subset _ (List.mem_map_of_mem member)).2 inside
  rw [whole]
  simp [within]

end Grammar

/-! ## Reading the code of a line -/

theorem takeWhile_commentMark (line : List Char) :
    line.takeWhile (· != commentMark) = line.takeWhile (· ≠ '#') := by
  unfold commentMark
  congr 1
  funext c
  by_cases mark : c = '#' <;> simp [mark]

theorem codeOf_eq (line : List Char) : codeOf line = trim (line.takeWhile (· ≠ '#')) := by
  rw [codeOf, takeWhile_commentMark]

namespace Instruction

theorem firstError?_eq_none_iff {instruction : Instruction} :
    instruction.firstError? = none ↔
      ∀ pair ∈ instruction.operands, pair.1.kind.check pair.2 = .ok () := by
  unfold firstError?
  rw [List.findSome?_eq_none_iff]
  refine forall₂_congr fun pair _ => ?_
  cases checked : pair.1.kind.check pair.2 <;> simp [checked]

theorem ofWords_eq_ok_iff {line : String} {words : List String} {instruction : Instruction} :
    ofWords line words = .ok instruction ↔
      words = instruction.operation.name :: instruction.tokens ∧
        instruction.tokens.length = instruction.operation.arity ∧
        ∀ pair ∈ instruction.operands, pair.1.kind.check pair.2 = .ok () := by
  constructor
  · intro read
    unfold ofWords at read
    split at read
    · cases read
    · next name tokens =>
      split at read
      · cases read
      · next operation named =>
        split at read
        · cases read
        · next arity =>
          split at read
          · cases read
          · next clean =>
            obtain rfl := Except.ok.inj read
            obtain rfl := Operation.ofName?_eq_some_iff.mp named
            exact ⟨rfl, not_not.mp arity, firstError?_eq_none_iff.mp clean⟩
  · intro formed
    rcases formed with ⟨rfl, arity, checked⟩
    have clean : firstError? instruction = none := firstError?_eq_none_iff.mpr checked
    simp only [ofWords, Operation.ofName?_name]
    rw [if_neg (not_not.mpr arity), clean]

theorem map_ofList_eq_iff {words : List (List Char)} {texts : List String} :
    words.map String.ofList = texts ↔ words = texts.map String.toList := by
  constructor
  · intro same
    subst same
    simp [Function.comp_def]
  · intro same
    subst same
    simp [Function.comp_def]

/-- Code is read as the instruction whose mnemonic and tokens are its words. -/
theorem ofCode_eq_ok_iff {code : List Char} {instruction : Instruction} :
    ofCode code = .ok instruction ↔
      tokensFrom? code =
        some (instruction.operation.name.toList :: instruction.tokens.map String.toList) ∧
      instruction.tokens.length = instruction.operation.arity ∧
      ∀ pair ∈ instruction.operands, pair.1.kind.check pair.2 = .ok () := by
  unfold ofCode tokens?
  by_cases empty : code = []
  · subst empty
    simp [tokensFrom?, ofWords]
  · rw [if_neg empty]
    cases tokensFrom? code with
    | none => simp
    | some words =>
        simp only [ofWords_eq_ok_iff, map_ofList_eq_iff, List.map_cons, Option.some.injEq]

end Instruction

namespace Statement

theorem ofDeclaration_eq_ok_iff {rest : List Char} {statement : Statement} :
    ofDeclaration rest = .ok statement ↔
      statement = .label (String.ofList (trim rest)) ∧
        checkLabel (String.ofList (trim rest)) = .ok () := by
  unfold ofDeclaration
  cases checked : checkLabel (String.ofList (trim rest)) with
  | error cause => simp [checked]
  | ok => simp [checked, eq_comm]

/-- What the code of a line is read as, by its first character. -/
theorem ofLine_eq_ok_some_iff {line : List Char} {statement : Statement} :
    ofLine line = .ok (some statement) ↔
      (∃ rest, codeOf line = '>' :: rest ∧ ofDeclaration rest = .ok statement) ∨
        ((codeOf line).head? ≠ some '>' ∧
          ∃ instruction, Instruction.ofCode (codeOf line) = .ok instruction ∧
            statement = .instruction instruction) := by
  unfold ofLine
  cases shape : codeOf line with
  | nil => simp [Instruction.ofCode_eq_ok_iff, tokensFrom?]
  | cons c rest =>
      by_cases mark : c = '>'
      · subst mark
        have declaration : ofCode ('>' :: rest) = ofDeclaration rest := by
          simp [ofCode, labelMark]
        rw [if_neg (List.cons_ne_nil _ _), declaration]
        cases declared : ofDeclaration rest <;> simp [declared, Except.map]
      · have instruction : ofCode (c :: rest) =
            (Instruction.ofCode (c :: rest)).map .instruction := by
          simp [ofCode, labelMark, mark]
        rw [if_neg (List.cons_ne_nil _ _), instruction]
        cases Instruction.ofCode (c :: rest) <;> simp [Except.map, mark, eq_comm]

/-- A line that holds only blanks before its comment states nothing, and no other line is read as
one that states nothing. -/
theorem ofLine_eq_none_iff {line : List Char} :
    ofLine line = .ok none ↔ Blanks (line.takeWhile (· ≠ '#')) := by
  rw [← trim_eq_nil_iff, ← codeOf_eq]
  unfold ofLine
  by_cases empty : codeOf line = []
  · simp [empty]
  · rw [if_neg empty]
    cases ofCode (codeOf line) <;> simp [Except.map, empty]

/-- A line is read as the declaration of a label exactly when it declares that label. -/
theorem ofLine_eq_label_iff {line : List Char} {name : String} :
    ofLine line = .ok (some (.label name)) ↔ Grammar.Declares line name.toList := by
  have mark : isBlank '>' = false := by decide
  constructor
  · intro read
    obtain ⟨rest, shape, declared⟩ | ⟨-, instruction, -, same⟩ := ofLine_eq_ok_some_iff.mp read
    · obtain ⟨same, checked⟩ := ofDeclaration_eq_ok_iff.mp declared
      obtain rfl := Statement.label.inj same
      -- The line is trimmed before the mark is looked for, and what follows the mark once more.
      obtain ⟨-, before, after, leading, trailing, whole⟩ :=
        exists_trim (line.takeWhile (· ≠ '#'))
      obtain ⟨-, between, behind, inner, ending, tail⟩ := exists_trim rest
      rw [← codeOf_eq, shape] at whole
      have free := checkLabel_eq_ok_iff.mp checked
      rw [String.toList_ofList] at free ⊢
      generalize trim rest = name at free tail ⊢
      subst tail
      refine ⟨before, between, behind ++ after, leading, inner, ?_, ending.append trailing, ?_⟩
      · exact fun c member => (isReserved_eq_false_iff.mp (free c member)).imp_right And.right
      · rw [whole]
        simp
    · cases same
  · intro declares
    have checked := declares.checkLabel
    obtain ⟨before, between, after, leading, inner, valid, trailing, whole⟩ := declares
    -- No character of the name is blank, so trimming finds all of it and nothing else.
    have tight : Tight name.toList :=
      ⟨fun c first => (valid c (List.mem_of_head? first)).1,
        fun c last => (valid c (List.mem_of_getLast? last)).1⟩
    obtain ⟨tail, shape, core⟩ :=
      exists_trim_append_cons leading mark (between ++ name.toList ++ after)
    rw [trim_append inner trailing tight] at core
    have shape' : codeOf line = '>' :: tail := by
      rw [codeOf_eq, whole, ← shape]
      simp
    refine ofLine_eq_ok_some_iff.mpr (.inl ⟨tail, shape', ?_⟩)
    rw [ofDeclaration_eq_ok_iff, core, String.ofList_toList]
    exact ⟨rfl, checked⟩

/-- A line is read as an instruction exactly when it gives that instruction. -/
theorem ofLine_eq_instruction_iff {line : List Char} {instruction : Instruction} :
    ofLine line = .ok (some (.instruction instruction)) ↔
      Grammar.Instructs line instruction.operation.name.toList
        (instruction.tokens.map String.toList) := by
  obtain ⟨nonempty, free⟩ := instruction.operation.name_ne_nil_and_not_reserved
  have mnemonic := instruction.operation.word_name
  constructor
  · intro read
    obtain ⟨rest, -, declared⟩ | ⟨-, other, code, same⟩ := ofLine_eq_ok_some_iff.mp read
    · cases (ofDeclaration_eq_ok_iff.mp declared).1
    · obtain rfl := Statement.instruction.inj same
      obtain ⟨words, arity, checked⟩ := Instruction.ofCode_eq_ok_iff.mp code
      obtain ⟨_, rest, _, split, -, spaced, shape⟩ := tokensFrom?_eq_some_iff.mp words
      obtain ⟨rfl, rfl⟩ := List.cons.inj split
      obtain ⟨-, before, after, leading, trailing, whole⟩ :=
        exists_trim (line.takeWhile (· ≠ '#'))
      rw [← codeOf_eq, shape, ← List.append_assoc] at whole
      have given : ∀ token ∈ instruction.tokens, token ≠ "" := by
        intro token member empty
        subst empty
        exact (spaced.word_and_subset _ (List.mem_map_of_mem member)).1.1 String.toList_empty
      have phrase := (Instruction.wellFormed_iff_phrase.mp ⟨arity, checked, given⟩).1
      exact ⟨before, rest, after, leading, phrase, spaced, trailing, whole⟩
  · intro instructs
    have wellFormed := instructs.wellFormed
    obtain ⟨before, rest, after, leading, phrase, spaced, trailing, whole⟩ := instructs
    have shape : codeOf line = instruction.operation.name.toList ++ rest := by
      rw [codeOf_eq, whole, List.append_assoc before]
      exact trim_append leading trailing (tight_append_of_spaced mnemonic spaced)
    refine ofLine_eq_ok_some_iff.mpr (.inr ⟨?_, instruction, ?_, rfl⟩)
    · rw [shape, List.head?_append_of_ne_nil _ nonempty]
      intro first
      exact (isReserved_eq_false_iff.mp (free '>' (List.mem_of_head? first))).2.2 rfl
    · rw [Instruction.ofCode_eq_ok_iff, shape]
      exact ⟨tokensFrom?_append mnemonic spaced, wellFormed.arity, wellFormed.checked⟩

/-- A line is read exactly when it is one of the grammar. -/
theorem exists_ofLine_iff {line : List Char} :
    (∃ statement, ofLine line = .ok statement) ↔ Grammar.Line line := by
  rw [Grammar.line_iff]
  constructor
  · intro readable
    rcases readable with ⟨statement, read⟩
    match statement with
    | none => exact .inl (ofLine_eq_none_iff.mp read)
    | some (.label _) => exact .inr (.inl ⟨_, ofLine_eq_label_iff.mp read⟩)
    | some (.instruction _) => exact .inr (.inr ⟨_, _, ofLine_eq_instruction_iff.mp read⟩)
  · intro form
    rcases form with blanks | ⟨name, declares⟩ | ⟨mnemonic, words, instructs⟩
    · exact ⟨none, ofLine_eq_none_iff.mpr blanks⟩
    · refine ⟨some (.label (String.ofList name)), ofLine_eq_label_iff.mpr ?_⟩
      rwa [String.toList_ofList]
    · have phrase := instructs
      obtain ⟨_, _, _, -, phrase, -⟩ := phrase
      obtain ⟨operation, rfl, -⟩ := Grammar.phrase_iff.mp phrase
      refine ⟨some (.instruction ⟨operation, words.map String.ofList⟩),
        ofLine_eq_instruction_iff.mpr ?_⟩
      simpa [Function.comp_def] using instructs

/-- What a statement can be: a label that passes its check or a well-formed instruction. -/
def WellFormed : Statement → Prop
  | .label name => checkLabel name = .ok ()
  | .instruction given => given.WellFormed

theorem wellFormed_of_ofLine {line : List Char} {statement : Statement}
    (read : ofLine line = .ok (some statement)) : statement.WellFormed := by
  cases statement with
  | label name => exact (ofLine_eq_label_iff.mp read).checkLabel
  | instruction given => exact (ofLine_eq_instruction_iff.mp read).wellFormed

end Statement

end SlotAsm
