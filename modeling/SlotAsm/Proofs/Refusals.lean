import SlotAsm.Proofs.Relayout

/-!
What a line is refused for. `Blames` says over the characters and the words of a line what is wrong
with it, and `Statement.ofLine_eq_error_iff` that this is the error that reading it gives. The forms
of the errors follow: a word holds neither a blank nor a comment mark, so that a bad operand can
hold no other reserved character than the label mark, and a comment mark is never the one that a
label is refused for (`parse_error_reasons`).
-/

namespace SlotAsm

open Text (lines isBlank trim Tight exists_trim exists_trim_append_cons trim_append)
open Grammar (Blanks Word)

/-! ## Reasons -/

/-- What is wrong with a line. The operand that is blamed is the first one whose token fails its
check, and the character that a label is refused for is the first reserved one. -/
inductive Blames (line : List Char) : LineError → Prop
  | notAnOperation {name : String} {others : List (List Char)} :
      wordsOf line = name.toList :: others → name.toList.head? ≠ some '>' →
      (∀ operation : Operation, name ≠ operation.name) →
      Blames line (.notAnOperation name)
  | wrongArity {operation : Operation} {tokens : List String} :
      wordsOf line = operation.name.toList :: tokens.map String.toList →
      tokens.length ≠ operation.arity →
      Blames line (.wrongArity operation tokens)
  | badOperand {operation : Operation} {tokens : List String} {operand : Operand} {token : String}
      {before after : List (Operand × String)} {cause : TokenError} :
      wordsOf line = operation.name.toList :: tokens.map String.toList →
      tokens.length = operation.arity →
      operation.operands.zip tokens = before ++ (operand, token) :: after →
      (∀ earlier ∈ before, earlier.1.kind.check earlier.2 = .ok ()) →
      operand.kind.check token = .error cause →
      Blames line (.badOperand operation operand cause)
  | badLabel {before between after : List Char} {label : String} {reserved : Char} :
      Blanks before → Blanks between → Tight label.toList → Blanks after →
      line.takeWhile (· ≠ '#') = before ++ '>' :: between ++ label.toList ++ after →
      label.toList.find? isReserved = some reserved →
      Blames line (.badLabel (.reservedCharacter label reserved))

/-! ## Reading a line that is wrong -/

namespace Instruction

theorem firstError?_eq_some_iff {instruction : Instruction} {cause : LineError} :
    instruction.firstError? = some cause ↔
      ∃ before operand token after inToken,
        instruction.operands = before ++ (operand, token) :: after ∧
        (∀ earlier ∈ before, earlier.1.kind.check earlier.2 = .ok ()) ∧
        operand.kind.check token = .error inToken ∧
        cause = .badOperand instruction.operation operand inToken := by
  unfold firstError?
  rw [List.findSome?_eq_some_iff]
  constructor
  · intro found
    rcases found with ⟨before, ⟨operand, token⟩, after, split, wrong, clean⟩
    cases checked : operand.kind.check token with
    | ok => simp [checked] at wrong
    | error inToken =>
      refine ⟨before, operand, token, after, inToken, split, fun earlier member => ?_, checked, ?_⟩
      · have passed := clean earlier member
        cases checked' : earlier.1.kind.check earlier.2 with
        | ok => rfl
        | error inEarlier => simp [checked'] at passed
      · simpa [checked] using wrong.symm
  · intro found
    rcases found with ⟨before, operand, token, after, inToken, split, clean, checked, rfl⟩
    refine ⟨before, (operand, token), after, split, by simp [checked], fun earlier member => ?_⟩
    simp [clean earlier member]

/-- Words of which the first is no mnemonic are refused for that word. -/
theorem ofWords_of_unnamed {name : String}
    (unnamed : ∀ operation : Operation, name ≠ operation.name) (line : String)
    (tokens : List String) : ofWords line (name :: tokens) = .error (.notAnOperation name) := by
  have none : Operation.ofName? name = none :=
    Option.eq_none_iff_forall_ne_some.mpr fun operation named =>
      unnamed operation (Operation.ofName?_eq_some_iff.mp named)
  simp only [ofWords, none]

/-- Words behind a mnemonic are refused for their number, or else for the first of them that fails
its check. -/
theorem ofWords_eq_error_iff {line : String} {operation : Operation} {tokens : List String}
    {cause : LineError} :
    ofWords line (operation.name :: tokens) = .error cause ↔
      (tokens.length ≠ operation.arity ∧ cause = .wrongArity operation tokens) ∨
        (tokens.length = operation.arity ∧ firstError? ⟨operation, tokens⟩ = some cause) := by
  simp only [ofWords, Operation.ofName?_name]
  by_cases arity : tokens.length = operation.arity
  · rw [if_neg (not_not.mpr arity)]
    cases firstError? ⟨operation, tokens⟩ <;> simp [arity]
  · rw [if_pos arity]
    simp [arity, eq_comm]

end Instruction

namespace Statement

theorem ofDeclaration_eq_error_iff {rest : List Char} {cause : LineError} :
    ofDeclaration rest = .error cause ↔
      ∃ reserved, (trim rest).find? isReserved = some reserved ∧
        cause = .badLabel (.reservedCharacter (String.ofList (trim rest)) reserved) := by
  simp only [ofDeclaration, checkLabel, String.toList_ofList]
  cases (trim rest).find? isReserved with
  | none => simp
  | some reserved => simp [eq_comm]

/-- What the code of a line is refused for, by its first character. -/
theorem ofLine_eq_error_iff_of_code {line : List Char} {cause : LineError} :
    ofLine line = .error cause ↔
      (∃ rest, codeOf line = '>' :: rest ∧ ofDeclaration rest = .error cause) ∨
        (codeOf line ≠ [] ∧ (codeOf line).head? ≠ some '>' ∧
          Instruction.ofCode (codeOf line) = .error cause) := by
  unfold ofLine ofCode labelMark
  cases codeOf line with
  | nil => simp
  | cons c rest =>
    by_cases mark : c = '>'
    · subst mark
      cases declared : ofDeclaration rest <;> simp [declared, Except.map]
    · cases Instruction.ofCode (c :: rest) <;> simp [Except.map, mark]

/-- What a line is refused for whose first word is a mnemonic. -/
theorem ofLine_eq_error_iff_of_mnemonic {line : List Char} {operation : Operation}
    {tokens : List String} {cause : LineError}
    (words : wordsOf line = operation.name.toList :: tokens.map String.toList) :
    ofLine line = .error cause ↔
      (tokens.length ≠ operation.arity ∧ cause = .wrongArity operation tokens) ∨
        (tokens.length = operation.arity ∧
          Instruction.firstError? ⟨operation, tokens⟩ = some cause) := by
  have nonempty : codeOf line ≠ [] := by simp [codeOf_eq_nil_iff, words]
  have head : (codeOf line).head? ≠ some '>' := by
    rw [head?_codeOf words]
    intro first
    have free := operation.name_ne_nil_and_not_reserved.2 '>' (List.mem_of_head? first)
    exact absurd free (by decide)
  have read : Instruction.ofCode (codeOf line) =
      Instruction.ofWords "" (operation.name :: tokens) := by
    rw [Instruction.ofCode_codeOf words]
    simp [Function.comp_def]
  rw [ofLine_eq_error_iff_of_code, read, Instruction.ofWords_eq_error_iff]
  constructor
  · intro refused
    rcases refused with ⟨rest, code, -⟩ | ⟨-, -, reason⟩
    · exact absurd (by rw [code, List.head?_cons]) head
    · exact reason
  · exact fun reason => .inr ⟨nonempty, head, reason⟩

/-- A declaration that is refused is one of a label with a reserved character. -/
theorem blames_of_ofDeclaration {line rest : List Char} {cause : LineError}
    (code : codeOf line = '>' :: rest) (refused : ofDeclaration rest = .error cause) :
    Blames line cause := by
  obtain ⟨reserved, found, rfl⟩ := ofDeclaration_eq_error_iff.mp refused
  obtain ⟨-, before, after, leading, trailing, whole⟩ := exists_trim (line.takeWhile (· ≠ '#'))
  obtain ⟨tight, between, behind, inner, ending, tail⟩ := exists_trim rest
  rw [← codeOf_eq, code] at whole
  generalize trim rest = label at tight tail found ⊢
  subst tail
  refine .badLabel leading inner ?_ (ending.append trailing) ?_ ?_
  · rw [String.toList_ofList]
    exact tight
  · rw [whole, String.toList_ofList]
    simp
  · rw [String.toList_ofList]
    exact found

/-- Code that is refused and declares no label has a first word that is no mnemonic, or tokens that
do not go with its mnemonic. -/
theorem blames_of_ofCode {line : List Char} {cause : LineError} (nonempty : codeOf line ≠ [])
    (head : (codeOf line).head? ≠ some '>')
    (refused : Instruction.ofCode (codeOf line) = .error cause) : Blames line cause := by
  obtain ⟨word, others, words⟩ : ∃ word others, wordsOf line = word :: others :=
    List.exists_cons_of_ne_nil fun none => nonempty (codeOf_eq_nil_iff.mpr none)
  by_cases named : ∃ operation : Operation, String.ofList word = operation.name
  · obtain ⟨operation, named⟩ := named
    have words' : wordsOf line =
        operation.name.toList :: (others.map String.ofList).map String.toList := by
      simp [words, ← named, Function.comp_def]
    have reason := ofLine_eq_error_iff_of_code.mpr (.inr ⟨nonempty, head, refused⟩)
    rcases (ofLine_eq_error_iff_of_mnemonic words').mp reason with ⟨arity, rfl⟩ | ⟨arity, fault⟩
    · exact .wrongArity words' arity
    · obtain ⟨before, operand, token, after, inToken, split, clean, checked, rfl⟩ :=
        Instruction.firstError?_eq_some_iff.mp fault
      exact .badOperand words' arity split clean checked
  · have unnamed : ∀ operation : Operation, String.ofList word ≠ operation.name :=
      fun operation same => named ⟨operation, same⟩
    rw [Instruction.ofCode_codeOf words, List.map_cons,
      Instruction.ofWords_of_unnamed unnamed] at refused
    obtain rfl := Except.error.inj refused
    rw [head?_codeOf words] at head
    rw [← String.toList_ofList (l := word)] at words head
    exact .notAnOperation words head unnamed

/-- A line with something wrong is refused for it. -/
theorem ofLine_of_blames {line : List Char} {cause : LineError} (blames : Blames line cause) :
    ofLine line = .error cause := by
  cases blames with
  | @notAnOperation name others words head unnamed =>
    refine ofLine_eq_error_iff_of_code.mpr (.inr ⟨?_, ?_, ?_⟩)
    · simp [codeOf_eq_nil_iff, words]
    · rwa [head?_codeOf words]
    · rw [Instruction.ofCode_codeOf words, List.map_cons, String.ofList_toList]
      exact Instruction.ofWords_of_unnamed unnamed _ _
  | wrongArity words arity =>
    exact (ofLine_eq_error_iff_of_mnemonic words).mpr (.inl ⟨arity, rfl⟩)
  | badOperand words arity split clean checked =>
    refine (ofLine_eq_error_iff_of_mnemonic words).mpr (.inr ⟨arity, ?_⟩)
    exact Instruction.firstError?_eq_some_iff.mpr ⟨_, _, _, _, _, split, clean, checked, rfl⟩
  | @badLabel before between after label reserved leading inner tight trailing whole found =>
    have mark : isBlank '>' = false := by decide
    obtain ⟨tail, shape, core⟩ :=
      exists_trim_append_cons leading mark (between ++ label.toList ++ after)
    rw [trim_append inner trailing tight] at core
    have code : codeOf line = '>' :: tail := by
      rw [codeOf_eq, whole, ← shape]
      simp
    refine ofLine_eq_error_iff_of_code.mpr (.inl ⟨tail, code, ?_⟩)
    rw [ofDeclaration_eq_error_iff, core, String.ofList_toList]
    exact ⟨reserved, found, rfl⟩

/-- A line is refused for what is wrong with it, and for nothing else. -/
theorem ofLine_eq_error_iff {line : List Char} {cause : LineError} :
    ofLine line = .error cause ↔ Blames line cause := by
  constructor
  · intro refused
    rcases ofLine_eq_error_iff_of_code.mp refused with
      ⟨rest, code, declared⟩ | ⟨nonempty, head, code⟩
    · exact blames_of_ofDeclaration code declared
    · exact blames_of_ofCode nonempty head code
  · exact ofLine_of_blames

end Statement

/-! ## The forms of the errors -/

/-- A text that can stand as a word on a line: it is not empty, and none of its characters is a
blank or begins a comment. -/
def IsWord (text : String) : Prop :=
  text ≠ "" ∧ ∀ c ∈ text.toList, isBlank c = false ∧ c ≠ '#'

/-- The code of a line holds no comment mark. -/
theorem not_mem_codeOf_comment (line : List Char) : '#' ∉ codeOf line := by
  obtain ⟨-, before, after, -, -, whole⟩ := exists_trim (line.takeWhile (· ≠ '#'))
  intro inside
  apply Grammar.not_mem_takeWhile_comment line
  rw [whole, ← codeOf_eq]
  simp [inside]

/-- The words of a line are words before its comment. -/
theorem isWord_of_mem_wordsOf {line : List Char} {text : String}
    (member : text.toList ∈ wordsOf line) : IsWord text := by
  have nonempty : codeOf line ≠ [] := by
    rw [Ne, codeOf_eq_nil_iff]
    exact List.ne_nil_of_mem member
  obtain ⟨word, rest, tail, first, spaced, code, words⟩ :=
    (tight_codeOf line).exists_spaced nonempty
  have valid : ∀ other ∈ word :: tail, Word other ∧ other ⊆ codeOf line := by
    rw [code]
    refine List.forall_mem_cons.mpr ⟨⟨first, List.subset_append_left word rest⟩, ?_⟩
    intro other listed
    obtain ⟨solid, inside⟩ := spaced.word_and_subset other listed
    exact ⟨solid, List.Subset.trans inside (List.subset_append_right word rest)⟩
  rw [← words_codeOf, words] at member
  obtain ⟨solid, inside⟩ := valid text.toList member
  refine ⟨fun empty => solid.1 (by rw [empty, String.toList_empty]), fun c listed => ?_⟩
  refine ⟨solid.2 c listed, ?_⟩
  rintro rfl
  exact not_mem_codeOf_comment line (inside listed)

theorem isWord_of_mem_tokens {line mnemonic : List Char} {tokens : List String} {token : String}
    (words : wordsOf line = mnemonic :: tokens.map String.toList) (member : token ∈ tokens) :
    IsWord token := by
  have listed : token.toList ∈ wordsOf line := by
    rw [words]
    exact List.mem_cons_of_mem _ (List.mem_map_of_mem member)
  exact isWord_of_mem_wordsOf listed

/-- An error in the token of an operand, where the operand can have it. -/
inductive FaultIn (operation : Operation) (operand : Operand) (token : String) : TokenError → Prop
  | notANumber : operation = .str → operand = .number →
      FaultIn operation operand token (.notANumber token)
  | outOfRange : operation = .str → operand = .number →
      FaultIn operation operand token (.outOfRange token)
  | notASlot : operand.kind = .slot → FaultIn operation operand token (.notASlot token)
  | labelMark : operation = .bne → operand = .label →
      FaultIn operation operand token (.reservedCharacter token '>')

/-- The token of an operand fails its check for a reason that goes with the operand. -/
theorem faultIn_of_check {operation : Operation} {operand : Operand} {token : String}
    {cause : TokenError} (listed : operand ∈ operation.operands) (word : IsWord token)
    (failed : operand.kind.check token = .error cause) : FaultIn operation operand token cause := by
  have number : operand.kind = .number → operation = .str ∧ operand = .number := by
    revert listed
    cases operation <;> cases operand <;> decide
  have label : operand.kind = .label → operation = .bne ∧ operand = .label := by
    revert listed
    cases operation <;> cases operand <;> decide
  cases kind : operand.kind with
  | number =>
    rw [kind] at failed
    obtain ⟨isStr, isNumber⟩ := number kind
    rcases checkNumber_eq_error_iff.mp failed with ⟨rfl, -⟩ | ⟨rfl, -⟩
    · exact .notANumber isStr isNumber
    · exact .outOfRange isStr isNumber
  | slot =>
    rw [kind] at failed
    obtain rfl := checkSlot_eq_error failed
    exact .notASlot kind
  | label =>
    rw [kind] at failed
    obtain ⟨isBranch, isLabel⟩ := label kind
    obtain ⟨reserved, found, rfl⟩ := checkLabel_eq_error_iff.mp failed
    obtain ⟨solid, uncommented⟩ := word.2 reserved (List.mem_of_find?_eq_some found)
    -- Of the reserved characters only the label mark can stand in a word.
    obtain rfl : reserved = '>' := by
      by_contra other
      have free := isReserved_eq_false_iff.mpr ⟨solid, uncommented, other⟩
      rw [List.find?_some found] at free
      cases free
    exact .labelMark isBranch isLabel

namespace Blames

variable {line : List Char}

theorem of_notAnOperation {name : String} (blames : Blames line (.notAnOperation name)) :
    (wordsOf line).head? = some name.toList ∧ IsWord name ∧ name.toList.head? ≠ some '>' ∧
      ∀ operation : Operation, name ≠ operation.name := by
  cases blames with
  | notAnOperation words head unnamed =>
    have member : name.toList ∈ wordsOf line := by
      rw [words]
      exact List.mem_cons_self
    exact ⟨by rw [words, List.head?_cons], isWord_of_mem_wordsOf member, head, unnamed⟩

theorem of_wrongArity {operation : Operation} {tokens : List String}
    (blames : Blames line (.wrongArity operation tokens)) :
    wordsOf line = operation.name.toList :: tokens.map String.toList ∧
      tokens.length ≠ operation.arity ∧ ∀ token ∈ tokens, IsWord token := by
  cases blames with
  | wrongArity words arity =>
    exact ⟨words, arity, fun token member => isWord_of_mem_tokens words member⟩

theorem of_badOperand {operation : Operation} {operand : Operand} {inToken : TokenError}
    (blames : Blames line (.badOperand operation operand inToken)) :
    ∃ tokens before token after,
      wordsOf line = operation.name.toList :: tokens.map String.toList ∧
      tokens.length = operation.arity ∧
      operation.operands.zip tokens = before ++ (operand, token) :: after ∧
      (∀ earlier ∈ before, earlier.1.kind.check earlier.2 = .ok ()) ∧
      operand.kind.check token = .error inToken ∧ FaultIn operation operand token inToken := by
  cases blames with
  | @badOperand _ tokens _ token before after _ words arity split clean checked =>
    have paired : (operand, token) ∈ operation.operands.zip tokens := by
      rw [split]
      exact List.mem_append_right before List.mem_cons_self
    obtain ⟨listed, member⟩ := List.of_mem_zip paired
    exact ⟨tokens, before, token, after, words, arity, split, clean, checked,
      faultIn_of_check listed (isWord_of_mem_tokens words member) checked⟩

theorem of_badLabel {inLabel : TokenError} (blames : Blames line (.badLabel inLabel)) :
    ∃ label reserved, inLabel = .reservedCharacter label reserved ∧
      Tight label.toList ∧ '#' ∉ label.toList ∧ (reserved = '>' ∨ isBlank reserved = true) ∧
      ∃ before after, label.toList = before ++ reserved :: after ∧
        ∀ c ∈ before, c ≠ '>' ∧ isBlank c = false := by
  cases blames with
  | @badLabel before between after label reserved leading inner tight trailing whole found =>
    have uncommented : '#' ∉ label.toList := by
      intro inside
      apply Grammar.not_mem_takeWhile_comment line
      rw [whole]
      simp [inside]
    obtain ⟨isReserved, front, back, split, free⟩ := List.find?_eq_some_iff_append.mp found
    refine ⟨label, reserved, rfl, tight, uncommented, ?_, front, back, split, fun c member => ?_⟩
    · by_contra other
      obtain ⟨notMark, solid⟩ := not_or.mp other
      have notComment : reserved ≠ '#' := by
        rintro rfl
        exact uncommented (by simp [split])
      rw [isReserved_eq_false_iff.mpr ⟨by simpa using solid, notComment, notMark⟩] at isReserved
      cases isReserved
    · have solid := isReserved_eq_false_iff.mp (by simpa using free c member)
      exact ⟨solid.2.2, solid.1⟩

end Blames

/-- The errors that texts are refused with. A text is refused for one of its lines. A word that is
called no operation is the first one of that line; a wrong number of tokens is that of all the words
after a mnemonic; an operand is blamed when its token is the first one to fail its check, and then
for something that such an operand can have; and a label is blamed for the first blank or label mark
in it. No error is about the comment mark as a reserved character. -/
theorem parse_error_reasons {text : String} {error : ParseError}
    (refused : parse text = .error error) :
    ∃ index line, error.line = index + 1 ∧ (lines text.toList)[index]? = some line ∧
      error.text = String.ofList line ∧
      (∀ name, error.cause = .notAnOperation name →
        (wordsOf line).head? = some name.toList ∧ IsWord name ∧ name.toList.head? ≠ some '>' ∧
        ∀ operation : Operation, name ≠ operation.name) ∧
      (∀ operation tokens, error.cause = .wrongArity operation tokens →
        wordsOf line = operation.name.toList :: tokens.map String.toList ∧
        tokens.length ≠ operation.arity ∧ ∀ token ∈ tokens, IsWord token) ∧
      (∀ operation operand inToken, error.cause = .badOperand operation operand inToken →
        ∃ tokens before token after,
          wordsOf line = operation.name.toList :: tokens.map String.toList ∧
          tokens.length = operation.arity ∧
          operation.operands.zip tokens = before ++ (operand, token) :: after ∧
          (∀ earlier ∈ before, earlier.1.kind.check earlier.2 = .ok ()) ∧
          operand.kind.check token = .error inToken ∧ FaultIn operation operand token inToken) ∧
      (∀ inLabel, error.cause = .badLabel inLabel →
        ∃ label reserved, inLabel = .reservedCharacter label reserved ∧
          Tight label.toList ∧ '#' ∉ label.toList ∧ (reserved = '>' ∨ isBlank reserved = true) ∧
          ∃ before after, label.toList = before ++ reserved :: after ∧
            ∀ c ∈ before, c ≠ '>' ∧ isBlank c = false) ∧
      ∀ label, error.cause ≠ .badLabel (.reservedCharacter label '#') ∧
        ∀ operation operand,
          error.cause ≠ .badOperand operation operand (.reservedCharacter label '#') := by
  obtain ⟨index, line, cause, first, rfl⟩ := parse_eq_error_iff.mp refused
  have blames := Statement.ofLine_eq_error_iff.mp first.wrong
  refine ⟨index, line, rfl, first.stands, rfl, ?_, ?_, ?_, ?_, fun label => ⟨?_, ?_⟩⟩
  · rintro name rfl
    exact blames.of_notAnOperation
  · rintro operation tokens rfl
    exact blames.of_wrongArity
  · rintro operation operand inToken rfl
    exact blames.of_badOperand
  · rintro inLabel rfl
    exact blames.of_badLabel
  · rintro rfl
    obtain ⟨_, _, same, -, -, mark | blank, -⟩ := blames.of_badLabel
    · cases same
      cases mark
    · cases same
      exact absurd blank (by decide)
  · rintro operation operand rfl
    obtain ⟨_, _, _, _, -, -, -, -, -, fault⟩ := blames.of_badOperand
    cases fault

/-- The second slot is blamed and not the label, which is bad too. -/
theorem parse_error_reasons_second_slot :
    parse "> top\n\tBNE A\u00a0a >x # c" =
      .error ⟨2, "\tBNE A\u00a0a >x # c", .badOperand .bne .slot2 (.notASlot "a")⟩ ∧
    ∃ tokens before token after,
      wordsOf "\tBNE A\u00a0a >x # c".toList = "BNE".toList :: tokens.map String.toList ∧
      Operation.bne.operands.zip tokens = before ++ (.slot2, token) :: after ∧
      FaultIn .bne .slot2 token (.notASlot "a") := by
  have words : wordsOf "\tBNE A\u00a0a >x # c".toList =
      Operation.bne.name.toList :: ["A", "a", ">x"].map String.toList := by decide
  have split : Operation.bne.operands.zip ["A", "a", ">x"] =
      [(.slot1, "A")] ++ (.slot2, "a") :: [(.label, ">x")] := rfl
  have second : (lines "> top\n\tBNE A\u00a0a >x # c".toList)[1]? =
      some "\tBNE A\u00a0a >x # c".toList := by decide
  have readable : ∀ before ∈ ["> top".toList],
      ∃ statement, Statement.ofLine before = .ok statement :=
    List.forall_mem_singleton.mpr ⟨some (.label "top"), by decide⟩
  have first : FirstWrong (lines "> top\n\tBNE A\u00a0a >x # c".toList) 1
      "\tBNE A\u00a0a >x # c".toList (.badOperand .bne .slot2 (.notASlot "a")) := by
    refine ⟨second, readable, Statement.ofLine_eq_error_iff.mpr ?_⟩
    exact .badOperand words rfl split (by decide) rfl
  have refused := parse_eq_error_iff.mpr ⟨1, _, _, first, rfl⟩
  rw [String.ofList_toList] at refused
  refine ⟨refused, ?_⟩
  obtain ⟨index, line, number, stands, -, -, -, reason, -⟩ := parse_error_reasons refused
  obtain rfl : 1 = index := Nat.succ.inj number
  obtain rfl := Option.some.inj (second.symm.trans stands)
  obtain ⟨tokens, before, token, after, words, -, split, -, -, fault⟩ := reason _ _ _ rfl
  exact ⟨tokens, before, token, after, words, split, fault⟩

end SlotAsm
