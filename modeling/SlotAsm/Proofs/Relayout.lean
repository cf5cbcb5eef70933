import SlotAsm.Layout
import SlotAsm.Proofs.WrongLines

/-!
Texts that differ in their layout only. What a line states is decided by its words: two lines with
the same words state the same, or are wrong for the same reason, except that the text of a bad label
keeps the blanks that stand in it (`Statement.ofLine_readAlike`). Lines without words state nothing,
so texts with the same `wordsByLine` have the same program, or are refused at lines of the same
place among the lines that have words (`parse_of_wordsByLine_eq`).
-/

namespace SlotAsm

open Text (lines words trim Tight exists_trim words_trim)

/-! ## One line -/

/-- Two errors are the same, or both are in the label of a declaration. -/
def LineError.Alike (cause other : LineError) : Prop :=
  cause = other ∨ ∃ inLabel inOther, cause = .badLabel inLabel ∧ other = .badLabel inOther

/-- What two lines are read as: the same statement, or two errors that are alike. -/
inductive ReadAlike {α : Type} : Except LineError α → Except LineError α → Prop
  | ok (stated : α) : ReadAlike (.ok stated) (.ok stated)
  | error {cause other : LineError} : cause.Alike other → ReadAlike (.error cause) (.error other)

namespace ReadAlike

variable {α β : Type} {read other : Except LineError α}

theorem refl (read : Except LineError α) : ReadAlike read read := by
  cases read with
  | error cause => exact .error (.inl rfl)
  | ok stated => exact .ok stated

theorem map (alike : ReadAlike read other) (f : α → β) : ReadAlike (read.map f) (other.map f) := by
  cases alike with
  | ok stated => exact .ok (f stated)
  | error alike => exact .error alike

theorem exists_ok_iff (alike : ReadAlike read other) :
    (∃ stated, read = .ok stated) ↔ ∃ stated, other = .ok stated := by
  cases alike with
  | ok stated => exact Iff.rfl
  | error => exact iff_of_false nofun nofun

theorem exists_error {cause : LineError} (alike : ReadAlike (.error cause) other) :
    ∃ cause', other = .error cause' ∧ cause.Alike cause' := by
  cases alike with
  | error alike => exact ⟨_, rfl, alike⟩

theorem toOption_eq (alike : ReadAlike read other) : read.toOption = other.toOption := by
  cases alike <;> rfl

end ReadAlike

theorem words_codeOf (line : List Char) : words (codeOf line) = wordsOf line :=
  words_trim _

theorem tight_codeOf (line : List Char) : Tight (codeOf line) :=
  (exists_trim _).1

theorem codeOf_eq_nil_iff {line : List Char} : codeOf line = [] ↔ wordsOf line = [] := by
  rw [← words_codeOf, (tight_codeOf line).words_eq_nil_iff]

/-- Code that begins with a word begins with that word's first character. -/
theorem head?_codeOf {line : List Char} {word : List Char} {others : List (List Char)}
    (given : wordsOf line = word :: others) : (codeOf line).head? = word.head? := by
  have nonempty : codeOf line ≠ [] := by
    rw [Ne, codeOf_eq_nil_iff, given]
    exact List.cons_ne_nil word others
  obtain ⟨first, rest, tail, valid, -, shape, runs⟩ := (tight_codeOf line).exists_spaced nonempty
  rw [words_codeOf, given] at runs
  cases runs
  rw [shape, List.head?_append_of_ne_nil _ valid.1]

/-- Code is read as an instruction by its words. -/
theorem Instruction.ofCode_codeOf {line : List Char} {word : List Char} {others : List (List Char)}
    (given : wordsOf line = word :: others) :
    Instruction.ofCode (codeOf line) =
      Instruction.ofWords "" ((word :: others).map String.ofList) := by
  rw [Instruction.ofCode, (tight_codeOf line).tokens?_eq, words_codeOf, given]
  rfl

namespace Statement

/-- A declaration is read by the words behind its mark. The label is one of them or empty, and
otherwise it is a bad one whatever blanks stand in it. -/
theorem ofDeclaration_readAlike {rest other : List Char} (same : words rest = words other) :
    ReadAlike (ofDeclaration rest) (ofDeclaration other) := by
  have runs : words (trim rest) = words (trim other) := by rw [words_trim, words_trim, same]
  have solid : ∀ {name : List Char}, checkLabel (String.ofList name) = .ok () →
      ∀ c ∈ name, Text.isBlank c = false := by
    intro name checked c member
    have free := checkLabel_eq_ok_iff.mp checked c (by rwa [String.toList_ofList])
    exact (isReserved_eq_false_iff.mp free).1
  cases checked : checkLabel (String.ofList (trim rest)) with
  | ok =>
    have label := (exists_trim other).1.eq_of_words_eq (solid checked) runs.symm
    rw [ofDeclaration, ofDeclaration, label]
    exact .refl _
  | error cause =>
    cases checked' : checkLabel (String.ofList (trim other)) with
    | ok =>
      have label := (exists_trim rest).1.eq_of_words_eq (solid checked') runs
      rw [ofDeclaration, ofDeclaration, label]
      exact .refl _
    | error cause' =>
      simp only [ofDeclaration, checked, checked']
      exact .error (.inr ⟨cause, cause', rfl, rfl⟩)

/-- A line is read by its words. -/
theorem ofLine_readAlike {line other : List Char} (same : wordsOf line = wordsOf other) :
    ReadAlike (ofLine line) (ofLine other) := by
  cases given : wordsOf line with
  | nil =>
    have empty := codeOf_eq_nil_iff.mpr given
    have empty' := codeOf_eq_nil_iff.mpr (same ▸ given)
    rw [ofLine, ofLine, if_pos empty, if_pos empty']
    exact .ok none
  | cons word others =>
    have given' : wordsOf other = word :: others := same ▸ given
    have nonempty : codeOf line ≠ [] := by simp [codeOf_eq_nil_iff, given]
    have nonempty' : codeOf other ≠ [] := by simp [codeOf_eq_nil_iff, given']
    have heads : (codeOf line).head? = (codeOf other).head? := by
      rw [head?_codeOf given, head?_codeOf given']
    rw [ofLine, ofLine, if_neg nonempty, if_neg nonempty']
    refine ReadAlike.map ?_ some
    by_cases mark : (codeOf line).head? = some labelMark
    · obtain ⟨rest, code⟩ := List.head?_eq_some_iff.mp mark
      obtain ⟨rest', code'⟩ := List.head?_eq_some_iff.mp (heads ▸ mark)
      have runs : words (labelMark :: rest) = words (labelMark :: rest') := by
        rw [← code, ← code', words_codeOf, words_codeOf, same]
      rw [ofCode, ofCode, if_pos mark, if_pos (heads ▸ mark), code, code']
      exact ofDeclaration_readAlike (Text.words_eq_of_cons (by decide) runs)
    · rw [ofCode, ofCode, if_neg mark, if_neg (heads ▸ mark), Instruction.ofCode_codeOf given,
        Instruction.ofCode_codeOf given']
      exact .refl _

theorem ofLine_eq_none_of_wordsOf {line : List Char} (none : wordsOf line = []) :
    ofLine line = .ok .none := by
  rw [ofLine, if_pos (codeOf_eq_nil_iff.mpr none)]

theorem ofLine?_eq_of_wordsOf {line other : List Char} (same : wordsOf line = wordsOf other) :
    ofLine? line = ofLine? other := by
  rw [ofLine?, ofLine?, (ofLine_readAlike same).toOption_eq]

end Statement

/-! ## The lines that have words -/

/-- The lines that have words. -/
def wordedLines (ls : List (List Char)) : List (List Char) :=
  ls.filter (wordsOf · ≠ [])

/-- The numbers of the lines that have words; the first line has the given number. -/
def wordedNumbers (number : Nat) (ls : List (List Char)) : List Nat :=
  (ls.zipIdx number).filterMap fun (line, number) => if wordsOf line = [] then none else some number

theorem wordsByLine_eq (text : String) :
    wordsByLine text = (wordedLines (lines text.toList)).map wordsOf := by
  rw [wordsByLine, wordedLines, List.filter_map]
  rfl

theorem length_wordedNumbers (number : Nat) (ls : List (List Char)) :
    (wordedNumbers number ls).length = (wordedLines ls).length := by
  induction ls generalizing number with
  | nil => rfl
  | cons line others ih =>
    by_cases none : wordsOf line = []
    · simpa [wordedNumbers, wordedLines, none] using ih (number + 1)
    · simpa [wordedNumbers, wordedLines, none] using ih (number + 1)

/-- The statements of lines are those of the lines that have words. -/
theorem filterMap_ofLine?_wordedLines (ls : List (List Char)) :
    (wordedLines ls).filterMap Statement.ofLine? = ls.filterMap Statement.ofLine? := by
  rw [wordedLines, List.filterMap_filter]
  congr 1
  funext line
  by_cases none : wordsOf line = []
  · simp [none, Statement.ofLine?, Statement.ofLine_eq_none_of_wordsOf none, Except.toOption]
  · simp [none]

/-- The first wrong line is the first wrong one among the lines that have words, and stands there at
the place of its number. -/
theorem FirstWrong.worded {ls : List (List Char)} {index : Nat} {line : List Char}
    {cause : LineError} (first : FirstWrong ls index line cause) (number : Nat) :
    ∃ place, FirstWrong (wordedLines ls) place line cause ∧
      (wordedNumbers number ls)[place]? = some (number + index) := by
  have worded : wordsOf line ≠ [] := by
    intro none
    have wrong := first.wrong
    rw [Statement.ofLine_eq_none_of_wordsOf none] at wrong
    cases wrong
  obtain ⟨before, after, rfl, rfl, readable, wrong⟩ := FirstWrong.iff_exists_append.mp first
  refine ⟨(wordedLines before).length, FirstWrong.iff_exists_append.mpr
    ⟨wordedLines before, wordedLines after, ?_, rfl, ?_, wrong⟩, ?_⟩
  · simp [wordedLines, worded]
  · exact fun earlier member => readable earlier (List.mem_of_mem_filter member)
  · rw [← length_wordedNumbers number before]
    simp [wordedNumbers, List.zipIdx_append, worded]

/-- Lines that have the same words one by one are wrong for the first time at the same place, and
for reasons that are alike. -/
theorem FirstWrong.of_words_eq {ls others : List (List Char)} {index : Nat} {line : List Char}
    {cause : LineError} (first : FirstWrong ls index line cause)
    (same : ls.map wordsOf = others.map wordsOf) :
    ∃ other cause', FirstWrong others index other cause' ∧ cause.Alike cause' := by
  have stands : (others.map wordsOf)[index]? = some (wordsOf line) := by
    rw [← same, List.getElem?_map, first.stands, Option.map_some]
  rw [List.getElem?_map] at stands
  obtain ⟨other, stands', runs⟩ := Option.map_eq_some_iff.mp stands
  have alike := Statement.ofLine_readAlike runs.symm
  rw [first.wrong] at alike
  obtain ⟨cause', wrong, alike⟩ := alike.exists_error
  refine ⟨other, cause', ⟨stands', fun before member => ?_, wrong⟩, alike⟩
  have listed : wordsOf before ∈ (ls.take index).map wordsOf := by
    rw [List.map_take, same, ← List.map_take]
    exact List.mem_map_of_mem member
  obtain ⟨earlier, member', runs'⟩ := List.mem_map.mp listed
  exact (Statement.ofLine_readAlike runs').exists_ok_iff.mp (first.earlier earlier member')

/-- Where one list of lines has a wrong line, another with the same words has one too. -/
theorem FirstWrong.not_readable_of_words_eq {ls others : List (List Char)} {index : Nat}
    {line : List Char} {cause : LineError} (first : FirstWrong ls index line cause)
    (same : ls.map wordsOf = others.map wordsOf) :
    ¬ ∀ other ∈ others, ∃ statement, Statement.ofLine other = .ok statement := by
  intro readable
  obtain ⟨other, _, counterpart, -⟩ := first.of_words_eq same
  obtain ⟨statement, read⟩ := readable other (List.mem_of_getElem? counterpart.stands)
  rw [counterpart.wrong] at read
  cases read

/-! ## Two texts -/

/-- A program is what the lines that have words state, and these can all be read. -/
theorem parse_eq_ok_worded {text : String} {program : Program} (parsed : parse text = .ok program) :
    (∀ line ∈ wordedLines (lines text.toList),
      ∃ statement, Statement.ofLine line = .ok statement) ∧
    program = Program.ofStatements
      ((wordedLines (lines text.toList)).filterMap Statement.ofLine?) := by
  obtain ⟨readable, made⟩ := parse_eq_ok_iff.mp parsed
  rw [filterMap_ofLine?_wordedLines]
  exact ⟨fun line member => readable line (List.mem_of_mem_filter member), made⟩

/-- A text is refused for the first wrong one of its lines that have words. -/
theorem parse_eq_error_worded {text : String} {error : ParseError}
    (refused : parse text = .error error) :
    ∃ place line, FirstWrong (wordedLines (lines text.toList)) place line error.cause ∧
      (textLines text)[place]? = some error.line := by
  obtain ⟨index, line, cause, first, rfl⟩ := parse_eq_error_iff.mp refused
  obtain ⟨place, worded, number⟩ := first.worded 1
  exact ⟨place, line, worded, by rw [Nat.add_comm 1] at number; exact number⟩

theorem filterMap_ofLine?_eq {ls others : List (List Char)}
    (same : ls.map wordsOf = others.map wordsOf) :
    ls.filterMap Statement.ofLine? = others.filterMap Statement.ofLine? := by
  have decided : Function.FactorsThrough Statement.ofLine? wordsOf := fun _ _ =>
    Statement.ofLine?_eq_of_wordsOf
  obtain ⟨stated, factors⟩ := (Function.factorsThrough_iff _).mp decided
  rw [factors, ← List.filterMap_map, ← List.filterMap_map, same]

/-- Layout does not matter. Two texts with the same words, line by line and without regard to
comments, to the blanks between words and to lines without words, have the same program or are both
refused. The lines that they are refused for have the same place among the lines with words, and the
reasons are the same or lie in the label of a declaration. -/
theorem parse_of_wordsByLine_eq {text other : String}
    (same : wordsByLine text = wordsByLine other) :
    (∃ program, parse text = .ok program ∧ parse other = .ok program) ∨
      ∃ (error error' : ParseError) (place : Nat),
        parse text = .error error ∧ parse other = .error error' ∧
        (textLines text)[place]? = some error.line ∧
        (textLines other)[place]? = some error'.line ∧
        (error.cause = error'.cause ∨
          ∃ inLabel inOther,
            error.cause = .badLabel inLabel ∧ error'.cause = .badLabel inOther) := by
  rw [wordsByLine_eq, wordsByLine_eq] at same
  cases parsed : parse text with
  | ok program =>
    obtain ⟨readable, rfl⟩ := parse_eq_ok_worded parsed
    cases parsed' : parse other with
    | ok program' =>
      obtain ⟨-, rfl⟩ := parse_eq_ok_worded parsed'
      exact .inl ⟨_, by rw [filterMap_ofLine?_eq same], rfl⟩
    | error error' =>
      obtain ⟨_, _, first, -⟩ := parse_eq_error_worded parsed'
      exact absurd readable (first.not_readable_of_words_eq same.symm)
  | error error =>
    obtain ⟨place, line, first, number⟩ := parse_eq_error_worded parsed
    cases parsed' : parse other with
    | ok program' =>
      obtain ⟨readable, -⟩ := parse_eq_ok_worded parsed'
      exact absurd readable (first.not_readable_of_words_eq same)
    | error error' =>
      obtain ⟨place', line', first', number'⟩ := parse_eq_error_worded parsed'
      obtain ⟨_, cause, counterpart, alike⟩ := first.of_words_eq same
      obtain ⟨rfl, rfl⟩ := counterpart.unique first'
      exact .inr ⟨error, error', place, rfl, rfl, number, number', alike⟩

/-- Comments, a no-break space and an empty line make no other program. A label of two words is
refused on the second line that has words, with the blanks that stand in it. -/
theorem parse_of_wordsByLine_eq_two_words :
    wordsByLine "STR 1 A\n> top\nADD A A" =
      wordsByLine "# one\n\tSTR\u00a01   A#B\n\n >\t top \r\nADD  A A\n" ∧
    wordsByLine "STR 1 A\n> my loop\nFOO" =
      wordsByLine "STR 1  A # one\n\n>\tmy\t\tloop \nFOO" ∧
    (∃ program, parse "STR 1 A\n> top\nADD A A" = .ok program ∧
      parse "# one\n\tSTR\u00a01   A#B\n\n >\t top \r\nADD  A A\n" = .ok program) ∧
    parse "STR 1 A\n> my loop\nFOO" =
      .error ⟨2, "> my loop", .badLabel (.reservedCharacter "my loop" ' ')⟩ ∧
    ∃ error' inOther, parse "STR 1  A # one\n\n>\tmy\t\tloop \nFOO" = .error error' ∧
      error'.line = 3 ∧ error'.cause = .badLabel inOther := by
  have refused : parse "STR 1 A\n> my loop\nFOO" =
      .error ⟨2, "> my loop", .badLabel (.reservedCharacter "my loop" ' ')⟩ := by decide +kernel
  have same : wordsByLine "STR 1 A\n> top\nADD A A" =
      wordsByLine "# one\n\tSTR\u00a01   A#B\n\n >\t top \r\nADD  A A\n" := by decide
  have same' : wordsByLine "STR 1 A\n> my loop\nFOO" =
      wordsByLine "STR 1  A # one\n\n>\tmy\t\tloop \nFOO" := by decide
  refine ⟨same, same', ?_, refused, ?_⟩
  · rcases parse_of_wordsByLine_eq same with parsed | ⟨error, _, _, wrong, -⟩
    · exact parsed
    · have readable : (parse "STR 1 A\n> top\nADD A A").isOk = true := by decide +kernel
      rw [wrong] at readable
      cases readable
  · rcases parse_of_wordsByLine_eq same' with
      ⟨program, parsed, -⟩ | ⟨error, error', place, refused', wrong, number, number', alike⟩
    · rw [refused] at parsed
      cases parsed
    · cases refused.symm.trans refused'
      have numbers : textLines "STR 1 A\n> my loop\nFOO" = [1, 2, 3] := by decide
      have numbers' : textLines "STR 1  A # one\n\n>\tmy\t\tloop \nFOO" = [1, 3, 4] := by decide
      rw [numbers] at number
      rw [numbers'] at number'
      obtain rfl : place = 1 := by
        rcases place with _ | _ | _ | place
        · cases number
        · rfl
        · cases number
        · cases number
      rcases alike with same | ⟨_, inOther, -, label⟩
      · exact ⟨error', _, wrong, (Option.some.inj number').symm, same.symm⟩
      · exact ⟨error', inOther, wrong, (Option.some.inj number').symm, label⟩

end SlotAsm
