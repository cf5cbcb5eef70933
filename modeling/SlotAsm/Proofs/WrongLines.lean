import SlotAsm.Proofs.LineEnds
import SlotAsm.Proofs.Reading

/-!
The wrong line that a text is refused for. `FirstWrong` says that a line cannot be read and that all
lines before it can; it looks at no line after it, and what a line is read as does not depend on the
lines before it. `parse_eq_error_iff` says that an error names such a line, so a text is read as
each of its lines is read alone (`parse_line_by_line`).
-/

namespace SlotAsm

open Text (lines unlinesCRLF lines_unlinesCRLF newline_not_mem_of_mem_lines)

/-! ## The first line that cannot be read -/

/-- The line at an index cannot be read, and every line before it can. -/
structure FirstWrong (ls : List (List Char)) (index : Nat) (line : List Char) (cause : LineError) :
    Prop where
  stands : ls[index]? = some line
  earlier : ∀ before ∈ ls.take index, ∃ statement, Statement.ofLine before = .ok statement
  wrong : Statement.ofLine line = .error cause

namespace FirstWrong

variable {ls others : List (List Char)} {index : Nat} {line : List Char} {cause : LineError}

theorem index_lt (first : FirstWrong ls index line cause) : index < ls.length :=
  (List.getElem?_eq_some_iff.mp first.stands).1

theorem zero_iff {head : List Char} :
    FirstWrong (head :: others) 0 line cause ↔
      head = line ∧ Statement.ofLine head = .error cause := by
  constructor
  · intro first
    obtain rfl : head = line := Option.some.inj first.stands
    exact ⟨rfl, first.wrong⟩
  · intro opening
    rcases opening with ⟨rfl, wrong⟩
    exact ⟨rfl, nofun, wrong⟩

theorem succ_iff {head : List Char} :
    FirstWrong (head :: others) (index + 1) line cause ↔
      (∃ statement, Statement.ofLine head = .ok statement) ∧
        FirstWrong others index line cause := by
  constructor
  · intro first
    obtain ⟨readable, earlier⟩ := List.forall_mem_cons.mp first.earlier
    exact ⟨readable, first.stands, earlier, first.wrong⟩
  · intro both
    rcases both with ⟨readable, first⟩
    exact ⟨first.stands, List.forall_mem_cons.mpr ⟨readable, first.earlier⟩, first.wrong⟩

/-- The first wrong line stands between lines that can be read and others. -/
theorem iff_exists_append :
    FirstWrong ls index line cause ↔
      ∃ before after, ls = before ++ line :: after ∧ before.length = index ∧
        (∀ earlier ∈ before, ∃ statement, Statement.ofLine earlier = .ok statement) ∧
        Statement.ofLine line = .error cause := by
  constructor
  · intro first
    obtain ⟨below, rfl⟩ := List.getElem?_eq_some_iff.mp first.stands
    have split : ls = ls.take index ++ ls[index] :: ls.drop (index + 1) := by simp
    exact ⟨_, _, split, List.length_take_of_le (Nat.le_of_lt below), first.earlier, first.wrong⟩
  · intro split
    rcases split with ⟨before, after, rfl, rfl, readable, wrong⟩
    exact ⟨by simp, by simpa using readable, wrong⟩

/-- Lines that agree up to the first wrong one have the same first wrong line. -/
theorem of_take_eq (first : FirstWrong ls index line cause)
    (same : others.take (index + 1) = ls.take (index + 1)) :
    FirstWrong others index line cause := by
  refine ⟨?_, ?_, first.wrong⟩
  · have stands := first.stands
    rw [← List.getElem?_take_of_succ, ← same, List.getElem?_take_of_succ] at stands
    exact stands
  · have before := congrArg (List.take index) same
    rw [List.take_take, List.take_take, Nat.min_eq_left (Nat.le_succ index)] at before
    rw [before]
    exact first.earlier

/-- No line after the first wrong one matters. -/
theorem append (first : FirstWrong ls index line cause) (more : List (List Char)) :
    FirstWrong (ls ++ more) index line cause :=
  first.of_take_eq (List.take_append_of_le_length first.index_lt)

/-- Lines that can be read move the first wrong line down. -/
theorem append_left (first : FirstWrong ls index line cause) {front : List (List Char)}
    (readable : ∀ before ∈ front, ∃ statement, Statement.ofLine before = .ok statement) :
    FirstWrong (front ++ ls) (front.length + index) line cause := by
  refine ⟨?_, ?_, first.wrong⟩
  · rw [List.getElem?_append_right (Nat.le_add_right _ _), Nat.add_sub_cancel_left]
    exact first.stands
  · rw [List.take_length_add_append]
    intro before member
    exact (List.mem_append.mp member).elim (readable before) (first.earlier before)

end FirstWrong

/-- Reading ends with an error exactly at the first line that cannot be read. -/
theorem Reading.error_ofLines_eq_some_iff {number : Nat} {ls : List (List Char)}
    {error : ParseError} :
    (ofLines number ls).error = some error ↔
      ∃ index line cause, FirstWrong ls index line cause ∧
        error = ⟨number + index, String.ofList line, cause⟩ := by
  induction ls generalizing number with
  | nil =>
    refine iff_of_false nofun ?_
    intro found
    rcases found with ⟨index, line, cause, first, -⟩
    exact absurd first.index_lt (Nat.not_lt_zero index)
  | cons head others ih =>
    rw [ofLines]
    cases read : Statement.ofLine head with
    | error fault =>
      constructor
      · intro wrong
        cases wrong
        exact ⟨0, head, fault, FirstWrong.zero_iff.mpr ⟨rfl, read⟩, rfl⟩
      · intro found
        rcases found with ⟨index, line, cause, first, rfl⟩
        cases index with
        | zero =>
          obtain ⟨rfl, wrong⟩ := FirstWrong.zero_iff.mp first
          cases read.symm.trans wrong
          rfl
        | succ index =>
          obtain ⟨⟨statement, readable⟩, -⟩ := FirstWrong.succ_iff.mp first
          cases read.symm.trans readable
    | ok statement =>
      constructor
      · intro wrong
        obtain ⟨index, line, cause, first, rfl⟩ := ih.mp wrong
        refine ⟨index + 1, line, cause, FirstWrong.succ_iff.mpr ⟨⟨statement, read⟩, first⟩, ?_⟩
        rw [Nat.add_assoc, Nat.add_comm 1]
      · intro found
        rcases found with ⟨index, line, cause, first, rfl⟩
        cases index with
        | zero =>
          obtain ⟨-, wrong⟩ := FirstWrong.zero_iff.mp first
          cases read.symm.trans wrong
        | succ index =>
          obtain ⟨-, first⟩ := FirstWrong.succ_iff.mp first
          refine ih.mpr ⟨index, line, cause, first, ?_⟩
          rw [Nat.add_assoc, Nat.add_comm 1]

/-- Only one line is the first that cannot be read. -/
theorem FirstWrong.unique {ls : List (List Char)} {index index' : Nat} {line line' : List Char}
    {cause cause' : LineError} (first : FirstWrong ls index line cause)
    (first' : FirstWrong ls index' line' cause') : index = index' ∧ cause = cause' := by
  have error : (Reading.ofLines 0 ls).error = some _ :=
    Reading.error_ofLines_eq_some_iff.mpr ⟨_, _, _, first, rfl⟩
  rw [Reading.error_ofLines_eq_some_iff.mpr ⟨_, _, _, first', rfl⟩] at error
  have same := Option.some.inj error
  have place : 0 + index' = 0 + index := congrArg ParseError.line same
  exact ⟨by omega, (congrArg ParseError.cause same).symm⟩

/-- A text is refused for the first of its lines that cannot be read. -/
theorem parse_eq_error_iff {text : String} {error : ParseError} :
    parse text = .error error ↔
      ∃ index line cause, FirstWrong (lines text.toList) index line cause ∧
        error = ⟨index + 1, String.ofList line, cause⟩ := by
  have refused : parse text = .error error ↔ (Reading.ofText text).error = some error := by
    unfold parse
    cases wrong : (Reading.ofText text).error with
    | none => simp [wrong]
    | some fault => simp [wrong]
  rw [refused, Reading.ofText, Reading.error_ofLines_eq_some_iff]
  simp only [Nat.add_comm 1]

/-- A text has a program when each of its lines can be read. -/
theorem exists_parse_iff {text : String} :
    (∃ program, parse text = .ok program) ↔
      ∀ line ∈ lines text.toList, ∃ statement, Statement.ofLine line = .ok statement := by
  simp [parse_eq_ok_iff]

/-! ## Lines alone -/

/-- A line as a text of its own. -/
def alone (line : List Char) : String :=
  String.ofList (unlinesCRLF [line])

theorem lines_alone {line : List Char} (noNewline : '\n' ∉ line) :
    lines (alone line).toList = [line] := by
  rw [alone, String.toList_ofList, lines_unlinesCRLF (List.forall_mem_singleton.mpr noNewline)]

theorem exists_parse_alone_iff {line : List Char} (noNewline : '\n' ∉ line) :
    (∃ program, parse (alone line) = .ok program) ↔
      ∃ statement, Statement.ofLine line = .ok statement := by
  rw [exists_parse_iff, lines_alone noNewline, List.forall_mem_singleton]

theorem parse_alone_eq_error_iff {line : List Char} (noNewline : '\n' ∉ line)
    {failure : ParseError} :
    parse (alone line) = .error failure ↔
      ∃ cause, Statement.ofLine line = .error cause ∧
        failure = ⟨1, String.ofList line, cause⟩ := by
  rw [parse_eq_error_iff, lines_alone noNewline]
  constructor
  · intro found
    rcases found with ⟨index, other, cause, first, rfl⟩
    obtain rfl : index = 0 := Nat.lt_one_iff.mp first.index_lt
    obtain ⟨rfl, wrong⟩ := FirstWrong.zero_iff.mp first
    exact ⟨cause, wrong, rfl⟩
  · intro refused
    rcases refused with ⟨cause, wrong, rfl⟩
    exact ⟨0, line, cause, FirstWrong.zero_iff.mpr ⟨rfl, wrong⟩, rfl⟩

/-- The first wrong line among lines that are read alone. -/
theorem FirstWrong.iff_alone {ls : List (List Char)} (noNewline : ∀ line ∈ ls, '\n' ∉ line)
    {index : Nat} {line : List Char} {cause : LineError} :
    FirstWrong ls index line cause ↔
      ls[index]? = some line ∧
        (∀ before ∈ ls.take index, ∃ program, parse (alone before) = .ok program) ∧
        ∃ failure, parse (alone line) = .error failure ∧ failure.cause = cause := by
  have earlier : (∀ before ∈ ls.take index, ∃ program, parse (alone before) = .ok program) ↔
      ∀ before ∈ ls.take index, ∃ statement, Statement.ofLine before = .ok statement :=
    forall₂_congr fun before member =>
      exists_parse_alone_iff (noNewline before (List.mem_of_mem_take member))
  rw [earlier]
  constructor
  · intro first
    have plain := noNewline line (List.mem_of_getElem? first.stands)
    have refused := (parse_alone_eq_error_iff plain).mpr ⟨cause, first.wrong, rfl⟩
    exact ⟨first.stands, first.earlier, _, refused, rfl⟩
  · intro found
    rcases found with ⟨stands, readable, failure, refused, rfl⟩
    have plain := noNewline line (List.mem_of_getElem? stands)
    obtain ⟨cause, wrong, rfl⟩ := (parse_alone_eq_error_iff plain).mp refused
    exact ⟨stands, readable, wrong⟩

/-- A text is read as each of its lines is read alone. It has a program when they all have one, and
otherwise the error is that of the first line that has none, whatever stands after it; the lines
before that one have a program. -/
theorem parse_line_by_line (text : String) :
    ((∃ program, parse text = .ok program) ↔
      ∀ line ∈ lines text.toList, ∃ program, parse (alone line) = .ok program) ∧
    (∀ error, parse text = .error error ↔
      ∃ index line failure,
        (lines text.toList)[index]? = some line ∧
        (∀ before ∈ (lines text.toList).take index,
          ∃ program, parse (alone before) = .ok program) ∧
        parse (alone line) = .error failure ∧
        error = ⟨index + 1, String.ofList line, failure.cause⟩) ∧
    ∀ error, parse text = .error error →
      (∀ other : String,
        (lines other.toList).take error.line = (lines text.toList).take error.line →
        parse other = .error error) ∧
      (∀ front : String, lines front.toList = (lines text.toList).take (error.line - 1) →
        ∃ program, parse front = .ok program) ∧
      ∃ program, parse (String.ofList
        (unlinesCRLF ((lines text.toList).take (error.line - 1)))) = .ok program := by
  have noNewline : ∀ line ∈ lines text.toList, '\n' ∉ line := newline_not_mem_of_mem_lines
  refine ⟨?_, fun error => ?_, fun error refused => ?_⟩
  · have each : (∀ line ∈ lines text.toList, ∃ program, parse (alone line) = .ok program) ↔
        ∀ line ∈ lines text.toList, ∃ statement, Statement.ofLine line = .ok statement :=
      forall₂_congr fun line member => exists_parse_alone_iff (noNewline line member)
    rw [each, exists_parse_iff]
  · rw [parse_eq_error_iff]
    constructor
    · intro found
      rcases found with ⟨index, line, cause, first, rfl⟩
      obtain ⟨stands, readable, failure, refused, rfl⟩ := (FirstWrong.iff_alone noNewline).mp first
      exact ⟨index, line, failure, stands, readable, refused, rfl⟩
    · intro found
      rcases found with ⟨index, line, failure, stands, readable, refused, rfl⟩
      have first := (FirstWrong.iff_alone noNewline).mpr ⟨stands, readable, failure, refused, rfl⟩
      exact ⟨index, line, failure.cause, first, rfl⟩
  · obtain ⟨index, line, cause, first, rfl⟩ := parse_eq_error_iff.mp refused
    have front : ∀ front : String, lines front.toList = (lines text.toList).take index →
        ∃ program, parse front = .ok program := by
      intro front same
      exact exists_parse_iff.mpr (same ▸ first.earlier)
    refine ⟨fun other same => ?_, front, front _ ?_⟩
    · exact parse_eq_error_iff.mpr ⟨index, line, cause, first.of_take_eq same, rfl⟩
    · rw [String.toList_ofList]
      exact lines_unlinesCRLF fun before member => noNewline before (List.mem_of_mem_take member)

/-- Two words do not make a label, and the line is given back with its tab and its comment. -/
theorem parse_line_by_line_two_words :
    ∃ text : String, ∃ error : ParseError,
      text = "> top\r\n\t> my loop # again\nFOO" ∧ parse text = .error error ∧
      error = ⟨2, "\t> my loop # again", .badLabel (.reservedCharacter "my loop" ' ')⟩ ∧
      parse "> top\n\t> my loop # again\n\nSTR 1 A" = .error error ∧
      ∃ program, parse "> top" = .ok program := by
  have refused : parse "> top\r\n\t> my loop # again\nFOO" =
      .error ⟨2, "\t> my loop # again", .badLabel (.reservedCharacter "my loop" ' ')⟩ := by decide
  obtain ⟨-, -, first⟩ := parse_line_by_line "> top\r\n\t> my loop # again\nFOO"
  obtain ⟨same, front, -⟩ := first _ refused
  exact ⟨_, _, rfl, refused, rfl, same _ (by decide), front "> top" (by decide)⟩

end SlotAsm
