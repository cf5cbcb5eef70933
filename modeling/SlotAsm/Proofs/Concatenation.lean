import SlotAsm.Proofs.WrongLines

/-!
One source text after another. `Program.Joins` says when a program is one program followed by
another: the labels of the second one move up by the length of the first, and they replace the first
one's labels of the same name. Each statement that is added to the second program keeps this
(`Program.Joins.extend`), so the program of a text in two parts joins the programs of the parts, and
its error is that of a part (`parse_append`).
-/

namespace SlotAsm

open Text (lines Terminated)

namespace Program

/-- The program is `front` followed by `back`. -/
structure Joins (front back whole : Program) : Prop where
  instructions : whole.instructions = front.instructions ++ back.instructions
  labels : ∀ label, whole.labels.get? label =
    ((back.labels.get? label).map (· + front.length)).or (front.labels.get? label)

namespace Joins

variable {front back whole : Program}

theorem length_eq (joins : Joins front back whole) :
    whole.length = back.length + front.length := by
  rw [length, joins.instructions, List.length_append, Nat.add_comm]
  rfl

theorem empty (front : Program) : Joins front ∅ front where
  instructions := (List.append_nil _).symm
  labels _ := rfl

theorem extend (joins : Joins front back whole) (statement : Statement) :
    Joins front (back.extend statement) (whole.extend statement) := by
  cases statement with
  | label name =>
    refine ⟨joins.instructions, fun label => ?_⟩
    simp only [Program.extend, LabelTable.get?_insert, joins.length_eq]
    by_cases same : label = name
    · simp [same]
    · simp [same, joins.labels]
  | instruction given =>
    refine ⟨?_, joins.labels⟩
    simp only [Program.extend, joins.instructions, List.append_assoc]

theorem foldl_extend (joins : Joins front back whole) (statements : List Statement) :
    Joins front (statements.foldl Program.extend back)
      (statements.foldl Program.extend whole) := by
  induction statements generalizing back whole with
  | nil => exact joins
  | cons statement rest ih => exact ih (joins.extend statement)

end Joins

/-- What two lists of statements make up, one after the other. -/
theorem joins_ofStatements (statements others : List Statement) :
    Joins (ofStatements statements) (ofStatements others)
      (ofStatements (statements ++ others)) := by
  rw [ofStatements, ofStatements, ofStatements, List.foldl_append]
  exact (Joins.empty _).foldl_extend others

end Program

theorem lines_toList_append {text : String} (terminated : Terminated text.toList) (more : String) :
    lines (text ++ more).toList = lines text.toList ++ lines more.toList := by
  rw [String.toList_append, Text.lines_append terminated]

/-- A text of whole lines that has a program, in front of another text that has one. -/
theorem Program.joins_of_parse {text more : String} {front back : Program}
    (terminated : Terminated text.toList) (parsed : parse text = .ok front)
    (parsedMore : parse more = .ok back) :
    ∃ whole, parse (text ++ more) = .ok whole ∧ Joins front back whole := by
  obtain ⟨readable, rfl⟩ := parse_eq_ok_iff.mp parsed
  obtain ⟨readableMore, rfl⟩ := parse_eq_ok_iff.mp parsedMore
  refine ⟨_, parse_eq_ok_iff.mpr ⟨?_, rfl⟩, ?_⟩
  · rw [lines_toList_append terminated]
    intro line member
    exact (List.mem_append.mp member).elim (readable line) (readableMore line)
  · rw [lines_toList_append terminated, List.filterMap_append]
    exact joins_ofStatements _ _

/-- Reading goes on after whole lines as if the rest stood alone. The first part's error is the
error of the whole; an error in the second part moves down by the lines of the first; and when both
parts have a program, the whole has the two, one after the other. -/
theorem parse_append {text : String} (terminated : Terminated text.toList) (more : String) :
    (∀ error, parse text = .error error → parse (text ++ more) = .error error) ∧
    (∀ front error, parse text = .ok front → parse more = .error error →
      parse (text ++ more) =
        .error { error with line := error.line + (lines text.toList).length }) ∧
    ∀ front back, parse text = .ok front → parse more = .ok back →
      ∃ whole, parse (text ++ more) = .ok whole ∧
        whole.instructions = front.instructions ++ back.instructions ∧
        ∀ label, whole.labels.get? label =
          ((back.labels.get? label).map (· + front.length)).or (front.labels.get? label) := by
  refine ⟨fun error refused => ?_, fun front error parsed refused => ?_,
    fun front back parsed parsedMore => ?_⟩
  · obtain ⟨index, line, cause, first, rfl⟩ := parse_eq_error_iff.mp refused
    refine parse_eq_error_iff.mpr ⟨index, line, cause, ?_, rfl⟩
    rw [lines_toList_append terminated]
    exact first.append _
  · obtain ⟨index, line, cause, first, rfl⟩ := parse_eq_error_iff.mp refused
    refine parse_eq_error_iff.mpr ⟨(lines text.toList).length + index, line, cause, ?_, ?_⟩
    · rw [lines_toList_append terminated]
      exact first.append_left (parse_eq_ok_iff.mp parsed).1
    · rw [Nat.add_right_comm, Nat.add_comm index]
  · obtain ⟨whole, parsedWhole, joins⟩ := Program.joins_of_parse terminated parsed parsedMore
    exact ⟨whole, parsedWhole, joins.instructions, joins.labels⟩

/-- Twice the same source, whose label then names the later declaration, and a wrong line before
and after the source. -/
theorem parse_append_countdown :
    Terminated countdown.toList ∧ Terminated ">>\n".toList ∧
    (∃ whole, parse (countdown ++ countdown) = .ok whole ∧ whole.length = 10 ∧
      whole.labels.get? "loop" = some 7) ∧
    parse (countdown ++ "\r\n>my loop # again") =
      .error ⟨8, ">my loop # again", .badLabel (.reservedCharacter "my loop" ' ')⟩ ∧
    parse (">>\n" ++ countdown) = .error ⟨1, ">>", .badLabel (.reservedCharacter ">" '>')⟩ := by
  have terminated : Terminated countdown.toList := by decide
  have terminated' : Terminated ">>\n".toList := by decide
  obtain ⟨-, -, joined⟩ := parse_append terminated countdown
  obtain ⟨whole, parsed, instructions, labels⟩ := joined _ _ parse_countdown parse_countdown
  have length : whole.length = 10 := by
    rw [Program.length, instructions]
    rfl
  obtain ⟨-, later, -⟩ := parse_append terminated "\r\n>my loop # again"
  have refused : parse "\r\n>my loop # again" =
      .error ⟨2, ">my loop # again", .badLabel (.reservedCharacter "my loop" ' ')⟩ := by decide
  obtain ⟨earlier, -, -⟩ := parse_append terminated' countdown
  exact ⟨terminated, terminated', ⟨whole, parsed, length, (labels "loop").trans (by decide)⟩,
    later _ _ parse_countdown refused, earlier _ (by decide)⟩

end SlotAsm
