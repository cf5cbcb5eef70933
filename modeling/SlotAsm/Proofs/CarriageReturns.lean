import SlotAsm.Proofs.WrongLines

/-!
How the lines of a text are ended. A text means what its lines mean, so a carriage return in front
of each line feed changes nothing (`Text.lines_withReturns`), and neither does a line feed at the
end: it ends the last line, or it adds a line without code (`Text.lines_append_newline_eq`). The
number and the text of a wrong line stay what they are, since they are taken from the lines too.
-/

namespace SlotAsm

namespace Text

/-- The text with a carriage return in front of each line feed. -/
def withReturns (text : List Char) : List Char :=
  text.flatMap fun c => if c = '\n' then ['\r', '\n'] else [c]

theorem withReturns_newline_cons (rest : List Char) :
    withReturns ('\n' :: rest) = '\r' :: '\n' :: withReturns rest := by
  simp [withReturns]

theorem withReturns_cons {c : Char} (notNewline : c ≠ '\n') (rest : List Char) :
    withReturns (c :: rest) = c :: withReturns rest := by
  simp [withReturns, notNewline]

/-- Carriage returns in front of the line feeds belong to the ends of the lines. -/
theorem lines_withReturns {text : List Char} (noReturn : '\r' ∉ text) :
    lines (withReturns text) = lines text := by
  induction text with
  | nil => rfl
  | cons c rest ih =>
    obtain ⟨notReturn, others⟩ := List.ne_and_not_mem_of_not_mem_cons noReturn
    by_cases newline : c = '\n'
    · subst newline
      rw [withReturns_newline_cons, lines_newline_cons, lines, ih others]
    · have noEnd : c ≠ '\r' := notReturn.symm
      rw [withReturns_cons newline, lines_cons newline fun same => absurd same noEnd,
        lines_cons newline fun same => absurd same noEnd, ih others]

/-- A text is a number of whole lines and what stands after the last line feed. -/
theorem exists_terminated_append (text : List Char) :
    ∃ front line, Terminated front ∧ '\n' ∉ line ∧ text = front ++ line := by
  induction text using List.reverseRecOn with
  | nil => exact ⟨[], [], .inl rfl, List.not_mem_nil, rfl⟩
  | append_singleton text c ih =>
    by_cases newline : c = '\n'
    · subst newline
      have terminated : Terminated (text ++ ['\n']) := .inr (by simp)
      exact ⟨text ++ ['\n'], [], terminated, List.not_mem_nil, (List.append_nil _).symm⟩
    · obtain ⟨front, line, terminated, noNewline, rfl⟩ := ih
      refine ⟨front, line ++ [c], terminated, ?_, List.append_assoc front line [c]⟩
      simp [noNewline, Ne.symm newline]

/-- Characters without a line feed are one line, even when the last of them is a carriage return. -/
theorem lines_of_no_newline {line : List Char} (nonempty : line ≠ []) (noNewline : '\n' ∉ line) :
    lines line = [line] := by
  induction line with
  | nil => exact absurd rfl nonempty
  | cons c rest ih =>
    obtain ⟨notNewline, noNewline⟩ := List.ne_and_not_mem_of_not_mem_cons noNewline
    have notEnd : c = '\r' → ∀ tail, rest ≠ '\n' :: tail := by
      rintro - tail rfl
      exact noNewline List.mem_cons_self
    rw [lines_cons notNewline.symm notEnd]
    cases rest with
    | nil => rfl
    | cons d rest => rw [ih (List.cons_ne_nil d rest) noNewline]

/-- A line feed at the end of a text ends its last line, and adds an empty one when the last line
was ended already. -/
theorem lines_append_newline_eq {text : List Char} (noReturn : text.getLast? ≠ some '\r') :
    lines (text ++ ['\n']) = lines text ∨ lines (text ++ ['\n']) = lines text ++ [[]] := by
  obtain ⟨front, line, terminated, noNewline, rfl⟩ := exists_terminated_append text
  by_cases empty : line = []
  · subst empty
    rw [List.append_nil]
    exact .inr (lines_append terminated ['\n'])
  · rw [List.getLast?_append_of_ne_nil _ empty] at noReturn
    rw [List.append_assoc, lines_append terminated, lines_append terminated,
      lines_append_newline [] noNewline noReturn, lines_of_no_newline empty noNewline]
    exact .inl rfl

end Text

open Text (lines withReturns)

/-! ## Reading the lines -/

/-- A text is read by its lines. -/
theorem parse_eq_of_lines_eq {text other : String}
    (same : lines text.toList = lines other.toList) : parse text = parse other := by
  rw [parse, parse, Reading.ofText, Reading.ofText, same]

/-- A line that states nothing can be left out at the end. -/
theorem Reading.ofLines_append_of_none {line : List Char}
    (none : Statement.ofLine line = .ok none) (number : Nat) (ls : List (List Char)) :
    ofLines number (ls ++ [line]) = ofLines number ls := by
  induction ls generalizing number with
  | nil => simp [ofLines, none]
  | cons head others ih =>
    rw [List.cons_append, ofLines, ofLines]
    cases Statement.ofLine head with
    | error cause => rfl
    | ok stated => rw [ih]

/-- How lines are ended does not matter. A text without carriage returns has the same program, or is
refused for the same line and the same reason, when one is put in front of each line feed; and so
does a text that does not end with a carriage return when a line feed is put at its end. -/
theorem parse_line_ends (text : String) :
    ('\r' ∉ text.toList → parse (String.ofList (withReturns text.toList)) = parse text) ∧
    (text.toList.getLast? ≠ some '\r' → parse (text ++ "\n") = parse text) := by
  refine ⟨fun noReturn => ?_, fun noReturn => ?_⟩
  · apply parse_eq_of_lines_eq
    rw [String.toList_ofList, Text.lines_withReturns noReturn]
  · have ended : (text ++ "\n").toList = text.toList ++ ['\n'] := String.toList_append
    rcases Text.lines_append_newline_eq noReturn with same | further
    · apply parse_eq_of_lines_eq
      rw [ended, same]
    · have blank : Statement.ofLine [] = .ok none := rfl
      rw [parse, parse, Reading.ofText, Reading.ofText, ended, further,
        Reading.ofLines_append_of_none blank]

/-- The second line is refused with its tab and its comment, however the lines are ended. -/
theorem parse_line_ends_bad_label :
    '\r' ∉ "> top\n\t> my loop # again".toList ∧
    "> top\n\t> my loop # again".toList.getLast? ≠ some '\r' ∧
    parse "> top\r\n\t> my loop # again" =
      .error ⟨2, "\t> my loop # again", .badLabel (.reservedCharacter "my loop" ' ')⟩ ∧
    parse "> top\n\t> my loop # again\n" =
      .error ⟨2, "\t> my loop # again", .badLabel (.reservedCharacter "my loop" ' ')⟩ := by
  have noReturn : '\r' ∉ "> top\n\t> my loop # again".toList := by decide
  have noReturn' : "> top\n\t> my loop # again".toList.getLast? ≠ some '\r' := by decide
  have refused : parse "> top\n\t> my loop # again" =
      .error ⟨2, "\t> my loop # again", .badLabel (.reservedCharacter "my loop" ' ')⟩ := by decide
  obtain ⟨returns, ended⟩ := parse_line_ends "> top\n\t> my loop # again"
  refine ⟨noReturn, noReturn', ?_, ?_⟩
  · exact (returns noReturn).trans refused
  · exact (ended noReturn').trans refused

end SlotAsm
