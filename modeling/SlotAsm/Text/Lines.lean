/-!
The lines of a text. A line ends at a line feed, and a carriage return directly before that line
feed belongs to the line's end and not to the line. A text that ends with a line feed has no
further, empty line after it; a last line without one keeps every character that it has.
`lines_unlines` says that text written line by line is read back as those lines.
-/

namespace SlotAsm.Text

/-- The lines of a text, without their ends. -/
def lines : List Char → List (List Char)
  | [] => []
  | '\n' :: rest => [] :: lines rest
  | '\r' :: '\n' :: rest => [] :: lines rest
  | c :: rest =>
    match lines rest with
    | [] => [[c]]
    | line :: others => (c :: line) :: others

/-- Writes lines, each ended by a line feed. -/
def unlines (ls : List (List Char)) : List Char :=
  ls.flatMap (· ++ ['\n'])

@[simp] theorem lines_nil : lines [] = [] := rfl

@[simp] theorem lines_newline_cons (rest : List Char) :
    lines ('\n' :: rest) = [] :: lines rest := by
  simp [lines]

@[simp] theorem unlines_nil : unlines [] = [] := rfl

@[simp] theorem unlines_cons (line : List Char) (ls : List (List Char)) :
    unlines (line :: ls) = line ++ '\n' :: unlines ls := by
  simp [unlines]

/-- A character that neither ends a line nor is the first half of a line's end opens the first
line. -/
theorem lines_cons {c : Char} {rest : List Char} (notNewline : c ≠ '\n')
    (notEnd : c = '\r' → ∀ tail, rest ≠ '\n' :: tail) :
    lines (c :: rest) =
      match lines rest with
      | [] => [[c]]
      | line :: others => (c :: line) :: others := by
  rw [lines]
  · exact notNewline
  · intro tail h
    exact notEnd h tail

/-- One line with its line feed, in front of more text, is that line followed by the lines of the
rest, unless it ends with a carriage return. -/
theorem lines_append_newline {line : List Char} (rest : List Char) (noNewline : '\n' ∉ line)
    (noReturn : line.getLast? ≠ some '\r') :
    lines (line ++ '\n' :: rest) = line :: lines rest := by
  induction line with
  | nil => simp
  | cons c line ih =>
    have notNewline : c ≠ '\n' := fun h => noNewline (by simp [h])
    have noNewline' : '\n' ∉ line := fun h => noNewline (by simp [h])
    have noReturn' : line.getLast? ≠ some '\r' := by
      intro h
      apply noReturn
      cases line with
      | nil => simp at h
      | cons d line => simpa [List.getLast?_cons_cons] using h
    rw [List.cons_append, lines_cons notNewline, ih noNewline' noReturn']
    intro isReturn tail h
    cases line with
    | nil => exact noReturn (by simp [isReturn])
    | cons d line =>
      injection h with h
      exact noNewline' (by simp [h])

/-- Lines that hold no line feed and do not end with a carriage return are read back from their
written form. -/
theorem lines_unlines {ls : List (List Char)}
    (plain : ∀ line ∈ ls, '\n' ∉ line ∧ line.getLast? ≠ some '\r') : lines (unlines ls) = ls := by
  induction ls with
  | nil => rfl
  | cons line ls ih =>
    have first := plain line (by simp)
    rw [unlines_cons, lines_append_newline _ first.1 first.2,
      ih fun other h => plain other (by simp [h])]

end SlotAsm.Text
