import SlotAsm.Text.Lines

/-!
Texts that end with a whole line, and what may follow them. A text is terminated when nothing that
stands after it can belong to its last line: `lines_append` says that its lines stay what they are,
and that the lines of the rest come after them. `lines_unlinesCRLF` writes any lines down, those
that end with a carriage return too, in a way that is read back.
-/

namespace SlotAsm.Text

/-- The text is empty or ends with a line feed. -/
def Terminated (text : List Char) : Prop :=
  text = [] ∨ text.getLast? = some '\n'

instance (text : List Char) : Decidable (Terminated text) :=
  inferInstanceAs (Decidable (_ ∨ _))

/-- Writes lines, each ended by a carriage return and a line feed. -/
def unlinesCRLF (ls : List (List Char)) : List Char :=
  ls.flatMap (· ++ ['\r', '\n'])

theorem terminated_of_cons {c : Char} {text : List Char} (terminated : Terminated (c :: text))
    (nonempty : text ≠ []) : Terminated text := by
  obtain ⟨d, rest, rfl⟩ := List.exists_cons_of_ne_nil nonempty
  rcases terminated with empty | last
  · cases empty
  · exact .inr (by rwa [List.getLast?_cons_cons] at last)

/-- No line feed stands within a line. -/
theorem newline_not_mem_of_mem_lines {text : List Char} :
    ∀ line ∈ lines text, '\n' ∉ line := by
  induction text using lines.induct with
  | case1 => simp
  | case2 rest ih => simpa using ih
  | case3 rest ih => simpa [lines] using ih
  | case4 c rest notNewline notEnd none ih =>
    rw [lines_cons notNewline fun same tail => notEnd tail same, none]
    simpa using Ne.symm notNewline
  | case5 c rest notNewline notEnd line others some ih =>
    rw [lines_cons notNewline fun same tail => notEnd tail same, some]
    rw [some, List.forall_mem_cons] at ih
    refine List.forall_mem_cons.mpr ⟨fun member => ?_, ih.2⟩
    rcases List.mem_cons.mp member with same | inside
    · exact notNewline same.symm
    · exact ih.1 inside

/-- The characters of a line are characters of the text. -/
theorem mem_of_mem_lines {text : List Char} : ∀ line ∈ lines text, line ⊆ text := by
  induction text using lines.induct with
  | case1 => simp
  | case2 rest ih =>
    rw [lines_newline_cons]
    exact List.forall_mem_cons.mpr ⟨List.nil_subset _, fun line member =>
      List.subset_cons_of_subset _ (ih line member)⟩
  | case3 rest ih =>
    rw [lines]
    exact List.forall_mem_cons.mpr ⟨List.nil_subset _, fun line member =>
      List.subset_cons_of_subset _ (List.subset_cons_of_subset _ (ih line member))⟩
  | case4 c rest notNewline notEnd none ih =>
    rw [lines_cons notNewline fun same tail => notEnd tail same, none]
    simp
  | case5 c rest notNewline notEnd line others some ih =>
    rw [lines_cons notNewline fun same tail => notEnd tail same, some]
    rw [some, List.forall_mem_cons] at ih
    exact List.forall_mem_cons.mpr ⟨List.cons_subset_cons c ih.1, fun other member =>
      List.subset_cons_of_subset _ (ih.2 other member)⟩

theorem lines_ne_nil {text : List Char} (nonempty : text ≠ []) : lines text ≠ [] := by
  intro none
  unfold lines at none
  split at none
  · exact nonempty rfl
  · cases none
  · cases none
  · split at none <;> cases none

/-- The lines of a terminated text stay what they are when more text comes after it. -/
theorem lines_append {text : List Char} (terminated : Terminated text) (more : List Char) :
    lines (text ++ more) = lines text ++ lines more := by
  induction text using lines.induct with
  | case1 => rfl
  | case2 rest ih =>
    by_cases empty : rest = []
    · subst empty
      simp
    · simp [ih (terminated_of_cons terminated empty)]
  | case3 rest ih =>
    by_cases empty : rest = []
    · subst empty
      simp [lines]
    · have tail := terminated_of_cons (terminated_of_cons terminated (by simp)) empty
      simp [lines, ih tail]
  | case4 c rest notNewline notEnd none ih =>
    -- A text of one character that is not a line feed is not terminated.
    cases rest with
    | nil =>
      rcases terminated with empty | last
      · cases empty
      · exact absurd (Option.some.inj last) notNewline
    | cons d rest => exact absurd none (lines_ne_nil (List.cons_ne_nil d rest))
  | case5 c rest notNewline notEnd line others some ih =>
    have nonempty : rest ≠ [] := by
      intro empty
      subst empty
      cases some
    have notEnd' : c = '\r' → ∀ tail, rest ++ more ≠ '\n' :: tail := by
      obtain ⟨d, rest, rfl⟩ := List.exists_cons_of_ne_nil nonempty
      intro same tail shape
      cases shape
      exact notEnd rest same rfl
    rw [List.cons_append, lines_cons notNewline notEnd',
      lines_cons notNewline fun same tail => notEnd tail same,
      ih (terminated_of_cons terminated nonempty), some]
    rfl

/-- A line with a carriage return and a line feed after it, in front of more text. -/
theorem lines_append_CRLF {line : List Char} (noNewline : '\n' ∉ line) (rest : List Char) :
    lines (line ++ '\r' :: '\n' :: rest) = line :: lines rest := by
  induction line with
  | nil => simp [lines]
  | cons c line ih =>
    have notNewline : c ≠ '\n' := fun same => noNewline (by simp [same])
    have noNewline' : '\n' ∉ line := fun member => noNewline (by simp [member])
    rw [List.cons_append, lines_cons notNewline, ih noNewline']
    intro _ tail shape
    cases line with
    | nil => cases shape
    | cons d line =>
      cases shape
      exact noNewline' List.mem_cons_self

/-- Lines that hold no line feed are read back from their written form. -/
theorem lines_unlinesCRLF {ls : List (List Char)} (noNewline : ∀ line ∈ ls, '\n' ∉ line) :
    lines (unlinesCRLF ls) = ls := by
  induction ls with
  | nil => rfl
  | cons line ls ih =>
    obtain ⟨first, others⟩ := List.forall_mem_cons.mp noNewline
    have written : unlinesCRLF (line :: ls) = line ++ '\r' :: '\n' :: unlinesCRLF ls := by
      simp [unlinesCRLF]
    rw [written, lines_append_CRLF first, ih others]

end SlotAsm.Text
