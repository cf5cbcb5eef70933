import Mathlib.Algebra.Ring.Nat
import SlotAsm.Proofs.CarriageReturns
import SlotAsm.Proofs.Columns
import SlotAsm.Text.Grid

/-!
What a drawn table looks like. Each line of a drawing is a line of a row or a ruler
(`Grid.drawing_cases`), so whatever is in it that is neither a blank nor a line-drawing character
comes from a cell, and the lines of a row stand together at `Grid.rowStart`
(`Grid.getElem?_drawing_row`). In a table without escape characters all drawn lines have the same
width, by every measure that does what is documented (`Measure.Documented.width_of_mem_drawing`). A
drawing is read back from its text line by line (`Grid.lines_text`), so a table of tables is no
different from a table of texts.
-/

namespace SlotAsm.Text

/-! ## The parts of a drawing -/

variable {measure : Measure}

/-- A line that is no wider than its column fills it. -/
theorem Measure.Documented.fill (documented : measure.Documented) (align : Align)
    {line : List Char} {target : Nat} (plain : escape ∉ line)
    (fits : measure.width line ≤ target) :
    measure.width (fill measure align target line) = target := by
  cases align with
  | left =>
    simp only [Text.fill, documented.append_blanks plain]
    omega
  | right =>
    simp only [Text.fill, documented.blanks_append plain]
    omega

theorem le_largest {numbers : List Nat} {n : Nat} (member : n ∈ numbers) :
    n ≤ largest numbers := by
  induction numbers with
  | nil => cases member
  | cons first rest ih =>
    have step : largest (first :: rest) = max first (largest rest) := rfl
    rcases List.mem_cons.mp member with rfl | later
    · omega
    · have := ih later
      omega

theorem width_le_cellWidth {cell line : List Char} (member : line ∈ lines cell) :
    measure.width line ≤ cellWidth measure cell :=
  le_largest (List.mem_map_of_mem member)

/-- A line of a cell is one of its lines or empty. -/
theorem cellLine_mem (cell : List Char) (k : Nat) : cellLine cell k ∈ [] :: lines cell := by
  unfold cellLine
  cases found : (lines cell)[k]? with
  | none => exact List.mem_cons_self
  | some line => exact List.mem_cons_of_mem _ (List.mem_of_getElem? found)

/-- The first line of a cell begins with what the cell begins with. -/
theorem cellLine_zero_append {front : List Char} (plain : ∀ c ∈ front, c ≠ '\n' ∧ c ≠ '\r')
    (rest : List Char) : cellLine (front ++ rest) 0 = front ++ cellLine rest 0 := by
  induction front with
  | nil => rfl
  | cons c front ih =>
    obtain ⟨⟨notNewline, notReturn⟩, others⟩ := List.forall_mem_cons.mp plain
    have step : cellLine (c :: (front ++ rest)) 0 = c :: cellLine (front ++ rest) 0 := by
      unfold cellLine
      rw [lines_cons notNewline fun isReturn => absurd isReturn notReturn]
      cases lines (front ++ rest) <;> rfl
    rw [List.cons_append, step, ih others, List.cons_append]

/-- Filling adds nothing but blanks. -/
theorem not_mem_fill {c : Char} (notBlank : c ≠ ' ') {line : List Char} (absent : c ∉ line)
    (measure : Measure) (align : Align) (target : Nat) :
    c ∉ fill measure align target line := by
  cases align <;> simp [fill, absent, notBlank]

namespace Grid

variable {grid : Grid} {row : List Char × List Char} {line : List Char}

theorem width_le_firstWidth (inGrid : row ∈ grid.titles :: grid.rows)
    (inCell : line ∈ lines row.1) : measure.width line ≤ grid.firstWidth measure :=
  Nat.le_trans (width_le_cellWidth inCell) (le_largest (List.mem_map.mpr ⟨row, inGrid, rfl⟩))

theorem width_le_secondWidth (inGrid : row ∈ grid.titles :: grid.rows)
    (inCell : line ∈ lines row.2) : measure.width line ≤ grid.secondWidth measure :=
  Nat.le_trans (width_le_cellWidth inCell) (le_largest (List.mem_map.mpr ⟨row, inGrid, rfl⟩))

/-- A drawing consists of lines of rows and rulers. -/
theorem drawing_cases (drawn : line ∈ grid.drawing measure) :
    (∃ row ∈ grid.titles :: grid.rows, ∃ left ∈ [] :: lines row.1, ∃ right ∈ [] :: lines row.2,
      line = rowLine measure grid.align (grid.firstWidth measure) (grid.secondWidth measure)
        left right) ∨
    ∃ junction ∈ frame,
      line = ruler (grid.firstWidth measure) (grid.secondWidth measure) junction := by
  have ofRow {row : List Char × List Char} (inGrid : row ∈ grid.titles :: grid.rows)
      (inRow : line ∈ rowLines measure grid.align (grid.firstWidth measure)
        (grid.secondWidth measure) row) :
      ∃ row ∈ grid.titles :: grid.rows, ∃ left ∈ [] :: lines row.1, ∃ right ∈ [] :: lines row.2,
        line = rowLine measure grid.align (grid.firstWidth measure) (grid.secondWidth measure)
          left right := by
    obtain ⟨k, -, rfl⟩ := List.mem_map.mp inRow
    exact ⟨row, inGrid, _, cellLine_mem row.1 k, _, cellLine_mem row.2 k, rfl⟩
  simp only [drawing, List.mem_append, List.mem_cons, List.mem_flatMap, List.not_mem_nil,
    or_false] at drawn
  rcases drawn with (title | rfl | ⟨row, inRows, inRow⟩) | rfl
  · exact .inl (ofRow List.mem_cons_self title)
  · exact .inr ⟨'┼', by decide, rfl⟩
  · exact .inl (ofRow (List.mem_cons_of_mem _ inRows) inRow)
  · exact .inr ⟨'┴', by decide, rfl⟩

theorem length_rowLines (measure : Measure) (align : Align) (first second : Nat)
    (row : List Char × List Char) :
    (rowLines measure align first second row).length = rowHeight row := by
  simp [rowLines]

theorem length_flatMap_rowLines (measure : Measure) (align : Align) (first second : Nat)
    (rows : List (List Char × List Char)) :
    (rows.flatMap (rowLines measure align first second)).length = (rows.map rowHeight).sum := by
  rw [List.length_flatMap]
  exact congrArg List.sum (List.map_congr_left fun row _ => length_rowLines _ _ _ _ row)

/-- The number of lines of a drawing. -/
theorem length_drawing (measure : Measure) (grid : Grid) :
    (grid.drawing measure).length =
      rowHeight grid.titles + (grid.rows.map rowHeight).sum + 2 := by
  simp only [drawing, List.length_append, List.length_cons, List.length_nil, length_rowLines,
    length_flatMap_rowLines]
  omega

/-! ## Where the rows stand -/

/-- The number of lines above a row: the titles, the line under them and the rows before it. -/
def rowStart (grid : Grid) (index : Nat) : Nat :=
  rowHeight grid.titles + 1 + ((grid.rows.take index).map rowHeight).sum

/-- Among the lines of all rows, those of one row come after those of the rows before it. -/
theorem getElem?_flatMap_rowLines (measure : Measure) (align : Align) (first second : Nat)
    {rows : List (List Char × List Char)} {index k : Nat} (found : rows[index]? = some row)
    (below : k < rowHeight row) :
    (rows.flatMap (rowLines measure align first second))[
        ((rows.take index).map rowHeight).sum + k]? =
      some (rowLine measure align first second (cellLine row.1 k) (cellLine row.2 k)) := by
  induction rows generalizing index with
  | nil => cases found
  | cons head rows ih =>
    rw [List.flatMap_cons]
    cases index with
    | zero =>
      cases found
      have inside : k < (rowLines measure align first second row).length := by
        rwa [length_rowLines]
      rw [List.take_zero, List.map_nil, List.sum_nil, Nat.zero_add,
        List.getElem?_append_left inside]
      simp [rowLines, below]
    | succ index =>
      have behind : (rowLines measure align first second head).length ≤
          rowHeight head + (((rows.take index).map rowHeight).sum + k) := by
        rw [length_rowLines]
        omega
      rw [List.take_succ_cons, List.map_cons, List.sum_cons, Nat.add_assoc,
        List.getElem?_append_right behind, length_rowLines, Nat.add_sub_cancel_left]
      exact ih found

/-- The lines of a row in a drawing. -/
theorem getElem?_drawing_row {index k : Nat} (found : grid.rows[index]? = some row)
    (below : k < rowHeight row) :
    (grid.drawing measure)[grid.rowStart index + k]? =
      some (rowLine measure grid.align (grid.firstWidth measure) (grid.secondWidth measure)
        (cellLine row.1 k) (cellLine row.2 k)) := by
  have inRows := getElem?_flatMap_rowLines measure grid.align (grid.firstWidth measure)
    (grid.secondWidth measure) found below
  have titles := length_rowLines measure grid.align (grid.firstWidth measure)
    (grid.secondWidth measure) grid.titles
  have place : rowHeight grid.titles ≤ grid.rowStart index + k := by
    unfold rowStart
    omega
  have behind : grid.rowStart index + k - rowHeight grid.titles =
      ((grid.rows.take index).map rowHeight).sum + k + 1 := by
    unfold rowStart
    omega
  rw [drawing, List.append_assoc, List.getElem?_append_right (titles ▸ place), titles, behind,
    List.cons_append, List.getElem?_cons_succ,
    List.getElem?_append_left (List.getElem?_eq_some_iff.mp inRows).1]
  exact inRows

end Grid

/-! ## The widths of the parts -/

namespace Measure.Documented

variable (documented : measure.Documented)

include documented

/-- The bar between the columns takes three columns with its blanks. -/
theorem bar {left right : List Char} (plainLeft : escape ∉ left) (plainRight : escape ∉ right) :
    measure.width (left ++ ' ' :: '│' :: ' ' :: right) =
      measure.width left + 3 + measure.width right := by
  have notBlank : escape ≠ ' ' := by decide
  have inFrame : '│' ∈ Text.frame := by decide
  have notBar : escape ≠ '│' := escape_ne_of_mem_frame inFrame
  have stroke : measure.width ['│'] = 1 := documented.frame (List.forall_mem_singleton.mpr inFrame)
  have alone : escape ∉ ['│'] := by simpa using notBar
  have behind : escape ∉ '│' :: ' ' :: right := by simp [notBar, notBlank, plainRight]
  have rest := documented.blank alone plainRight
  rw [List.singleton_append, stroke] at rest
  rw [documented.blank plainLeft behind, rest]
  omega

theorem rowLine (align : Align) {first second : Nat} {left right : List Char}
    (plainLeft : escape ∉ left) (plainRight : escape ∉ right)
    (fitsLeft : measure.width left ≤ first) (fitsRight : measure.width right ≤ second) :
    measure.width (Grid.rowLine measure align first second left right) = first + second + 7 := by
  have notBlank : escape ≠ ' ' := by decide
  have front := not_mem_fill notBlank plainLeft measure align first
  have back := not_mem_fill notBlank plainRight measure .left second
  have parts : Grid.rowLine measure align first second left right =
      (List.replicate 2 ' ' ++ Text.fill measure align first left) ++
        ' ' :: '│' :: ' ' :: (Text.fill measure .left second right ++ List.replicate 2 ' ') :=
    List.append_assoc _ _ _
  rw [parts, documented.bar (by simp [front, notBlank]) (by simp [back, notBlank]),
    documented.blanks_append front, documented.append_blanks back,
    documented.fill align plainLeft fitsLeft, documented.fill .left plainRight fitsRight]
  omega

theorem ruler (first second : Nat) {junction : Char} (drawn : junction ∈ Text.frame) :
    measure.width (Grid.ruler first second junction) = first + second + 7 := by
  have strokes (count : Nat) : ∀ c ∈ List.replicate count '─', c ∈ Text.frame := by
    intro c member
    rw [List.eq_of_mem_replicate member]
    exact List.mem_cons_self
  have inside : ∀ c ∈ List.replicate (first + 2) '─' ++ junction :: List.replicate (second + 2) '─',
      c ∈ Text.frame :=
    List.forall_mem_append.mpr ⟨strokes _, List.forall_mem_cons.mpr ⟨drawn, strokes _⟩⟩
  have plain : escape ∉ List.replicate (first + 2) '─' ++ junction ::
      List.replicate (second + 2) '─' :=
    fun member => escape_ne_of_mem_frame (inside escape member) rfl
  have notBlank : escape ≠ ' ' := by decide
  have front : escape ∉ ' ' :: (List.replicate (first + 2) '─' ++ junction ::
      List.replicate (second + 2) '─') := by
    rw [List.mem_cons]
    exact not_or.mpr ⟨notBlank, plain⟩
  rw [Grid.ruler, List.cons_append, documented.blank front List.not_mem_nil,
    documented.blank_cons plain, documented.frame inside, documented.nil]
  simp only [List.length_append, List.length_cons, List.length_replicate]
  omega

end Measure.Documented

/-! ## Tables without a character -/

namespace Grid

variable {grid : Grid} {c : Char}

/-- No cell of the table holds the character. -/
def Avoids (grid : Grid) (c : Char) : Prop :=
  ∀ row ∈ grid.titles :: grid.rows, c ∉ row.1 ∧ c ∉ row.2

/-- No line of a cell of the table holds the character. -/
def LinesAvoid (grid : Grid) (c : Char) : Prop :=
  ∀ row ∈ grid.titles :: grid.rows,
    (∀ line ∈ lines row.1, c ∉ line) ∧ ∀ line ∈ lines row.2, c ∉ line

theorem Avoids.linesAvoid (avoids : grid.Avoids c) : grid.LinesAvoid c := by
  intro row inGrid
  obtain ⟨first, second⟩ := avoids row inGrid
  exact ⟨fun line inCell inside => first (mem_of_mem_lines line inCell inside),
    fun line inCell inside => second (mem_of_mem_lines line inCell inside)⟩

/-- Below its end a cell shows empty lines, which hold no character at all. -/
theorem LinesAvoid.shown (absent : grid.LinesAvoid c) {row : List Char × List Char}
    (inGrid : row ∈ grid.titles :: grid.rows) :
    (∀ line ∈ [] :: lines row.1, c ∉ line) ∧ ∀ line ∈ [] :: lines row.2, c ∉ line :=
  ⟨List.forall_mem_cons.mpr ⟨List.not_mem_nil, (absent row inGrid).1⟩,
    List.forall_mem_cons.mpr ⟨List.not_mem_nil, (absent row inGrid).2⟩⟩

theorem not_mem_rowLine (notBlank : c ≠ ' ') (notFrame : c ∉ frame) {left right : List Char}
    (absentLeft : c ∉ left) (absentRight : c ∉ right) (measure : Measure) (align : Align)
    (first second : Nat) : c ∉ rowLine measure align first second left right := by
  have notBar : c ≠ '│' := by
    intro same
    subst same
    exact notFrame (by decide)
  simp [rowLine, notBlank, notBar, not_mem_fill notBlank absentLeft,
    not_mem_fill notBlank absentRight]

theorem not_mem_ruler (notBlank : c ≠ ' ') (notFrame : c ∉ frame) {junction : Char}
    (drawn : junction ∈ frame) (first second : Nat) : c ∉ ruler first second junction := by
  have notDrawn {junction : Char} (drawn : junction ∈ frame) : c ≠ junction := by
    intro same
    rw [same] at notFrame
    exact notFrame drawn
  have notStroke : c ≠ '─' := notDrawn List.mem_cons_self
  simp [ruler, notBlank, notStroke, notDrawn drawn]

/-- What a drawing holds besides blanks and line-drawing characters comes from the cells. -/
theorem LinesAvoid.not_mem_of_mem_drawing (absent : grid.LinesAvoid c) (notBlank : c ≠ ' ')
    (notFrame : c ∉ frame) : ∀ line ∈ grid.drawing measure, c ∉ line := by
  intro line drawn
  rcases drawing_cases drawn with
    ⟨row, inGrid, left, inLeft, right, inRight, rfl⟩ | ⟨junction, isFrame, rfl⟩
  · obtain ⟨first, second⟩ := absent.shown inGrid
    exact not_mem_rowLine notBlank notFrame (first left inLeft) (second right inRight) _ _ _ _
  · exact not_mem_ruler notBlank notFrame isFrame _ _

theorem newline_not_mem_of_mem_drawing : ∀ line ∈ grid.drawing measure, '\n' ∉ line := by
  have absent : grid.LinesAvoid '\n' := fun _ _ =>
    ⟨newline_not_mem_of_mem_lines, newline_not_mem_of_mem_lines⟩
  exact absent.not_mem_of_mem_drawing (by decide) (by decide)

/-- The lines of the drawn text are the lines that were drawn. -/
theorem lines_text (measure : Measure) (grid : Grid) :
    lines (grid.text measure) = grid.drawing measure := by
  refine lines_unlines fun line drawn => ⟨newline_not_mem_of_mem_drawing line drawn, ?_⟩
  -- A cell may hold carriage returns, but none of them comes to stand at the end of a drawn line.
  have blank : line.getLast? = some ' ' := by
    rcases drawing_cases drawn with ⟨row, -, left, -, right, -, rfl⟩ | ⟨junction, -, rfl⟩
    · rw [rowLine, List.getLast?_append_of_ne_nil _ (List.cons_ne_nil _ _)]
      rfl
    · rw [ruler, List.getLast?_append_of_ne_nil _ (List.cons_ne_nil _ _)]
      rfl
  rw [blank]
  decide

/-- A row of two drawings is as high as the higher one. -/
theorem rowHeight_texts (measure : Measure) (grid other : Grid) :
    rowHeight (grid.text measure, other.text measure) =
      max 1 (max (grid.drawing measure).length (other.drawing measure).length) := by
  rw [rowHeight, lines_text, lines_text]

theorem Avoids.not_mem_of_mem_drawing (avoids : grid.Avoids escape) :
    ∀ line ∈ grid.drawing measure, escape ∉ line :=
  avoids.linesAvoid.not_mem_of_mem_drawing (by decide) (by decide)

theorem Avoids.not_mem_text (avoids : grid.Avoids escape) (measure : Measure) :
    escape ∉ grid.text measure := by
  have notNewline : escape ≠ '\n' := by decide
  simpa [Grid.text, unlines, notNewline] using avoids.not_mem_of_mem_drawing

/-- Without line feeds each row has one line. -/
theorem Avoids.rowHeight_eq_one (avoids : grid.Avoids '\n') :
    ∀ row ∈ grid.titles :: grid.rows, rowHeight row = 1 := by
  have single {cell : List Char} (noNewline : '\n' ∉ cell) : (lines cell).length ≤ 1 := by
    by_cases empty : cell = []
    · simp [empty]
    · simp [lines_of_no_newline empty noNewline]
  intro row inGrid
  have first := single (avoids row inGrid).1
  have second := single (avoids row inGrid).2
  unfold rowHeight
  omega

/-- The number of lines of a drawing of a table without line feeds. -/
theorem Avoids.length_drawing (avoids : grid.Avoids '\n') (measure : Measure) :
    (grid.drawing measure).length = grid.rows.length + 3 := by
  obtain ⟨title, rows⟩ := List.forall_mem_cons.mp avoids.rowHeight_eq_one
  rw [Grid.length_drawing, title, List.map_congr_left rows, List.map_const', List.sum_replicate_nat]
  omega

end Grid

/-! ## Rows on a drawing -/

/-- The line holds two texts on the sides of a bar, and blanks besides. -/
def Beside (left right line : List Char) : Prop :=
  ∃ a b c d, line =
    List.replicate a ' ' ++ left ++ List.replicate b ' ' ++ '│' ::
      (List.replicate c ' ' ++ right ++ List.replicate d ' ')

theorem exists_fill_eq (measure : Measure) (align : Align) (target : Nat) (line : List Char) :
    ∃ a b, fill measure align target line =
      List.replicate a ' ' ++ line ++ List.replicate b ' ' := by
  cases align with
  | left => exact ⟨0, target - measure.width line, rfl⟩
  | right => exact ⟨target - measure.width line, 0, (List.append_nil _).symm⟩

/-- In a line of a row the lines of the two cells stand beside each other. -/
theorem beside_rowLine (measure : Measure) (align : Align) (first second : Nat)
    (left right : List Char) :
    Beside left right (Grid.rowLine measure align first second left right) := by
  obtain ⟨a, b, filled⟩ := exists_fill_eq measure align first left
  obtain ⟨c, d, filled'⟩ := exists_fill_eq measure .left second right
  refine ⟨a + 2, b + 1, c + 1, d + 2, ?_⟩
  rw [Grid.rowLine, filled, filled', Nat.add_comm a, Nat.add_comm c, List.replicate_add,
    List.replicate_add, List.replicate_add, List.replicate_add]
  simp

/-- The drawn text of a table holds its rows: line by line the two cells stand beside each other. -/
theorem Grid.exists_beside {grid : Grid} {row : List Char × List Char} {index k : Nat}
    (found : grid.rows[index]? = some row) (below : k < rowHeight row) (measure : Measure) :
    ∃ line, (lines (grid.text measure))[grid.rowStart index + k]? = some line ∧
      Beside (cellLine row.1 k) (cellLine row.2 k) line := by
  rw [lines_text]
  exact ⟨_, getElem?_drawing_row found below, beside_rowLine _ _ _ _ _ _⟩

/-! ## Rectangles -/

namespace Measure.Documented

variable (documented : measure.Documented) {grid : Grid} (avoids : grid.Avoids escape)

include documented avoids

/-- A table without an escape character can be drawn. -/
theorem isMeasurable_grid : grid.isMeasurable measure = true := by
  simp only [Grid.isMeasurable, List.all_eq_true, Bool.and_eq_true]
  intro row inGrid
  obtain ⟨first, second⟩ := avoids.linesAvoid row inGrid
  exact ⟨fun line inCell => documented.isMeasurable (first line inCell),
    fun line inCell => documented.isMeasurable (second line inCell)⟩

/-- The drawing of a table without an escape character is a rectangle. -/
theorem width_of_mem_drawing : ∀ line ∈ grid.drawing measure,
    measure.width line = grid.firstWidth measure + grid.secondWidth measure + 7 := by
  intro line drawn
  rcases Grid.drawing_cases drawn with
    ⟨row, inGrid, left, inLeft, right, inRight, rfl⟩ | ⟨junction, isFrame, rfl⟩
  · obtain ⟨plainLeft, plainRight⟩ := avoids.linesAvoid.shown inGrid
    -- Below its end a cell counts as empty, so the empty line has to fit into its column too.
    have empty (target : Nat) : measure.width [] ≤ target := by
      rw [documented.nil]
      exact Nat.zero_le target
    have fitsLeft : ∀ line ∈ [] :: lines row.1, measure.width line ≤ grid.firstWidth measure :=
      List.forall_mem_cons.mpr
        ⟨empty _, fun line inCell => Grid.width_le_firstWidth inGrid inCell⟩
    have fitsRight : ∀ line ∈ [] :: lines row.2, measure.width line ≤ grid.secondWidth measure :=
      List.forall_mem_cons.mpr
        ⟨empty _, fun line inCell => Grid.width_le_secondWidth inGrid inCell⟩
    exact documented.rowLine grid.align (plainLeft left inLeft) (plainRight right inRight)
      (fitsLeft left inLeft) (fitsRight right inRight)
  · exact documented.ruler _ _ isFrame

end Measure.Documented

end SlotAsm.Text
