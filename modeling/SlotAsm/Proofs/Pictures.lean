import SlotAsm.Display
import SlotAsm.Proofs.Drawings
import SlotAsm.Proofs.Lifecycle
import SlotAsm.Proofs.RoundTrip

/-!
The picture of a machine. Whatever the tables of a machine hold besides tokens and labels is graphic
ASCII, so a character that no token and no label holds is in no table either
(`Program.Avoids.grid`), and a machine without escape characters has a picture: a rectangle under
the status line (`Machine.picture_rectangular`), whatever measure of lines it is drawn with. The
picture shows one row for each instruction, beside the table of the slots (`Machine.ShowsRow`), and
the marked row is that of the next instruction (`Machine.marksRow_iff`).
-/

namespace SlotAsm

/-! ## Graphic text -/

/-- The characters of ASCII that are drawn. -/
def IsGraphic (c : Char) : Prop :=
  0x20 ≤ c.toNat ∧ c.toNat < 0x7F

instance : DecidablePred IsGraphic :=
  fun _ => inferInstanceAs (Decidable (_ ∧ _))

theorem escape_control : Text.escape.toNat < 0x20 := by
  decide

theorem newline_control : '\n'.toNat < 0x20 := by
  decide

/-- Text of nothing but drawn characters of ASCII. -/
def Graphic (text : List Char) : Prop :=
  ∀ c ∈ text, IsGraphic c

instance (text : List Char) : Decidable (Graphic text) :=
  decidable_of_iff (text.all fun c => decide (IsGraphic c)) (by simp [Graphic])

theorem IsGraphic.ne_control {c d : Char} (graphic : IsGraphic d) (control : c.toNat < 0x20) :
    c ≠ d := by
  rintro rfl
  exact absurd graphic.1 (Nat.not_le.mpr control)

theorem Graphic.not_mem {c : Char} {text : List Char} (graphic : Graphic text)
    (control : c.toNat < 0x20) : c ∉ text :=
  fun member => (graphic c member).ne_control control rfl

theorem graphic_repr (n : Nat) : Graphic n.repr.toList := by
  intro c member
  rw [Nat.toList_repr] at member
  have digit := toNat_of_isDigit (Nat.isDigit_of_mem_toDigits (by decide) (Nat.le_refl 10) member)
  exact ⟨by omega, by omega⟩

theorem Value.graphic_text (value : Value) : Graphic value.text.toList := by
  have written : value.text = Int.repr value.toInt := rfl
  rw [written]
  cases value.toInt with
  | ofNat n => exact graphic_repr n
  | negSucc n =>
    have signed : (Int.repr (.negSucc n)).toList = '-' :: (n + 1).repr.toList := by simp [Int.repr]
    rw [signed]
    exact List.forall_mem_cons.mpr ⟨by decide, graphic_repr (n + 1)⟩

theorem Operation.graphic_name (operation : Operation) : Graphic operation.name.toList := by
  cases operation <;> decide

/-! ## What the tables hold -/

/-- The table of the slots is written in graphic text. -/
theorem Store.graphic_grid (store : Store) :
    ∀ row ∈ store.grid.titles :: store.grid.rows, Graphic row.1 ∧ Graphic row.2 := by
  have titles : Graphic "Slot".toList ∧ Graphic "Contents".toList := by decide
  have name (slot : Slot) : Graphic (slot.name ++ " =").toList := by
    cases slot <;> decide
  have contents (held : Option Value) : Graphic (contentsText held).toList := by
    cases held with
    | none => decide
    | some value => exact value.graphic_text
  exact List.forall_mem_cons.mpr
    ⟨titles, List.forall_mem_map.mpr fun slot _ => ⟨name slot, contents _⟩⟩

theorem Store.avoids_grid (store : Store) {c : Char} (control : c.toNat < 0x20) :
    store.grid.Avoids c := by
  intro row inGrid
  obtain ⟨first, second⟩ := store.graphic_grid row inGrid
  exact ⟨first.not_mem control, second.not_mem control⟩

theorem not_mem_intercalate {c : Char} {separator : List Char} {parts : List (List Char)}
    (between : c ∉ separator) (within : ∀ part ∈ parts, c ∉ part) :
    c ∉ separator.intercalate parts := by
  induction parts with
  | nil => exact List.not_mem_nil
  | cons part parts ih =>
    obtain ⟨first, others⟩ := List.forall_mem_cons.mp within
    cases parts with
    | nil => simpa using first
    | cons next parts =>
      rw [List.intercalate_cons_cons]
      simp [first, between, ih others]

namespace Program

variable {program : Program} {c : Char}

/-- No token and no label of the program holds the character. -/
def Avoids (program : Program) (c : Char) : Prop :=
  (∀ instruction ∈ program.instructions, ∀ token ∈ instruction.tokens, c ∉ token.toList) ∧
    ∀ entry ∈ program.labels.toList, c ∉ entry.1.toList

instance (program : Program) (c : Char) : Decidable (program.Avoids c) :=
  inferInstanceAs (Decidable (_ ∧ _))

theorem Avoids.address (avoids : program.Avoids c) (control : c.toNat < 0x20) (index : Nat) :
    c ∉ (program.address index).toList := by
  have notIndex : c ∉ Nat.toDigits 10 index := by
    rw [← Nat.toList_repr]
    exact (graphic_repr index).not_mem control
  have notMark : c ≠ labelMark := IsGraphic.ne_control (by decide) control
  have notBlank : c ≠ ' ' := IsGraphic.ne_control (by decide) control
  unfold Program.address
  cases found : program.labels.labelsAt index with
  | nil => simpa using notIndex
  | cons label labels =>
    have notLabel : ∀ part ∈ (label :: labels).map String.toList, c ∉ part := by
      refine List.forall_mem_map.mpr fun label listed => ?_
      rw [← found] at listed
      obtain ⟨entry, kept, rfl⟩ := List.mem_map.mp listed
      exact avoids.2 entry (List.mem_of_mem_filter kept)
    have joined : c ∉ [' '].intercalate ((label :: labels).map String.toList) :=
      not_mem_intercalate (by simpa using notBlank) notLabel
    have blank : (toString " ").toList = [' '] := rfl
    simpa [notMark, notBlank, notIndex, blank] using joined

theorem Avoids.text (avoids : program.Avoids c) (control : c.toNat < 0x20)
    {instruction : Instruction} (listed : instruction ∈ program.instructions) :
    c ∉ instruction.text.toList := by
  have notBlank : c ≠ ' ' := IsGraphic.ne_control (by decide) control
  have notMnemonic := instruction.operation.graphic_name.not_mem control
  rw [Instruction.toList_text]
  simpa [notMnemonic, notBlank] using avoids.1 instruction listed

/-- What no token and no label holds is not in the table of the instructions. -/
theorem Avoids.grid (avoids : program.Avoids c) (control : c.toNat < 0x20) (pc : Nat) :
    (program.grid pc).Avoids c := by
  have graphic : Graphic nextMark.toList ∧ Graphic "Address".toList ∧
      Graphic "Instruction".toList := by
    decide
  have notMark : c ∉ nextMark.toList := graphic.1.not_mem control
  have titles : c ∉ "Address".toList ∧ c ∉ "Instruction".toList :=
    ⟨graphic.2.1.not_mem control, graphic.2.2.not_mem control⟩
  refine List.forall_mem_cons.mpr ⟨titles, fun row inRows => ?_⟩
  obtain ⟨index, below, rfl⟩ := List.mem_mapIdx.mp inRows
  refine ⟨?_, avoids.text control (List.getElem_mem below)⟩
  have notAddress := avoids.address control index
  simp only [Program.row, String.toList_append, List.mem_append]
  split <;> simp [notMark, notAddress]

/-- The rows of the table are those of the instructions in their order. -/
theorem getElem?_rows (program : Program) (pc index : Nat) :
    (program.grid pc).rows[index]? = (program.get? index).map (program.row pc index) :=
  List.getElem?_mapIdx

/-- An address begins with a digit or the mark of labels. -/
theorem exists_address_eq_cons (program : Program) (index : Nat) :
    ∃ c rest, (program.address index).toList = c :: rest ∧
      (c.isDigit = true ∨ c = labelMark) := by
  unfold Program.address
  cases program.labels.labelsAt index with
  | nil =>
    obtain ⟨c, rest, digits⟩ := List.exists_cons_of_ne_nil (@Nat.toDigits_ne_nil index 10)
    have digit : c.isDigit = true :=
      Nat.isDigit_of_mem_toDigits (by decide) (Nat.le_refl 10) (digits ▸ List.mem_cons_self)
    exact ⟨c, rest, by simpa using digits, .inl digit⟩
  | cons label labels =>
    refine ⟨labelMark, (" ".intercalate (label :: labels) ++ s!" {index}").toList, ?_, .inr rfl⟩
    dsimp only
    rw [String.append_assoc, String.toList_append, String.toList_singleton, List.singleton_append]

/-- The first line of an address begins with neither a blank nor what the mark begins with. -/
theorem exists_cellLine_address_eq_cons (program : Program) (index : Nat) :
    ∃ c rest, Text.cellLine (program.address index).toList 0 = c :: rest ∧ c ≠ ' ' ∧ c ≠ '*' := by
  obtain ⟨c, rest, address, first⟩ := program.exists_address_eq_cons index
  have different : ∀ d, d.isDigit = false → d ≠ labelMark → c ≠ d := by
    intro d notDigit notMark same
    subst same
    rcases first with digit | mark
    · rw [notDigit] at digit
      cases digit
    · exact notMark mark
  have plain : ∀ d ∈ [c], d ≠ '\n' ∧ d ≠ '\r' := by
    intro d member
    rw [List.mem_singleton.mp member]
    exact ⟨different '\n' rfl (by decide), different '\r' rfl (by decide)⟩
  have line := Text.cellLine_zero_append plain rest
  rw [List.singleton_append] at line
  rw [address, line]
  exact ⟨c, _, rfl, different ' ' rfl (by decide), different '*' rfl (by decide)⟩

end Program

namespace Machine

variable {machine : Machine} {measure : Text.Measure}

/-! ## The picture -/

/-- A line of the drawn table of the slots. -/
def slotLine (measure : Text.Measure) (machine : Machine) (n : Nat) : List Char :=
  Text.cellLine (machine.store.grid.text measure) n

/-- A line of the drawn table of the instructions. -/
def codeLine (measure : Text.Measure) (machine : Machine) (n : Nat) : List Char :=
  Text.cellLine ((machine.program.grid machine.pc).text measure) n

/-- The picture shows the line of the given number of both tables, beside each other under the
titles. -/
def ShowsLine (measure : Text.Measure) (machine : Machine) (n : Nat) : Prop :=
  ∃ line, (Text.lines ((machine.grid measure).text measure))[2 + n]? = some line ∧
    Text.Beside (machine.slotLine measure n) (machine.codeLine measure n) line

/-- The picture shows the row at the given index of the table of the instructions. -/
def ShowsRow (measure : Text.Measure) (machine : Machine) (index : Nat)
    (row : List Char × List Char) : Prop :=
  let start := (machine.program.grid machine.pc).rowStart index
  ∀ k < Text.Grid.rowHeight row, machine.ShowsLine measure (start + k) ∧
    Text.Beside (Text.cellLine row.1 k) (Text.cellLine row.2 k)
      (machine.codeLine measure (start + k))

/-- The picture has the mark in front of the row at the given index. -/
def MarksRow (measure : Text.Measure) (machine : Machine) (index : Nat) : Prop :=
  let start := (machine.program.grid machine.pc).rowStart index
  index < machine.program.length ∧ machine.ShowsLine measure start ∧
    ∃ blanks rest, machine.codeLine measure start =
      List.replicate blanks ' ' ++ nextMark.toList ++ rest

/-- The picture shows every line of the higher one of the two tables. -/
theorem showsLine_of_lt {n : Nat}
    (below : n < max (machine.store.grid.drawing measure).length
      ((machine.program.grid machine.pc).drawing measure).length) :
    machine.ShowsLine measure n := by
  have row : (machine.grid measure).rows[0]? = some (machine.store.grid.text measure,
      (machine.program.grid machine.pc).text measure) := rfl
  have start : (machine.grid measure).rowStart 0 = 2 := rfl
  have inside : n < Text.Grid.rowHeight (machine.store.grid.text measure,
      (machine.program.grid machine.pc).text measure) := by
    rw [Text.Grid.rowHeight_texts]
    omega
  have shown := Text.Grid.exists_beside row inside measure
  rw [start] at shown
  exact shown

/-- The picture shows the rows of the table of the instructions. -/
theorem showsRow {index : Nat} {row : List Char × List Char}
    (found : (machine.program.grid machine.pc).rows[index]? = some row) (measure : Text.Measure) :
    machine.ShowsRow measure index row := by
  intro k below
  obtain ⟨line, drawn, beside⟩ := Text.Grid.exists_beside found below measure
  have shown : machine.codeLine measure
      ((machine.program.grid machine.pc).rowStart index + k) = line := by
    rw [codeLine, Text.cellLine, drawn, Option.getD_some]
  rw [Text.Grid.lines_text] at drawn
  have inside := (List.getElem?_eq_some_iff.mp drawn).1
  refine ⟨showsLine_of_lt (Nat.lt_of_lt_of_le inside (Nat.le_max_right _ _)), ?_⟩
  rw [shown]
  exact beside

/-- Blanks before two characters that are none leave the characters equal. -/
theorem eq_of_blanks_append_eq {c d : Char} {text rest : List Char} {n k : Nat}
    (notBlank : c ≠ ' ') (notBlank' : d ≠ ' ')
    (same : List.replicate n ' ' ++ c :: text = List.replicate k ' ' ++ d :: rest) : c = d := by
  induction n generalizing k with
  | zero =>
    cases k with
    | zero => exact (List.cons.inj same).1
    | succ k => exact absurd (List.cons.inj same).1 notBlank
  | succ n ih =>
    cases k with
    | zero => exact absurd (List.cons.inj same).1.symm notBlank'
    | succ k => exact ih (List.cons.inj same).2

/-- The first line of a row holds the first line of the address, with the mark before it if the
instruction is next. -/
theorem exists_codeLine_eq {index : Nat} {instruction : Instruction}
    (listed : machine.program.get? index = some instruction) (measure : Text.Measure) :
    machine.ShowsLine measure ((machine.program.grid machine.pc).rowStart index) ∧
      ∃ blanks rest, machine.codeLine measure ((machine.program.grid machine.pc).rowStart index) =
        List.replicate blanks ' ' ++ ((if index = machine.pc then nextMark.toList else []) ++
          Text.cellLine (machine.program.address index).toList 0 ++ rest) := by
  have row : (machine.program.grid machine.pc).rows[index]? =
      some (machine.program.row machine.pc index instruction) := by
    rw [Program.getElem?_rows, listed, Option.map_some]
  obtain ⟨shown, a, b, c, d, line⟩ := showsRow row measure 0 (Nat.le_max_left 1 _)
  rw [Nat.add_zero] at shown line
  have plain : ∀ c ∈ nextMark.toList, c ≠ '\n' ∧ c ≠ '\r' := by
    have graphic : Graphic nextMark.toList := by decide
    intro c member
    exact ⟨((graphic c member).ne_control newline_control).symm,
      ((graphic c member).ne_control (by decide)).symm⟩
  have cell : Text.cellLine (machine.program.row machine.pc index instruction).1 0 =
      (if index = machine.pc then nextMark.toList else []) ++
        Text.cellLine (machine.program.address index).toList 0 := by
    by_cases next : index = machine.pc
    · simp only [Program.row, if_pos next, String.toList_append,
        Text.cellLine_zero_append plain]
    · simp only [Program.row, if_neg next, String.empty_append, List.nil_append]
  rw [cell] at line
  exact ⟨shown, a, _, (line.trans (List.append_assoc _ _ _)).trans (List.append_assoc _ _ _)⟩

/-- The marked row is that of the next instruction. -/
theorem marksRow_iff {index : Nat} :
    machine.MarksRow measure index ↔ index = machine.pc ∧ machine.current? ≠ none := by
  constructor
  · intro marked
    rcases marked with ⟨inside, -, n, text, shown⟩
    have listed : machine.program.get? index = some machine.program.instructions[index] :=
      List.getElem?_eq_getElem inside
    obtain ⟨-, k, rest, line⟩ := exists_codeLine_eq listed measure
    have next : index = machine.pc := by
      by_contra other
      obtain ⟨c, address, first, notBlank, notStar⟩ :=
        machine.program.exists_cellLine_address_eq_cons index
      rw [shown, if_neg other, first, List.append_assoc] at line
      exact notStar (eq_of_blanks_append_eq (by decide) notBlank line).symm
    refine ⟨next, ?_⟩
    rw [current?, ← next, listed]
    exact Option.some_ne_none _
  · intro next
    rcases next with ⟨rfl, running⟩
    obtain ⟨instruction, listed⟩ := Option.ne_none_iff_exists'.mp running
    obtain ⟨shown, n, rest, line⟩ := exists_codeLine_eq listed measure
    refine ⟨Program.get?_eq_some_lt listed, shown, n,
      Text.cellLine (machine.program.address machine.pc).toList 0 ++ rest, ?_⟩
    rw [line, if_pos rfl]
    simp only [List.append_assoc]

theorem avoids_grid (plain : machine.program.Avoids Text.escape) (measure : Text.Measure) :
    (machine.grid measure).Avoids Text.escape := by
  have graphic : Graphic "Slots".toList ∧ Graphic "Code".toList := by decide
  have titles : Text.escape ∉ "Slots".toList ∧ Text.escape ∉ "Code".toList :=
    ⟨graphic.1.not_mem escape_control, graphic.2.not_mem escape_control⟩
  have slots : Text.escape ∉ machine.store.grid.text measure :=
    (machine.store.avoids_grid escape_control).not_mem_text measure
  have code : Text.escape ∉ (machine.program.grid machine.pc).text measure :=
    (plain.grid escape_control machine.pc).not_mem_text measure
  refine List.forall_mem_cons.mpr ⟨titles, List.forall_mem_singleton.mpr ?_⟩
  dsimp only
  exact ⟨slots, code⟩

/-- A machine whose tokens and labels are without escape characters has a picture. -/
theorem hasPicture_of_avoids (documented : measure.Documented)
    (plain : machine.program.Avoids Text.escape) : machine.hasPicture measure = true := by
  have slots := documented.isMeasurable_grid (machine.store.avoids_grid escape_control)
  have code := documented.isMeasurable_grid (plain.grid escape_control machine.pc)
  have both := documented.isMeasurable_grid (avoids_grid plain measure)
  simp [hasPicture, slots, code, both]

/-- The number of lines of the picture under the status line. -/
theorem length_drawing (measure : Text.Measure) (machine : Machine) :
    ((machine.grid measure).drawing measure).length = 3 +
      max 13 (((machine.program.grid machine.pc).rows.map Text.Grid.rowHeight).sum + 3) := by
  have titles : Text.Grid.rowHeight (machine.grid measure).titles = 1 := rfl
  have codeTitles : Text.Grid.rowHeight (machine.program.grid machine.pc).titles = 1 := rfl
  have slots : (machine.store.grid.drawing measure).length = 13 :=
    (machine.store.avoids_grid newline_control).length_drawing measure
  have rows : (machine.grid measure).rows = [(machine.store.grid.text measure,
      (machine.program.grid machine.pc).text measure)] := rfl
  rw [Text.Grid.length_drawing, titles, rows, List.map_singleton, List.sum_singleton,
    Text.Grid.rowHeight_texts, slots, Text.Grid.length_drawing, codeTitles]
  omega

/-- The picture of a machine whose tokens and labels are without escape characters, by any measure
of lines that does what is documented. There is a picture, with a status line and under it a
rectangle. The rectangle shows a row for each instruction, and the mark is in the row of the
instruction that is next. -/
theorem picture_rectangular (documented : measure.Documented)
    (plain : machine.program.Avoids Text.escape) :
    let code := machine.program.grid machine.pc
    let table := machine.grid measure
    let columns := table.firstWidth measure + table.secondWidth measure + 7
    let height := (code.rows.map Text.Grid.rowHeight).sum
    let drawn := Text.lines (table.text measure)
    machine.hasPicture measure = true ∧
    (∃ error : String, machine.picture measure =
      s!"State: {machine.status.name}{error}\tpc = {machine.pc}\n" ++
        String.ofList (table.text measure)) ∧
    (∀ line ∈ drawn, measure.width line = columns) ∧
    drawn.length = 3 + max 13 (height + 3) ∧
    (machine.program.Avoids '\n' → ∀ row ∈ code.rows, Text.Grid.rowHeight row = 1) ∧
    (∀ index, code.rows[index]? = (machine.program.get? index).map fun instruction =>
      (((if index = machine.pc then "* --> " else "") ++ machine.program.address index).toList,
        instruction.text.toList)) ∧
    (∀ index row, code.rows[index]? = some row → machine.ShowsRow measure index row) ∧
    (∀ index < machine.program.length, machine.MarksRow measure index ↔ index = machine.pc) ∧
    (machine.status = .ready ∨ machine.status = .halted →
      ∀ index, machine.MarksRow measure index ↔ index = machine.pc) ∧
    (machine.status = .idle ∨ machine.status = .complete →
      ∀ index, ¬ machine.MarksRow measure index) := by
  intro code table columns height drawn
  have lines : drawn = table.drawing measure := Text.Grid.lines_text measure table
  refine ⟨hasPicture_of_avoids documented plain, ⟨_, rfl⟩, ?_, ?_, ?_, ?_, ?_, ?_, ?_, ?_⟩
  · intro line member
    rw [lines] at member
    exact documented.width_of_mem_drawing (avoids_grid plain measure) line member
  · rw [lines]
    exact length_drawing measure machine
  · intro noNewline row inRows
    exact (noNewline.grid newline_control machine.pc).rowHeight_eq_one row
      (List.mem_cons_of_mem _ inRows)
  · exact machine.program.getElem?_rows machine.pc
  · intro index row found
    exact showsRow found measure
  · intro index inside
    have listed : machine.program.get? index = some machine.program.instructions[index] :=
      List.getElem?_eq_getElem inside
    rw [marksRow_iff, and_iff_left_iff_imp]
    intro next
    rw [current?, ← next, listed]
    exact Option.some_ne_none _
  · intro running index
    have current : machine.current? ≠ none := by
      rw [Ne, current?_eq_none_iff_status]
      rcases running with ready | halted
      · simp [ready]
      · simp [halted]
    simp [marksRow_iff, current]
  · intro stopped index marked
    exact (marksRow_iff.mp marked).2 (current?_eq_none_iff_status.mpr stopped)

/-- A program that no source has: the first instruction is written on eleven lines, with a wide
character and one that is joined to the letter before it, and the second has a label that is a line
feed. -/
def tallProgram : Program where
  instructions := [⟨.str, ["界\n\ne\u0301\n\n\n\n\n\n\n\n+"]⟩, ⟨.add, ["A", "B"]⟩]
  labels := .ofList [("é", 1), ("\n", 1)]

set_option maxRecDepth 8000 in
/-- The program is drawn on 51 columns and 19 lines, both when characters that are drawn as one are
counted as one and when each character is counted by itself. -/
theorem picture_rectangular_tall :
    let machine := ofProgram tallProgram
    let sum := Text.Measure.byCharacter fun c => Text.codePointColumns c.toNat
    machine.program.Avoids Text.escape ∧ machine.isDrawable = true ∧
    (∀ line ∈ Text.lines ((machine.grid .terminal).text .terminal),
      Text.Measure.terminal.width line = 51) ∧
    (∀ line ∈ Text.lines ((machine.grid sum).text sum), sum.width line = 51) ∧
    (Text.lines ((machine.grid sum).text sum)).length = 19 ∧
    (∀ index, machine.MarksRow sum index ↔ index = 0) := by
  intro machine sum
  have plain : machine.program.Avoids Text.escape := by decide
  have documented : sum.Documented := Text.Measure.documented_byCodePoint
  have columns : (machine.grid .terminal).firstWidth .terminal +
      (machine.grid .terminal).secondWidth .terminal + 7 = 51 := by decide
  have columns' : (machine.grid sum).firstWidth sum +
      (machine.grid sum).secondWidth sum + 7 = 51 := by decide
  have heights : ((machine.program.grid machine.pc).rows.map Text.Grid.rowHeight).sum = 13 := by
    decide
  obtain ⟨drawable, -, wide, -⟩ := picture_rectangular Text.Measure.documented_terminal plain
  obtain ⟨-, -, wide', height, -, -, -, -, marked, -⟩ := picture_rectangular documented plain
  refine ⟨plain, drawable, fun line drawn => ?_, fun line drawn => ?_, ?_, marked (.inl rfl)⟩
  · rw [wide line drawn, columns]
  · rw [wide' line drawn, columns']
  · rw [height, heights]
    rfl

end Machine

end SlotAsm
