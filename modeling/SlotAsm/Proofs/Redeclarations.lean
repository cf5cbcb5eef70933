import SlotAsm.Proofs.Declarations

/-!
The labels that a text declares anew. `Redeclares` says it of the lines of the text: a line declares
a label that an earlier line declares too, and the label gives up the number of instruction lines
before the last such earlier line. `redeclarations` lists these declarations, each once and in the
order of their lines, as far as the text can be read (`mem_redeclarations_iff`,
`pairwise_redeclarations`).
-/

namespace SlotAsm

open Text (lines)
open Grammar (Declares Line)

/-- A line, with no wrong line before it, declares a label that was declared before. The last line
before it that declares the label comes after as many instruction lines as the redeclaration
says. -/
inductive Redeclares : List (List Char) → Redeclaration → Prop
  | intro {before between after : List (List Char)} {first again : List Char} {label : String} :
      (∀ line ∈ before ++ first :: between, Line line) →
      Declares first label.toList → (∀ line ∈ between, ¬ Declares line label.toList) →
      Declares again label.toList →
      Redeclares (before ++ first :: between ++ again :: after)
        ⟨label, before.length + between.length + 2, before.countP isInstruction⟩

/-! ## One line after another -/

section

variable {line : List Char} {stated : Option Statement} {ls front others : List (List Char)}
  {number : Nat} {redeclaration : Redeclaration}

namespace Program

/-- The program of lines and of one line more. -/
theorem ofLines_append_singleton (front : List (List Char))
    (read : Statement.ofLine line = .ok stated) :
    ofLines (front ++ [line]) = stated.elim (ofLines front) (extend (ofLines front)) := by
  have here : Statement.ofLine? line = stated := by
    simp [Statement.ofLine?, read, Except.toOption]
  cases stated with
  | none => simp [ofLines, here]
  | some statement => simp [ofLines, ofStatements, here]

end Program

/-- The redeclaration that a line makes after other lines, if it makes one. -/
def redeclaredBy (front : List (List Char)) (number : Nat) : Option Statement → Option Redeclaration
  | some (.label name) => ((Program.ofLines front).labels.get? name).map (⟨name, number, ·⟩)
  | _ => none

theorem redeclaredBy_eq_some_iff (read : Statement.ofLine line = .ok stated) :
    redeclaredBy front number stated = some redeclaration ↔
      Declares line redeclaration.label.toList ∧ redeclaration.line = number ∧
        (Program.ofLines front).labels.get? redeclaration.label = some redeclaration.previous := by
  obtain ⟨label, place, previous⟩ := redeclaration
  rw [← Statement.ofLine_eq_label_iff, read]
  cases stated with
  | none => simp [redeclaredBy]
  | some statement =>
    cases statement with
    | instruction given => simp [redeclaredBy]
    | label name =>
      simp only [redeclaredBy, Option.map_eq_some_iff, Redeclaration.mk.injEq, Except.ok.injEq,
        Option.some.injEq, Statement.label.injEq]
      constructor
      · intro here
        rcases here with ⟨_, declared, rfl, rfl, rfl⟩
        exact ⟨rfl, rfl, declared⟩
      · intro here
        rcases here with ⟨rfl, rfl, declared⟩
        exact ⟨_, declared, rfl, rfl, rfl⟩

/-- A line that can be read makes its redeclaration before the lines after it make theirs. -/
theorem redeclarationsAfter_cons (front others : List (List Char)) (number : Nat)
    (read : Statement.ofLine line = .ok stated) :
    redeclarationsAfter (Program.ofLines front)
        (Reading.ofLines number (line :: others)).statements =
      (redeclaredBy front number stated).toList ++
        redeclarationsAfter (Program.ofLines (front ++ [line]))
          (Reading.ofLines (number + 1) others).statements := by
  rw [Reading.ofLines, read, Program.ofLines_append_singleton front read]
  cases stated with
  | none => rfl
  | some statement =>
    cases statement with
    | instruction given => rfl
    | label name =>
      simp only [Option.toList, redeclaredBy, List.map_cons, List.map_nil, List.cons_append,
        List.nil_append, redeclarationsAfter, Option.elim]
      cases (Program.ofLines front).labels.get? name <;> rfl

/-- Nothing is redeclared from a wrong line on. -/
theorem redeclarationsAfter_of_wrong (program : Program) (number : Nat)
    (others : List (List Char)) {cause : LineError} (wrong : Statement.ofLine line = .error cause) :
    redeclarationsAfter program (Reading.ofLines number (line :: others)).statements = [] := by
  rw [Reading.ofLines, wrong]
  rfl

/-- The redeclarations that lines make after the lines `front`: each is made by a line that no wrong
line stands before. -/
theorem mem_redeclarationsAfter_iff (front : List (List Char)) :
    redeclaration ∈ redeclarationsAfter (Program.ofLines front)
        (Reading.ofLines (front.length + 1) ls).statements ↔
      ∃ middle again after, ls = middle ++ again :: after ∧
        (∀ line ∈ middle, ∃ statement, Statement.ofLine line = .ok statement) ∧
        Declares again redeclaration.label.toList ∧
        redeclaration.line = front.length + middle.length + 1 ∧
        (Program.ofLines (front ++ middle)).labels.get? redeclaration.label =
          some redeclaration.previous := by
  induction ls generalizing front with
  | nil =>
    refine iff_of_false nofun ?_
    intro made
    rcases made with ⟨middle, again, after, split, -⟩
    cases middle <;> cases split
  | cons head others ih =>
    cases read : Statement.ofLine head with
    | error cause =>
      rw [redeclarationsAfter_of_wrong _ _ _ read]
      refine iff_of_false nofun ?_
      intro made
      rcases made with ⟨middle, again, after, split, readable, declares, -⟩
      rcases List.cons_eq_append_iff.mp split with ⟨rfl, same⟩ | ⟨middle, rfl, -⟩
      · cases same
        rw [Statement.ofLine_eq_label_iff.mpr declares] at read
        cases read
      · rcases readable head List.mem_cons_self with ⟨statement, read'⟩
        cases read.symm.trans read'
    | ok stated =>
      have later := ih (front ++ [head])
      rw [List.length_append, List.length_singleton] at later
      rw [redeclarationsAfter_cons front others _ read, List.mem_append, Option.mem_toList,
        redeclaredBy_eq_some_iff read, later]
      constructor
      · intro made
        rcases made with ⟨declares, place, found⟩ |
          ⟨middle, again, after, rfl, readable, declares, place, found⟩
        · exact ⟨[], head, others, rfl, nofun, declares, place, by rwa [List.append_nil]⟩
        · refine ⟨head :: middle, again, after, rfl,
            List.forall_mem_cons.mpr ⟨⟨stated, read⟩, readable⟩, declares, ?_, ?_⟩
          · rw [place, List.length_cons]
            omega
          · rwa [List.append_assoc, List.singleton_append] at found
      · intro made
        rcases made with ⟨middle, again, after, split, readable, declares, place, found⟩
        rcases List.cons_eq_append_iff.mp split with ⟨rfl, same⟩ | ⟨middle, rfl, rfl⟩
        · cases same
          rw [List.append_nil] at found
          exact .inl ⟨declares, place, found⟩
        · refine .inr ⟨middle, again, after, rfl, (List.forall_mem_cons.mp readable).2, declares,
            ?_, ?_⟩
          · rw [place, List.length_cons]
            omega
          · rwa [List.append_assoc, List.singleton_append]

/-- Redeclarations are made in the order of their lines, one by a line at most. -/
theorem pairwise_redeclarationsAfter (front : List (List Char)) (number : Nat) :
    (∀ made ∈ redeclarationsAfter (Program.ofLines front) (Reading.ofLines number ls).statements,
      number ≤ made.line) ∧
    (redeclarationsAfter (Program.ofLines front) (Reading.ofLines number ls).statements).Pairwise
      fun made later => made.line < later.line := by
  induction ls generalizing front number with
  | nil => exact ⟨nofun, .nil⟩
  | cons head others ih =>
    cases read : Statement.ofLine head with
    | error cause =>
      rw [redeclarationsAfter_of_wrong _ _ _ read]
      exact ⟨nofun, .nil⟩
    | ok stated =>
      rcases ih (front ++ [head]) (number + 1) with ⟨bound, ordered⟩
      have place : ∀ made ∈ (redeclaredBy front number stated).toList, made.line = number :=
        fun made here => ((redeclaredBy_eq_some_iff read).mp (Option.mem_toList.mp here)).2.1
      rw [redeclarationsAfter_cons front others number read]
      refine ⟨fun made member => ?_, List.pairwise_append.mpr ⟨?_, ordered, ?_⟩⟩
      · rcases List.mem_append.mp member with here | later
        · exact (place made here).ge
        · exact Nat.le_of_succ_le (bound made later)
      · cases redeclaredBy front number stated <;> simp
      · intro made here later member
        rw [place made here]
        exact bound later member

end

/-! ## The redeclarations of a text -/

theorem redeclarations_eq (text : String) :
    redeclarations text =
      redeclarationsAfter (Program.ofLines []) (Reading.ofLines 1 (lines text.toList)).statements :=
  rfl

/-- The redeclarations of a text are those that its lines make. -/
theorem mem_redeclarations_iff {text : String} {redeclaration : Redeclaration} :
    redeclaration ∈ redeclarations text ↔ Redeclares (lines text.toList) redeclaration := by
  rw [redeclarations_eq]
  refine Iff.trans (mem_redeclarationsAfter_iff []) ?_
  constructor
  · intro made
    obtain ⟨label, place, previous⟩ := redeclaration
    rcases made with ⟨middle, again, after, split, readable, declares, place, found⟩
    rcases (Program.get?_ofLines_eq_some_iff readable).mp found with
      ⟨before, first, between, rfl, declared, final, rfl⟩
    obtain rfl : _ = before.length + between.length + 2 := place.trans (by simp; omega)
    rw [split]
    exact .intro (fun line member => Statement.exists_ofLine_iff.mp (readable line member))
      declared final declares
  · intro made
    generalize shape : lines text.toList = ls at made
    cases made with
    | @intro before between after first again label readable declared final declares =>
      have readable : ∀ line ∈ before ++ first :: between,
          ∃ statement, Statement.ofLine line = .ok statement :=
        fun line member => Statement.exists_ofLine_iff.mpr (readable line member)
      refine ⟨before ++ first :: between, again, after, rfl, readable, declares, by simp; omega, ?_⟩
      exact (Program.get?_ofLines_eq_some_iff readable).mpr
        ⟨before, first, between, rfl, declared, final, rfl⟩

/-- The redeclarations of a text are listed in the order of their lines. -/
theorem pairwise_redeclarations (text : String) :
    (redeclarations text).Pairwise fun made later => made.line < later.line :=
  (pairwise_redeclarationsAfter [] 1).2

/-- There is one list of the redeclarations of a text in the order of their lines. -/
theorem eq_redeclarations {text : String} {listed : List Redeclaration}
    (ordered : listed.Pairwise fun made later => made.line < later.line)
    (all : ∀ made, made ∈ listed ↔ Redeclares (lines text.toList) made) :
    listed = redeclarations text := by
  have distinct : ∀ {listed : List Redeclaration},
      (listed.Pairwise fun made later => made.line < later.line) → listed.Nodup := by
    intro listed ordered
    unfold List.Nodup
    exact ordered.imp fun lt same => Nat.ne_of_lt lt (congrArg Redeclaration.line same)
  have ordered' := pairwise_redeclarations text
  have permuted : listed.Perm (redeclarations text) :=
    (List.perm_ext_iff_of_nodup (distinct ordered) (distinct ordered')).mpr fun made =>
      (all made).trans mem_redeclarations_iff.symm
  exact permuted.eq_of_pairwise (fun _ _ _ _ lt gt => absurd lt (Nat.lt_asymm gt)) ordered ordered'

end SlotAsm
