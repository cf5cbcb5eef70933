/-!
The label table: which instruction each declared label names. The table lists its labels in
ascending order of their characters' code points, so there is one table for each mapping, whatever
the order in which the labels were declared: `ext_get?` states that. `get?_insert` says that the
last declaration of a label counts, and `mem_labelsAt_iff` that the labels of an index are those
that the table sends there.
-/

namespace SlotAsm

/-- A finite map from labels to indices of instructions. -/
structure LabelTable where
  entries : List (String × Nat)
  ascending : entries.Pairwise (fun entry later => entry.1 < later.1)
  deriving DecidableEq

namespace LabelTable

/-- Puts a label in its place among the entries and drops the label's earlier entry. -/
def insertEntry (label : String) (index : Nat) : List (String × Nat) → List (String × Nat)
  | [] => [(label, index)]
  | entry :: others =>
    if label < entry.1 then (label, index) :: entry :: others
    else if label = entry.1 then (label, index) :: others
    else entry :: insertEntry label index others

/-- Of two different labels that do not ascend, the second comes first. -/
theorem lt_of_not_lt {label other : String} (notBelow : ¬ label < other)
    (different : other ≠ label) : other < label := by
  apply Decidable.byContradiction
  intro notAbove
  exact different (String.le_antisymm (String.not_lt.mp notBelow) (String.not_lt.mp notAbove))

/-- Only the label that is put in place can be new among the labels. -/
theorem mem_insertEntry {label : String} {index : Nat} {entries : List (String × Nat)}
    {entry : String × Nat} (h : entry ∈ insertEntry label index entries) :
    entry = (label, index) ∨ entry ∈ entries := by
  induction entries with
  | nil => simpa [insertEntry] using h
  | cons head others ih =>
    rw [insertEntry] at h
    split at h
    · simpa using h
    · split at h
      · rcases List.mem_cons.mp h with rfl | h
        · exact .inl rfl
        · exact .inr (List.mem_cons_of_mem _ h)
      · rcases List.mem_cons.mp h with rfl | h
        · exact .inr List.mem_cons_self
        · exact (ih h).imp_right (List.mem_cons_of_mem _)

/-- Putting a label in its place keeps the labels in ascending order. -/
theorem ascending_insertEntry (label : String) (index : Nat) {entries : List (String × Nat)}
    (h : entries.Pairwise (fun entry later => entry.1 < later.1)) :
    (insertEntry label index entries).Pairwise (fun entry later => entry.1 < later.1) := by
  induction entries with
  | nil => simp [insertEntry]
  | cons head others ih =>
    obtain ⟨first, rest⟩ := List.pairwise_cons.mp h
    rw [insertEntry]
    split
    · next below =>
      refine List.pairwise_cons.mpr ⟨fun entry member => ?_, h⟩
      rcases List.mem_cons.mp member with rfl | member
      · exact below
      · exact String.lt_trans below (first entry member)
    · next notBelow =>
      split
      · next same =>
        subst same
        exact List.pairwise_cons.mpr ⟨first, rest⟩
      · next different =>
        refine List.pairwise_cons.mpr ⟨fun entry member => ?_, ih rest⟩
        rcases mem_insertEntry member with rfl | member
        · exact lt_of_not_lt notBelow fun same => different same.symm
        · exact first entry member

/-- The table without labels. -/
def empty : LabelTable :=
  ⟨[], List.Pairwise.nil⟩

instance : EmptyCollection LabelTable := ⟨empty⟩

instance : Inhabited LabelTable := ⟨empty⟩

/-- Maps a label to an index; an earlier index of the label is replaced. -/
def insert (table : LabelTable) (label : String) (index : Nat) : LabelTable :=
  ⟨insertEntry label index table.entries, ascending_insertEntry label index table.ascending⟩

/-- The index of a label, if the label is declared. -/
def get? (table : LabelTable) (label : String) : Option Nat :=
  table.entries.lookup label

/-- Maps a label to an index, and tells the index that it had before. -/
def exchange (table : LabelTable) (label : String) (index : Nat) : Option Nat × LabelTable :=
  (table.get? label, table.insert label index)

/-- Whether a label is declared. -/
def contains (table : LabelTable) (label : String) : Bool :=
  (table.get? label).isSome

/-- The labels that are mapped to an index, in ascending order. -/
def labelsAt (table : LabelTable) (index : Nat) : List String :=
  (table.entries.filter fun entry => entry.2 == index).map (·.1)

/-- The labels with their indices, in ascending order of the labels. -/
def toList (table : LabelTable) : List (String × Nat) :=
  table.entries

/-- The number of labels. -/
def size (table : LabelTable) : Nat :=
  table.entries.length

/-- Whether the table has no label. -/
def isEmpty (table : LabelTable) : Bool :=
  table.entries.isEmpty

/-- The table that results from mapping labels one after another. -/
def ofList (pairs : List (String × Nat)) : LabelTable :=
  pairs.foldl (fun table pair => table.insert pair.1 pair.2) ∅

/-! ## The table as a map -/

@[simp] theorem get?_empty (label : String) : (∅ : LabelTable).get? label = none := rfl

/-- An entry of another label is passed over. -/
theorem lookup_cons_of_ne {label : String} {entry : String × Nat} (h : label ≠ entry.1)
    (entries : List (String × Nat)) : (entry :: entries).lookup label = entries.lookup label := by
  rw [List.lookup_cons, beq_eq_false_iff_ne.mpr h]

/-- A label that comes before every entry has no entry. -/
theorem lookup_eq_none_of_lt {label : String} {entries : List (String × Nat)}
    (h : ∀ entry ∈ entries, label < entry.1) : entries.lookup label = none := by
  induction entries with
  | nil => rfl
  | cons entry rest ih =>
    rw [lookup_cons_of_ne _ rest, ih fun later member => h later (List.mem_cons_of_mem _ member)]
    rintro rfl
    exact String.lt_irrefl _ (h entry List.mem_cons_self)

theorem lookup_insertEntry (label other : String) (index : Nat) (entries : List (String × Nat)) :
    (insertEntry label index entries).lookup other =
      if other = label then some index else entries.lookup other := by
  by_cases h : other = label
  · subst h
    rw [if_pos rfl]
    induction entries with
    | nil => simp [insertEntry]
    | cons entry rest ih =>
      rw [insertEntry]
      split
      · simp
      · split
        · simp
        · next different => rw [lookup_cons_of_ne different, ih]
  · rw [if_neg h]
    induction entries with
    | nil => rw [insertEntry, lookup_cons_of_ne h]
    | cons entry rest ih =>
      rw [insertEntry]
      split
      · rw [lookup_cons_of_ne h]
      · split
        · next same => rw [lookup_cons_of_ne h, lookup_cons_of_ne (same ▸ h)]
        · rw [List.lookup_cons, List.lookup_cons, ih]

/-- The last index given to a label is the one that it names. -/
theorem get?_insert (table : LabelTable) (label other : String) (index : Nat) :
    (table.insert label index).get? other =
      if other = label then some index else table.get? other :=
  lookup_insertEntry label other index table.entries

/-- Entries in ascending order are determined by what they map each label to. -/
theorem eq_of_lookup_eq {entries others : List (String × Nat)}
    (h : entries.Pairwise (fun entry later => entry.1 < later.1))
    (h' : others.Pairwise (fun entry later => entry.1 < later.1))
    (same : ∀ label, entries.lookup label = others.lookup label) : entries = others := by
  induction entries generalizing others with
  | nil =>
    cases others with
    | nil => rfl
    | cons head rest => simpa using (same head.1).symm
  | cons head rest ih =>
    cases others with
    | nil => simpa using same head.1
    | cons head' rest' =>
      obtain ⟨above, ascending⟩ := List.pairwise_cons.mp h
      obtain ⟨above', ascending'⟩ := List.pairwise_cons.mp h'
      have firsts : head.1 = head'.1 := by
        apply String.le_antisymm
        · apply String.not_lt.mp
          intro below
          have absent : List.lookup head'.1 (head :: rest) = none :=
            lookup_eq_none_of_lt fun entry member => by
              rcases List.mem_cons.mp member with rfl | member
              · exact below
              · exact String.lt_trans below (above entry member)
          simp [same] at absent
        · apply String.not_lt.mp
          intro below
          have absent : List.lookup head.1 (head' :: rest') = none :=
            lookup_eq_none_of_lt fun entry member => by
              rcases List.mem_cons.mp member with rfl | member
              · exact below
              · exact String.lt_trans below (above' entry member)
          simp [← same] at absent
      have values : head.2 = head'.2 := by
        have sameFirst := same head.1
        rw [List.lookup_cons_self, firsts, List.lookup_cons_self] at sameFirst
        exact Option.some.inj sameFirst
      have heads : head = head' := Prod.ext firsts values
      subst heads
      congr 1
      apply ih ascending ascending'
      intro label
      by_cases here : label = head.1
      · subst here
        rw [lookup_eq_none_of_lt above, lookup_eq_none_of_lt above']
      · simpa only [lookup_cons_of_ne here] using same label

/-- Two tables that map every label alike are the same. -/
theorem ext_get? {table other : LabelTable}
    (same : ∀ label, table.get? label = other.get? label) : table = other := by
  obtain ⟨entries, ascending⟩ := table
  obtain ⟨others, ascending'⟩ := other
  have := eq_of_lookup_eq ascending ascending' same
  subst this
  rfl

/-- When each label has one entry, the entry is what the label is mapped to. -/
theorem mem_iff_lookup_of_distinct {entries : List (String × Nat)}
    (h : entries.Pairwise (fun entry later => entry.1 ≠ later.1)) {label : String} {index : Nat} :
    (label, index) ∈ entries ↔ entries.lookup label = some index := by
  induction entries with
  | nil => simp
  | cons head rest ih =>
    obtain ⟨others, distinct⟩ := List.pairwise_cons.mp h
    by_cases here : label = head.1
    · subst here
      have absent : (head.1, index) ∉ rest := fun member => others (head.1, index) member rfl
      rw [List.lookup_cons_self, List.mem_cons, or_iff_left absent]
      simp [Prod.ext_iff, eq_comm]
    · have different : (label, index) ≠ head := fun same => here (same ▸ rfl)
      rw [lookup_cons_of_ne here, ← ih distinct, List.mem_cons, or_iff_right different]

/-- Entries in ascending order are of distinct labels. -/
theorem distinct_of_ascending {entries : List (String × Nat)}
    (h : entries.Pairwise (fun entry later => entry.1 < later.1)) :
    entries.Pairwise (fun entry later => entry.1 ≠ later.1) := by
  refine h.imp ?_
  intro entry later below same
  rw [same] at below
  exact String.lt_irrefl _ below

/-- An entry in ascending order is what its label is mapped to. -/
theorem mem_iff_lookup {entries : List (String × Nat)}
    (h : entries.Pairwise (fun entry later => entry.1 < later.1)) {label : String} {index : Nat} :
    (label, index) ∈ entries ↔ entries.lookup label = some index :=
  mem_iff_lookup_of_distinct (distinct_of_ascending h)

/-- The labels of an index are the ones that the table maps to it. -/
theorem mem_labelsAt_iff {table : LabelTable} {label : String} {index : Nat} :
    label ∈ table.labelsAt index ↔ table.get? label = some index := by
  rw [get?, ← mem_iff_lookup table.ascending]
  simp [labelsAt]

end LabelTable

end SlotAsm
