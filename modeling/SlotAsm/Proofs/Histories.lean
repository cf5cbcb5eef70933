import Mathlib.Data.List.Dedup
import Mathlib.Data.List.Induction
import SlotAsm.Proofs.Declarations
import SlotAsm.Unordered

/-!
Label tables after a history of insertions. `LabelTable.LastMaps` says of the history alone where
its last insertion of a label sends the label, and a table that was built by the history maps its
labels there (`LabelTable.get?_ofList_eq_some_iff`). The same history may leave the entries of an
unordered table in every order (`Unordered.Table.built_iff`), and none of them shows, since the
labels of an index are sorted before they are listed (`Unordered.Table.labelsAt_eq`).
-/

namespace SlotAsm

namespace LabelTable

/-- The last insertion of a label in a history maps the label to an index. -/
def LastMaps (history : List (String × Nat)) (label : String) (index : Nat) : Prop :=
  ∃ earlier later, history = earlier ++ (label, index) :: later ∧ ∀ entry ∈ later, entry.1 ≠ label

section

variable {history : List (String × Nat)} {label other : String} {index place : Nat}

theorem not_lastMaps_nil : ¬ LastMaps [] label index := by
  intro found
  rcases found with ⟨earlier, later, split, -⟩
  cases earlier <;> cases split

/-- One more insertion decides about its own label and about no other. -/
theorem lastMaps_append_singleton :
    LastMaps (history ++ [(other, place)]) label index ↔
      if label = other then place = index else LastMaps history label index := by
  constructor
  · intro found
    rcases found with ⟨earlier, later, split, final⟩
    rcases later.eq_nil_or_concat' with rfl | ⟨between, last, rfl⟩
    · cases (List.append_inj' split rfl).2
      rw [if_pos rfl]
    · rw [← List.cons_append, ← List.append_assoc] at split
      obtain ⟨rfl, latest⟩ := List.append_inj' split rfl
      cases latest
      rw [if_neg (final (other, place) (by simp)).symm]
      exact ⟨earlier, between, rfl, fun entry member => final entry (List.mem_append_left _ member)⟩
  · intro decided
    split at decided
    · next same =>
      subst same decided
      exact ⟨history, [], rfl, nofun⟩
    · next different =>
      rcases decided with ⟨earlier, later, rfl, final⟩
      refine ⟨earlier, later ++ [(other, place)], by simp, ?_⟩
      intro entry member
      rcases List.mem_append.mp member with member | member
      · exact final entry member
      · rw [List.mem_singleton.mp member]
        exact Ne.symm different

theorem ofList_append_singleton (history : List (String × Nat)) (label : String) (index : Nat) :
    ofList (history ++ [(label, index)]) = (ofList history).insert label index := by
  simp [ofList]

/-- A label is mapped to where the last insertion of the label sends it. -/
theorem get?_ofList_eq_some_iff :
    (ofList history).get? label = some index ↔ LastMaps history label index := by
  induction history using List.reverseRecOn with
  | nil => exact iff_of_false nofun not_lastMaps_nil
  | append_singleton history entry ih =>
    rw [ofList_append_singleton, get?_insert, lastMaps_append_singleton]
    split
    · exact Option.some_inj
    · exact ih

theorem get?_ofList_ne_none_iff :
    (ofList history).get? label ≠ none ↔ label ∈ history.map (·.1) := by
  induction history using List.reverseRecOn with
  | nil => simp [ofList]
  | append_singleton history entry ih =>
    rw [ofList_append_singleton, get?_insert, List.map_append, List.mem_append, ← ih]
    split
    · next same => simp [same]
    · next different => simp [different]

/-- A table that was built by a history has as many labels as the history names. -/
theorem size_ofList (history : List (String × Nat)) :
    (ofList history).size = (history.map (·.1)).dedup.length := by
  have names : (ofList history).names.Perm (history.map (·.1)).dedup := by
    refine (List.perm_ext_iff_of_nodup (nodup_names _) (List.nodup_dedup _)).mpr ?_
    intro label
    rw [mem_names_iff, get?_ofList_ne_none_iff, List.mem_dedup]
  exact (List.length_map _).symm.trans names.length_eq

/-- The labels of an index are listed in strictly ascending order. -/
theorem pairwise_labelsAt (table : LabelTable) (index : Nat) :
    (table.labelsAt index).Pairwise (· < ·) :=
  List.pairwise_map.mpr (table.ascending.filter _)

end

end LabelTable

namespace Unordered.Table

open LabelTable (ofList)

variable {table after : Table} {labels : LabelTable} {history : List (String × Nat)}
  {label : String} {index : Nat}

theorem mem_entries_iff : (label, index) ∈ table.entries ↔ table.get? label = some index :=
  LabelTable.mem_iff_lookup_of_distinct table.distinct

theorem get?_ofLabels (labels : LabelTable) (label : String) :
    (ofLabels labels).get? label = labels.get? label := rfl

theorem nodup_entries (table : Table) : table.entries.Nodup := by
  refine table.distinct.imp ?_
  intro entry later different same
  exact different (congrArg Prod.fst same)

/-- A table looks up every label as a label table does when it has its entries, in any order. -/
theorem perm_entries_iff :
    table.entries.Perm labels.entries ↔ ∀ label, table.get? label = labels.get? label := by
  refine (List.perm_ext_iff_of_nodup table.nodup_entries (ofLabels labels).nodup_entries).trans ?_
  constructor
  · intro perm label
    apply Option.ext
    intro index
    rw [← get?_ofLabels, ← mem_entries_iff, perm, mem_entries_iff]
  · intro same entry
    rw [mem_entries_iff, same, ← get?_ofLabels, mem_entries_iff]

/-- However the entries change their places, a mapping changes the look-up of its own label and no
other, and every table with these look-ups may result from it. -/
theorem maps_iff :
    table.Maps label index after ↔
      ∀ other, after.get? other = if other = label then some index else table.get? other := by
  have members (other : String) (place : Nat) :
      (other, place) ∈ (label, index) :: table.entries.filter (fun entry => entry.1 ≠ label) ↔
        (if other = label then some index else table.get? other) = some place := by
    rw [List.mem_cons, List.mem_filter, mem_entries_iff]
    split
    · next same => simp [same, eq_comm]
    · next different => simp [different]
  have distinct : ((label, index) :: table.entries.filter fun entry => entry.1 ≠ label).Nodup :=
    List.nodup_cons.mpr ⟨by simp, table.nodup_entries.filter _⟩
  rw [Maps, List.perm_ext_iff_of_nodup after.nodup_entries distinct]
  constructor
  · intro perm other
    apply Option.ext
    intro place
    rw [← mem_entries_iff, perm, members]
  · intro same entry
    rw [mem_entries_iff, same, members]

theorem get?_of_built (built : Built history table) (label : String) :
    table.get? label = (ofList history).get? label := by
  induction built generalizing label with
  | empty => rfl
  | maps built maps ih =>
    rw [maps_iff.mp maps, LabelTable.ofList_append_singleton, LabelTable.get?_insert, ih]

/-- A history can leave the entries in every order. -/
theorem built_iff : Built history table ↔ table.entries.Perm (ofList history).entries := by
  rw [perm_entries_iff]
  constructor
  · exact get?_of_built
  · intro same
    induction history using List.reverseRecOn generalizing table with
    | nil =>
      obtain ⟨entries, distinct⟩ := table
      cases (perm_entries_iff.mpr same).eq_nil
      exact .empty
    | append_singleton history entry ih =>
      have before : Built history (ofLabels (ofList history)) := ih fun label => rfl
      refine .maps before (maps_iff.mpr ?_)
      intro other
      rw [same, LabelTable.ofList_append_singleton, LabelTable.get?_insert, get?_ofLabels]

/-! ## What does not depend on the order -/

section

variable (same : ∀ label, table.get? label = labels.get? label)

include same

/-- The labels of an index, once they are sorted, are in the order of the label table. -/
theorem labelsAt_eq (index : Nat) : table.labelsAt index = labels.labelsAt index := by
  have sorted : (table.labelsAt index).Pairwise (fun label other => label ≤ other) := by
    refine (List.pairwise_mergeSort ?_ ?_ _).imp of_decide_eq_true
    · intro first second third
      simpa using String.le_trans
    · intro first second
      simpa using String.le_total first second
  have ascending : (labels.labelsAt index).Pairwise (fun label other => label ≤ other) :=
    (LabelTable.pairwise_labelsAt labels index).imp Std.le_of_lt
  have perm : (table.labelsAt index).Perm (labels.labelsAt index) :=
    (List.mergeSort_perm _ _).trans (((perm_entries_iff.mpr same).filter _).map _)
  exact perm.eq_of_pairwise (fun _ _ _ _ => String.le_antisymm) sorted ascending

theorem sourceText_eq (instructions : List Instruction) :
    table.sourceText instructions = Program.text ⟨instructions, labels⟩ := by
  simp only [sourceText, labelsAt_eq same]
  rfl

theorem picture_eq (instructions : List Instruction) (store : Store) (pc : Nat)
    (error : Option StepError) :
    table.picture instructions store pc error =
      (Machine.loaded ⟨⟨instructions, labels⟩, store, pc, error⟩).text := by
  have code : table.codeGrid instructions pc = Program.grid ⟨instructions, labels⟩ pc := by
    simp only [codeGrid, address, labelsAt_eq same]
    rfl
  simp only [picture, code]
  rfl

theorem resembles_of_get?_eq : table.Resembles labels where
  get? := same
  size := (perm_entries_iff.mpr same).length_eq
  labelsAt := labelsAt_eq same
  sourceText := sourceText_eq same
  picture := picture_eq same

end

end Unordered.Table

namespace LabelTable

open Unordered.Table (Built)

/-- The last insertion of each label in a history decides. One more insertion of the label answers
its index, and so does a look-up. The table has each label once, and lists the labels of an index in
strictly ascending order. Another history with the same look-ups builds the same table, and in
whatever order it may leave the entries, what is listed and drawn from them is the same. -/
theorem last_insertions_decide (history : List (String × Nat)) :
    (∀ label index,
      ((ofList history).exchange label index).2 = ofList (history ++ [(label, index)]) ∧
      ∀ previous, ((ofList history).exchange label index).1 = some previous ↔
        LastMaps history label previous) ∧
    (∀ label index, (ofList history).get? label = some index ↔ LastMaps history label index) ∧
    (∀ label, (ofList history).contains label = true ↔ label ∈ history.map (·.1)) ∧
    (ofList history).size = (history.map (·.1)).dedup.length ∧
    (∀ index, ((ofList history).labelsAt index).Pairwise (· < ·) ∧
      ∀ label, label ∈ (ofList history).labelsAt index ↔ LastMaps history label index) ∧
    ∀ others, (∀ label, (ofList others).get? label = (ofList history).get? label) →
      ofList others = ofList history ∧
      ∀ table, Built others table → table.Resembles (ofList history) := by
  refine ⟨fun label index => ⟨?_, ?_⟩, ?_, ?_, size_ofList history, ?_, ?_⟩
  · exact (ofList_append_singleton history label index).symm
  · intro previous
    exact get?_ofList_eq_some_iff
  · intro label index
    exact get?_ofList_eq_some_iff
  · intro label
    rw [contains, Option.isSome_iff_ne_none, get?_ofList_ne_none_iff]
  · intro index
    refine ⟨pairwise_labelsAt _ index, ?_⟩
    intro label
    rw [mem_labelsAt_iff, get?_ofList_eq_some_iff]
  · intro others alike
    refine ⟨ext_get? alike, ?_⟩
    intro table built
    apply Unordered.Table.resembles_of_get?_eq
    intro label
    rw [Unordered.Table.get?_of_built built, alike]

/-- A label that moves from one index to another, and a history without the move: it may leave the
entries in the opposite order. -/
theorem last_insertions_decide_moved :
    (ofList [("top", 2), ("alpha", 2)]).labelsAt 2 = ["alpha", "top"] ∧
    ∃ table : Unordered.Table, table.entries = [("top", 2), ("alpha", 2)] ∧
      Built [("top", 2), ("alpha", 2)] table ∧
      table.Resembles (ofList [("top", 0), ("alpha", 2), ("top", 2)]) := by
  have alike (label : String) : (ofList [("top", 2), ("alpha", 2)]).get? label =
      (ofList [("top", 0), ("alpha", 2), ("top", 2)]).get? label :=
    congrArg (get? · label) (by decide)
  have built : Built [("top", 2), ("alpha", 2)] ⟨[("top", 2), ("alpha", 2)], by decide⟩ :=
    Unordered.Table.built_iff.mpr (by decide)
  obtain ⟨-, -, -, -, -, same⟩ := last_insertions_decide [("top", 0), ("alpha", 2), ("top", 2)]
  exact ⟨by decide, _, rfl, built, (same _ alike).2 _ built⟩

end LabelTable

end SlotAsm
