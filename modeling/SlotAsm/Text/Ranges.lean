/-!
Sets of code points as ascending lists of ranges. `inRanges_iff` says that membership is what it
seems to be when the ranges ascend, although the search stops at the first range that lies above.
-/

namespace SlotAsm.Text

/-- Whether a number lies in one of the ranges, whose ends are included. The ranges ascend. -/
def inRanges : List (Nat × Nat) → Nat → Bool
  | [], _ => false
  | range :: rest, n =>
    if n < range.1 then false
    else if n ≤ range.2 then true
    else inRanges rest n

/-- A number is found exactly when one of the ranges holds it. -/
theorem inRanges_iff {ranges : List (Nat × Nat)} {n : Nat}
    (ascending : ranges.Pairwise (fun range later => range.1 ≤ later.1)) :
    inRanges ranges n = true ↔ ∃ range ∈ ranges, range.1 ≤ n ∧ n ≤ range.2 := by
  induction ranges with
  | nil => simp [inRanges]
  | cons range rest ih =>
    obtain ⟨first, later⟩ := List.pairwise_cons.mp ascending
    rw [inRanges]
    by_cases below : n < range.1
    · have absent : ¬ ∃ other ∈ range :: rest, other.1 ≤ n ∧ n ≤ other.2 := by
        rintro ⟨other, member, lower, -⟩
        rcases List.mem_cons.mp member with rfl | member
        · omega
        · have := first other member
          omega
      rw [if_pos below]
      exact iff_of_false Bool.false_ne_true absent
    · by_cases inside : n ≤ range.2
      · simp [below, inside, Nat.le_of_not_lt below]
      · simp [below, inside, ih later]

end SlotAsm.Text
