import SlotAsm.Text.Columns

/-!
How the columns of a line come from those of its parts. A character can take columns back from what
follows it, as the sign that puts a Khmer letter below another one does. `Following.spare` is what a
character may take back at most, and every text has at least that many columns
(`spare_le_placeAll`), so a text never has fewer than none. A blank lets nothing after it matter to
what is before it, so the columns around a blank add up (`clusterColumns_append_blank`). Since the
lines that tables are drawn with take one column each, `Measure.terminal` does what a measure is
documented to do, and so does a sum over the characters.
-/

namespace SlotAsm.Text

/-! ## Characters by themselves -/

/-- The characters of an interval lie in no range when every range ends before it or begins
behind it. -/
theorem inRanges_eq_false {ranges : List (Nat × Nat)} {first last n : Nat}
    (apart : ∀ range ∈ ranges, range.2 < first ∨ last < range.1) (lower : first ≤ n)
    (upper : n ≤ last) : inRanges ranges n = false := by
  induction ranges with
  | nil => rfl
  | cons range rest ih =>
    obtain ⟨here, others⟩ := List.forall_mem_cons.mp apart
    rw [inRanges, ih others]
    split
    · rfl
    · rw [if_neg (by omega)]

theorem codePointColumns_of_le {n : Nat} (low : n ≤ 0xA0) : codePointColumns n = 1 :=
  if_pos low

/-- A character takes a column unless it is one of those that take none. -/
theorem codePointColumns_pos {n : Nat} (visible : inRanges zeroWidthRanges n = false) :
    0 < codePointColumns n := by
  unfold codePointColumns
  rw [visible]
  repeat' split
  all_goals simp_all

set_option maxRecDepth 4000 in
theorem zeroWidthRanges_apart_khmer :
    ∀ range ∈ zeroWidthRanges, range.2 < 0x1780 ∨ 0x17AF < range.1 := by
  decide

/-- A Khmer letter takes a column when it stands by itself. -/
theorem codePointColumns_khmer_pos {n : Nat} (khmer : inRanges khmerSubscriptRanges n = true) :
    0 < codePointColumns n := by
  have ascending : khmerSubscriptRanges.Pairwise fun range later => range.1 ≤ later.1 := by decide
  have within : ∀ range ∈ khmerSubscriptRanges, 0x1780 ≤ range.1 ∧ range.2 ≤ 0x17AF := by decide
  obtain ⟨range, member, lower, upper⟩ := (inRanges_iff ascending).mp khmer
  obtain ⟨first, last⟩ := within range member
  exact codePointColumns_pos (inRanges_eq_false zeroWidthRanges_apart_khmer
    (Nat.le_trans first lower) (Nat.le_trans upper last))

/-! ## What may be taken back -/

namespace Following

/-- The columns of what follows that a character before it may take back. -/
def spare : Following → Int
  | tifinaghJoiner | khmerLetter | joinedFlagLetter | joinedFlagLetters false => 1
  | _ => 0

/-- A character that adds the given columns before what follows leaves as much as the characters
before it may take back. -/
def Covers (following : Following) (columns : Int) (before : Following) : Prop :=
  before.spare ≤ following.spare + columns

variable {n : Nat} {following before : Following} {columns : Int}

theorem spare_nonneg (following : Following) : 0 ≤ following.spare := by
  fun_cases spare <;> decide

/-- What may not be taken from can stand before everything. -/
theorem covers_of_spare_eq_zero (none : before.spare = 0) (added : 0 ≤ columns) :
    following.Covers columns before := by
  have := following.spare_nonneg
  unfold Covers
  omega

theorem covers_of_ligature? (found : ligature? n following = some (columns, before)) :
    following.Covers columns before := by
  revert found
  fun_cases ligature? n following <;> rintro ⟨⟩ <;> simp [Covers, spare]

theorem covers_of_flagLetter? (found : flagLetter? following = some (columns, before)) :
    following.Covers columns before := by
  revert found
  fun_cases flagLetter? following <;> rintro ⟨⟩ <;> simp [Covers, spare]

theorem covers_of_tag? (found : (tag? n following).map (fun after => (0, after)) =
    some (columns, before)) : following.Covers columns before := by
  obtain ⟨after, tagged, same⟩ := Option.map_eq_some_iff.mp found
  cases same
  refine covers_of_spare_eq_zero ?_ (Int.le_refl 0)
  revert tagged
  fun_cases tag? n following <;> rintro ⟨⟩ <;> rfl

theorem covers_of_emojiPart? (found : emojiPart? n following = some (columns, before)) :
    following.Covers columns before := by
  revert found
  fun_cases emojiPart? n following
  case case1 => exact covers_of_flagLetter?
  case case14 | case15 => exact covers_of_tag?
  -- All other parts add no column, and none may be taken back from them.
  all_goals rintro ⟨⟩ <;> exact covers_of_spare_eq_zero rfl (Int.le_refl 0)

theorem covers_ofCodePoint (n : Nat) (following : Following) :
    following.Covers (codePointColumns n) (ofCodePoint n) := by
  have columns : (0 : Int) ≤ codePointColumns n := Int.natCast_nonneg _
  fun_cases ofCodePoint n
  case case3 khmer =>
    have visible := codePointColumns_khmer_pos khmer
    have := following.spare_nonneg
    have one : spare .khmerLetter = 1 := rfl
    unfold Covers
    omega
  all_goals exact covers_of_spare_eq_zero rfl columns

theorem spare_withJoiner (following : Following) :
    following.withJoiner.spare = following.spare := by
  cases following <;> rfl

end Following

theorem Context.spare_unstyled_le (context : Context) :
    context.unstyled.spare ≤ context.following.spare := by
  unfold unstyled
  split
  · exact Int.le_refl _
  · exact context.following.spare_nonneg

theorem placeUnstyled_covers (n : Nat) (following : Following) :
    following.Covers (placeUnstyled n following).1 (placeUnstyled n following).2.following := by
  have none : Following.spare .other = 0 := rfl
  have := following.spare_nonneg
  fun_cases placeUnstyled n following
  case case1 =>
    unfold Following.Covers Context.withEmojiStyle
    split <;> simp only <;> omega
  case case2 =>
    unfold Following.Covers Context.withTextStyle
    split <;> simp only <;> omega
  case case3 =>
    simp only [Following.Covers, following.spare_withJoiner]
    omega
  case case4 =>
    simp only [Following.Covers]
    omega
  case case5 found =>
    rcases Option.or_eq_some_iff.mp found with ligature | ⟨-, part⟩
    · exact Following.covers_of_ligature? ligature
    · exact Following.covers_of_emojiPart? part
  case case6 => exact Following.covers_ofCodePoint n following

theorem place_covers (c : Char) (context : Context) :
    context.following.Covers (place c context).1 (place c context).2.following := by
  fun_cases place c context
  case case1 =>
    refine Following.covers_of_spare_eq_zero rfl ?_
    split <;> decide
  case case2 | case3 => exact Following.covers_of_spare_eq_zero rfl (by decide)
  case case4 =>
    have := placeUnstyled_covers c.toNat context.unstyled
    have := context.spare_unstyled_le
    unfold Following.Covers at *
    omega

/-- A text takes at least the columns that a character before it may take back. -/
theorem spare_le_placeAll (text : List Char) :
    (placeAll text).2.following.spare ≤ (placeAll text).1 := by
  induction text with
  | nil => exact Int.le_refl 0
  | cons c rest ih =>
    have step := place_covers c (placeAll rest).2
    unfold Following.Covers at step
    simp only [placeAll]
    omega

theorem placeAll_nonneg (text : List Char) : 0 ≤ (placeAll text).1 :=
  Int.le_trans (Following.spare_nonneg _) (spare_le_placeAll text)

/-! ## Texts around blanks -/

/-- What does not matter to the characters before it adds its columns. -/
theorem placeAll_append {rest : List Char} (separate : (placeAll rest).2 = .start)
    (text : List Char) :
    placeAll (text ++ rest) = ((placeAll text).1 + (placeAll rest).1, (placeAll text).2) := by
  induction text with
  | nil => simp [placeAll, ← separate]
  | cons c text ih =>
    simp only [List.cons_append, placeAll, ih]
    congr 1
    omega

/-- A blank separates the columns before it from those after it. -/
theorem clusterColumns_append_blank (text rest : List Char) :
    clusterColumns (text ++ ' ' :: rest) = clusterColumns text + 1 + clusterColumns rest := by
  have separate : (placeAll (' ' :: rest)).2 = .start := by rw [placeAll_blank_cons]
  have := placeAll_nonneg text
  have := placeAll_nonneg rest
  simp only [clusterColumns, placeAll_append separate, placeAll_blank_cons]
  omega

/-- The characters that take one column by themselves and do not matter to those before them. -/
def IsSolitary (c : Char) : Prop :=
  place c .start = (1, .start)

instance (c : Char) : Decidable (IsSolitary c) :=
  inferInstanceAs (Decidable (_ = _))

theorem placeAll_of_solitary {text : List Char} (solitary : ∀ c ∈ text, IsSolitary c) :
    placeAll text = ((text.length : Int), Context.start) := by
  induction text with
  | nil => rfl
  | cons c rest ih =>
    obtain ⟨first, others⟩ := List.forall_mem_cons.mp solitary
    simp only [placeAll, ih others, List.length_cons]
    rw [show place c .start = (1, .start) from first]
    simp

theorem clusterColumns_of_solitary {text : List Char} (solitary : ∀ c ∈ text, IsSolitary c) :
    clusterColumns text = text.length := by
  rw [clusterColumns, placeAll_of_solitary solitary, Int.toNat_natCast]

/-! ## Measures that do what is documented -/

theorem escape_ne_of_mem_frame {c : Char} (drawn : c ∈ frame) : escape ≠ c := by
  intro same
  subst same
  exact absurd drawn (by decide)

set_option maxRecDepth 4000 in
theorem isSolitary_of_mem_frame : ∀ c ∈ frame, IsSolitary c := by
  intro c drawn
  simp only [frame, List.mem_cons, List.not_mem_nil, or_false] at drawn
  rcases drawn with rfl | rfl | rfl | rfl <;> decide

namespace Measure

/-- A count of columns is the width of coloured text as far as there is no colour. -/
theorem documented_styled {columns : List Char → Nat}
    (drawn : ∀ {text}, (∀ c ∈ text, c ∈ frame) → columns text = text.length)
    (blank : ∀ text rest, columns (text ++ ' ' :: rest) = columns text + 1 + columns rest) :
    (styled columns).Documented where
  isMeasurable := isMeasurable_styled
  frame := by
    intro line inFrame
    have plain : escape ∉ line := fun member =>
      escape_ne_of_mem_frame (inFrame escape member) rfl
    rw [width_styled plain, drawn inFrame]
  blank := by
    intro text rest before behind
    have notBlank : escape ≠ ' ' := by decide
    have both : escape ∉ text ++ ' ' :: rest := by simp [before, behind, notBlank]
    rw [width_styled both, width_styled before, width_styled behind, blank]

theorem documented_terminal : terminal.Documented := by
  apply documented_styled
  · intro text drawn
    exact clusterColumns_of_solitary fun c member => isSolitary_of_mem_frame c (drawn c member)
  · exact clusterColumns_append_blank

/-- Any sum over the characters does what is documented, if blanks and line-drawing characters count
one each. -/
theorem documented_byCharacter {columns : Char → Nat} (blank : columns ' ' = 1)
    (drawn : ∀ c ∈ frame, columns c = 1) : (byCharacter columns).Documented := by
  apply documented_styled
  · intro text inFrame
    induction text with
    | nil => rfl
    | cons c rest ih =>
      obtain ⟨first, others⟩ := List.forall_mem_cons.mp inFrame
      rw [List.foldr_cons, ih others, drawn c first, List.length_cons]
      omega
  · intro text rest
    induction text with
    | nil =>
      rw [List.nil_append, List.foldr_cons, blank]
      rfl
    | cons c text ih =>
      rw [List.cons_append, List.foldr_cons, List.foldr_cons, ih]
      omega

set_option maxRecDepth 4000 in
/-- Unicode counts line-drawing characters as one column each. -/
theorem documented_byCodePoint : (byCharacter fun c => codePointColumns c.toNat).Documented := by
  refine documented_byCharacter (codePointColumns_of_le (by decide)) ?_
  intro c drawn
  simp only [Text.frame, List.mem_cons, List.not_mem_nil, or_false] at drawn
  rcases drawn with rfl | rfl | rfl | rfl <;> decide

namespace Documented

variable {measure : Measure} (documented : measure.Documented) {line : List Char}

include documented

theorem nil : measure.width [] = 0 :=
  documented.frame (by simp)

theorem blank_cons (plain : escape ∉ line) :
    measure.width (' ' :: line) = 1 + measure.width line := by
  have := documented.blank List.not_mem_nil plain
  rw [List.nil_append, documented.nil] at this
  omega

theorem blanks_append (plain : escape ∉ line) (count : Nat) :
    measure.width (List.replicate count ' ' ++ line) = count + measure.width line := by
  induction count with
  | zero => simp
  | succ count ih =>
    have notBlank : escape ≠ ' ' := by decide
    have rest : escape ∉ List.replicate count ' ' ++ line := by simp [plain, notBlank]
    rw [List.replicate_succ, List.cons_append, documented.blank_cons rest, ih]
    omega

theorem append_blanks (plain : escape ∉ line) (count : Nat) :
    measure.width (line ++ List.replicate count ' ') = measure.width line + count := by
  cases count with
  | zero => simp
  | succ count =>
    have notBlank : escape ≠ ' ' := by decide
    have rest : escape ∉ List.replicate count ' ' := by simp [notBlank]
    have blanks := documented.blanks_append List.not_mem_nil count
    rw [List.append_nil, documented.nil] at blanks
    rw [List.replicate_succ, documented.blank plain rest, blanks]
    omega

end Documented

end Measure

end SlotAsm.Text
