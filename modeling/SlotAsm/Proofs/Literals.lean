import Mathlib.Data.List.Basic
import Mathlib.Data.List.Induction
import SlotAsm.Grammar
import SlotAsm.Value

/-!
Literals against the integers of the grammar, and values against literals. The digits of a literal
are read from the left, the grammar builds its integers from the right, and both give the same
number (`integer_iff`). A value is read without leaving the range, and since a number only grows
with its digits, it is read exactly when the whole literal is in range (`Value.ofText?_eq`).
-/

namespace SlotAsm

open Grammar

/-! ## Digits and integers -/

theorem toNat_of_isDigit {c : Char} (digit : c.isDigit = true) :
    48 ≤ c.toNat ∧ c.toNat ≤ 57 := by
  simpa [Char.isDigit, Char.le_def, UInt32.le_iff_toNat_le] using digit

/-- A decimal digit stands at the place that its code point gives. -/
theorem decimalDigits_getElem?_iff {c : Char} {k : Nat} :
    decimalDigits[k]? = some c ↔ c.isDigit = true ∧ c.toNat - '0'.toNat = k := by
  constructor
  · intro found
    obtain ⟨below, rfl⟩ := List.getElem?_eq_some_iff.mp found
    revert k
    decide
  · intro denoted
    rcases denoted with ⟨digit, rfl⟩
    have listed : ∀ k < 10, decimalDigits[k]? = some (Char.ofNat (k + 48)) := by decide
    have bounds := toNat_of_isDigit digit
    have zero : '0'.toNat = 48 := rfl
    rw [zero, listed _ (by omega), Nat.sub_add_cancel bounds.1, Char.ofNat_toNat]

theorem magnitude_append_singleton (chars : List Char) (c : Char) :
    Literal.magnitude (chars ++ [c]) = 10 * Literal.magnitude chars + (c.toNat - '0'.toNat) := by
  simp [Literal.magnitude]

/-- Reading digits from the left gives the number that the grammar builds from the right. -/
theorem digits_iff {chars : List Char} {n : Nat} :
    Digits chars n ↔
      chars ≠ [] ∧ (∀ c ∈ chars, c.isDigit = true) ∧ Literal.magnitude chars = n := by
  constructor
  · intro derived
    induction derived with
    | single found =>
        obtain ⟨digit, value⟩ := decimalDigits_getElem?_iff.mp found
        simpa [Literal.magnitude, digit] using value
    | snoc _ found ih =>
        obtain ⟨digit, value⟩ := decimalDigits_getElem?_iff.mp found
        refine ⟨by simp, ?_, ?_⟩
        · intro c member
          rcases List.mem_append.mp member with member | member
          · exact ih.2.1 c member
          · rwa [List.mem_singleton.mp member]
        · rw [magnitude_append_singleton, ih.2.2, value]
  · intro derived
    rcases derived with ⟨nonempty, digits, rfl⟩
    induction chars using List.reverseRecOn with
    | nil => exact absurd rfl nonempty
    | append_singleton chars c ih =>
        have last : decimalDigits[c.toNat - '0'.toNat]? = some c :=
          decimalDigits_getElem?_iff.mpr ⟨digits c (by simp), rfl⟩
        by_cases empty : chars = []
        · subst empty
          simpa [Literal.magnitude] using Digits.single last
        · rw [magnitude_append_singleton]
          exact .snoc (ih empty fun d member => digits d (by simp [member])) last

theorem ofDigits?_eq_some_iff {negative : Bool} {digits : List Char} {literal : Literal} :
    Literal.ofDigits? negative digits = some literal ↔
      digits ≠ [] ∧ (∀ c ∈ digits, c.isDigit = true) ∧ literal = ⟨negative, digits⟩ := by
  by_cases empty : digits = []
  · simp [Literal.ofDigits?, empty]
  · by_cases all : digits.all Char.isDigit = true
    · simp only [Literal.ofDigits?, List.isEmpty_iff, if_neg empty, if_pos all, Option.some.injEq]
      exact ⟨fun same => ⟨empty, List.all_eq_true.mp all, same.symm⟩, fun h => h.2.2.symm⟩
    · simp only [Literal.ofDigits?, List.isEmpty_iff, if_neg empty, if_neg all]
      exact ⟨nofun, fun h => absurd (List.all_eq_true.mpr h.2.1) all⟩

/-- A text without a sign in front is read as digits. -/
theorem ofChars?_of_isDigit {c : Char} {rest : List Char} (digit : c.isDigit = true) :
    Literal.ofChars? (c :: rest) = Literal.ofDigits? false (c :: rest) := by
  rw [Literal.ofChars?]
  · intro tail same
    cases same
    exact absurd digit (by decide)
  · intro tail same
    cases same
    exact absurd digit (by decide)

/-- The integers of the grammar are what literals denote. -/
theorem integer_iff {chars : List Char} {n : Int} :
    Integer chars n ↔ ∃ literal, Literal.ofChars? chars = some literal ∧ literal.toInt = n := by
  constructor
  · intro derived
    cases derived with
    | unsigned digits =>
        obtain ⟨nonempty, all, rfl⟩ := digits_iff.mp digits
        obtain ⟨c, rest, rfl⟩ := List.exists_cons_of_ne_nil nonempty
        rw [ofChars?_of_isDigit (all c List.mem_cons_self)]
        exact ⟨_, ofDigits?_eq_some_iff.mpr ⟨nonempty, all, rfl⟩, rfl⟩
    | plus digits =>
        obtain ⟨nonempty, all, rfl⟩ := digits_iff.mp digits
        exact ⟨_, ofDigits?_eq_some_iff.mpr ⟨nonempty, all, rfl⟩, rfl⟩
    | minus digits =>
        obtain ⟨nonempty, all, rfl⟩ := digits_iff.mp digits
        exact ⟨_, ofDigits?_eq_some_iff.mpr ⟨nonempty, all, rfl⟩, rfl⟩
  · intro denoted
    rcases denoted with ⟨literal, read, rfl⟩
    unfold Literal.ofChars? at read
    split at read
    · next rest =>
      obtain ⟨nonempty, all, rfl⟩ := ofDigits?_eq_some_iff.mp read
      exact .minus (digits_iff.mpr ⟨nonempty, all, rfl⟩)
    · next rest =>
      obtain ⟨nonempty, all, rfl⟩ := ofDigits?_eq_some_iff.mp read
      exact .plus (digits_iff.mpr ⟨nonempty, all, rfl⟩)
    · obtain ⟨nonempty, all, rfl⟩ := ofDigits?_eq_some_iff.mp read
      exact .unsigned (digits_iff.mpr ⟨nonempty, all, rfl⟩)

/-! ## Integers in range -/

theorem ofInt?_eq_some_iff {n : Int} {value : Value} :
    Value.ofInt? n = some value ↔
      (-2 ^ 63 ≤ n ∧ n ≤ 2 ^ 63 - 1) ∧ value = Int64.ofInt n := by
  have range : (Value.least ≤ n ∧ n ≤ Value.greatest) ↔ (-2 ^ 63 ≤ n ∧ n ≤ 2 ^ 63 - 1) := Iff.rfl
  by_cases inside : Value.least ≤ n ∧ n ≤ Value.greatest
  · simp only [Value.ofInt?, if_pos inside, Option.some.injEq, ← range]
    exact ⟨fun same => ⟨inside, same.symm⟩, fun h => h.2.symm⟩
  · simp only [Value.ofInt?, if_neg inside, ← range]
    exact ⟨nofun, fun h => absurd h.1 inside⟩

theorem ofInt?_eq_none_iff {n : Int} :
    Value.ofInt? n = none ↔ ¬ (-2 ^ 63 ≤ n ∧ n ≤ 2 ^ 63 - 1) := by
  rw [Option.eq_none_iff_forall_ne_some]
  exact ⟨fun absent inside => absent _ (ofInt?_eq_some_iff.mpr ⟨inside, rfl⟩),
    fun outside value found => outside (ofInt?_eq_some_iff.mp found).1⟩

/-! ## Reading within the range -/

namespace Literal

theorem signed_add (negative : Bool) (n m : Nat) :
    signed negative (n + m) = signed negative n + signed negative m := by
  cases negative
  · exact Int.natCast_add n m
  · simp only [signed, if_true]
    omega

/-- The number that digits denote behind a number that is read already. -/
def magnitudeAfter (n : Nat) (digits : List Char) : Nat :=
  digits.foldl (fun total digit => 10 * total + (digit.toNat - '0'.toNat)) n

/-- A number only grows with the digits behind it. -/
theorem le_magnitudeAfter (n : Nat) (digits : List Char) : n ≤ magnitudeAfter n digits := by
  induction digits generalizing n with
  | nil => exact Nat.le_refl n
  | cons digit digits ih =>
    have more := ih (10 * n + (digit.toNat - '0'.toNat))
    rw [magnitudeAfter, List.foldl_cons]
    exact Nat.le_trans (by omega) more

end Literal

namespace Value

open Literal (signed magnitudeAfter le_magnitudeAfter)

theorem toInt_of_ofInt? {n : Int} {value : Value} (found : ofInt? n = some value) :
    value.toInt = n := by
  obtain ⟨⟨lower, upper⟩, rfl⟩ := ofInt?_eq_some_iff.mp found
  exact Int64.toInt_ofInt_of_le lower (by omega)

/-- Beyond a number that is out of range there is none in range. -/
theorem ofInt?_signed_eq_none {negative : Bool} {n m : Nat} (le : n ≤ m)
    (none : ofInt? (signed negative n) = none) : ofInt? (signed negative m) = .none := by
  rw [ofInt?_eq_none_iff] at none ⊢
  intro within
  apply none
  cases negative
  · simp only [signed, Bool.false_eq_true, if_false] at within ⊢
    omega
  · simp only [signed, if_true] at within ⊢
    omega

/-- A digit is put behind a number when the longer number is in range. -/
theorem appendDigit?_eq {negative : Bool} {n : Nat} {number : Value} {c : Char}
    (read : ofInt? (signed negative n) = some number) (digit : c.isDigit = true) :
    appendDigit? negative number c =
      ofInt? (signed negative (10 * n + (c.toNat - '0'.toNat))) := by
  have shift : 10 * number.toInt = signed negative (10 * n) := by
    rw [toInt_of_ofInt? read]
    cases negative
    · exact (Int.natCast_mul 10 n).symm
    · simp only [signed, if_true]
      omega
  rw [appendDigit?, if_pos digit, shift]
  cases shifted : ofInt? (signed negative (10 * n)) with
  | none => rw [ofInt?_signed_eq_none (Nat.le_add_right _ _) shifted, Option.bind_none]
  | some value => rw [Option.bind_some, toInt_of_ofInt? shifted, Literal.signed_add]

/-- Digits behind a number are read when the whole number is in range. -/
theorem foldlM_appendDigit?_eq {negative : Bool} {n : Nat} {number : Value} {digits : List Char}
    (read : ofInt? (signed negative n) = some number) (all : ∀ c ∈ digits, c.isDigit = true) :
    digits.foldlM (appendDigit? negative) number =
      ofInt? (signed negative (magnitudeAfter n digits)) := by
  induction digits generalizing n number with
  | nil => exact read.symm
  | cons c digits ih =>
    obtain ⟨first, others⟩ := List.forall_mem_cons.mp all
    rw [List.foldlM_cons, appendDigit?_eq read first, magnitudeAfter, List.foldl_cons]
    cases longer : ofInt? (signed negative (10 * n + (c.toNat - '0'.toNat))) with
    | none => exact (ofInt?_signed_eq_none (le_magnitudeAfter _ digits) longer).symm
    | some value => exact ih longer others

/-- A character that is not a digit is not read. -/
theorem foldlM_appendDigit?_eq_none (negative : Bool) (number : Value) {digits : List Char}
    {c : Char} (member : c ∈ digits) (other : c.isDigit = false) :
    digits.foldlM (appendDigit? negative) number = none := by
  induction digits generalizing number with
  | nil => cases member
  | cons d digits ih =>
    rw [List.foldlM_cons]
    rcases List.mem_cons.mp member with rfl | later
    · simp [appendDigit?, other]
    · cases appendDigit? negative number d with
      | none => rfl
      | some value => exact ih value later

theorem readDigits?_eq (negative : Bool) (digits : List Char) :
    readDigits? negative digits =
      (Literal.ofDigits? negative digits).bind fun literal => ofInt? literal.toInt := by
  rw [readDigits?, Literal.ofDigits?]
  split
  · rfl
  · split
    · next all =>
      have start : ofInt? (signed negative 0) = some 0 := by cases negative <;> rfl
      exact foldlM_appendDigit?_eq start (List.all_eq_true.mp all)
    · next other =>
      obtain ⟨c, member, notDigit⟩ := by simpa using other
      exact foldlM_appendDigit?_eq_none negative 0 member notDigit

/-- Reading digit by digit gives the value of the literal, if there is a literal and its integer is
in range. -/
theorem ofText?_eq (token : String) :
    ofText? token =
      (Literal.ofChars? token.toList).bind fun literal => ofInt? literal.toInt := by
  unfold ofText?
  generalize token.toList = chars
  unfold readSteps?
  split
  · exact readDigits?_eq true _
  · exact readDigits?_eq false _
  · next noMinus noPlus =>
    rw [Literal.ofChars?]
    · exact readDigits?_eq false chars
    · exact noMinus
    · exact noPlus

end Value

/-- A text denotes a value when the grammar derives it with an integer in range. -/
theorem ofText?_eq_some_iff {token : String} {value : Value} :
    Value.ofText? token = some value ↔
      ∃ n : Int, Integer token.toList n ∧ (-2 ^ 63 ≤ n ∧ n ≤ 2 ^ 63 - 1) ∧
        value = Int64.ofInt n := by
  constructor
  · intro read
    rw [Value.ofText?_eq] at read
    obtain ⟨literal, found, inRange⟩ := Option.bind_eq_some_iff.mp read
    exact ⟨_, integer_iff.mpr ⟨literal, found, rfl⟩, ofInt?_eq_some_iff.mp inRange⟩
  · intro derived
    rcases derived with ⟨n, derived, inRange⟩
    obtain ⟨literal, found, rfl⟩ := integer_iff.mp derived
    rw [Value.ofText?_eq]
    exact Option.bind_eq_some_iff.mpr ⟨literal, found, ofInt?_eq_some_iff.mpr inRange⟩

end SlotAsm
