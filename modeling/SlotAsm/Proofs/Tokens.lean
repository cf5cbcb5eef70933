import Mathlib.Data.List.Basic
import SlotAsm.Proofs.Literals
import SlotAsm.Token
import SlotAsm.WellFormed

/-!
The checks of tokens, against the words of the grammar. A number passes its check exactly when the
grammar derives it with an integer in range, a slot when it is one of the ten letters, and a label
when it holds no reserved character; `Instruction.wellFormed_iff_phrase` puts the three together for
an instruction. No token that passes a check holds a reserved character.
-/

namespace SlotAsm

open Text (isBlank)
open Grammar

/-! ## Checks -/

/-- The words for slots are the names of slots. -/
theorem slotWord_iff {chars : List Char} :
    SlotWord chars ↔ ∃ slot : Slot, chars = slot.name.toList := by
  have letters : ∀ c ∈ ['A', 'B', 'C', 'D', 'E', 'F', 'G', 'H', 'I', 'J'],
      ∃ slot ∈ Slot.all, [c] = slot.name.toList := by simp [Slot.all, Slot.name]
  constructor
  · intro word
    rcases word with ⟨listed⟩
    obtain ⟨slot, -, named⟩ := letters _ listed
    exact ⟨slot, named⟩
  · intro named
    rcases named with ⟨slot, rfl⟩
    cases slot <;> exact .letter (by decide)

/-- A number that passes its check denotes a value when it is executed, and no other does. -/
theorem checkNumber_eq_ok_iff_ofText? {token : String} :
    checkNumber token = .ok () ↔ ∃ value, Value.ofText? token = some value := by
  have recognised := Value.ofText?_eq token
  unfold checkNumber
  cases read : Literal.ofChars? token.toList with
  | none =>
      rw [read, Option.bind_none] at recognised
      simp [recognised]
  | some literal =>
      cases Value.ofText? token <;> simp

theorem checkNumber_eq_ok_iff {token : String} :
    checkNumber token = .ok () ↔ NumberWord token.toList := by
  rw [checkNumber_eq_ok_iff_ofText?]
  constructor
  · intro denoted
    rcases denoted with ⟨value, read⟩
    obtain ⟨n, derived, inRange, -⟩ := ofText?_eq_some_iff.mp read
    exact ⟨n, derived, inRange⟩
  · intro word
    rcases word with ⟨n, derived, inRange⟩
    exact ⟨_, ofText?_eq_some_iff.mpr ⟨n, derived, inRange, rfl⟩⟩

/-- A number fails its check because the grammar does not derive it, or else because it is out of
range. -/
theorem checkNumber_eq_error_iff {token : String} {cause : TokenError} :
    checkNumber token = .error cause ↔
      (cause = .notANumber token ∧ ∀ n : Int, ¬ Integer token.toList n) ∨
        (cause = .outOfRange token ∧
          ∃ n : Int, Integer token.toList n ∧ ¬ (-2 ^ 63 ≤ n ∧ n ≤ 2 ^ 63 - 1)) := by
  constructor
  · intro failed
    unfold checkNumber at failed
    split at failed
    · next unread =>
      cases failed
      refine .inl ⟨rfl, fun n derived => ?_⟩
      obtain ⟨literal, read, -⟩ := integer_iff.mp derived
      rw [unread] at read
      cases read
    · next literal read =>
      split at failed
      · next outside =>
        cases failed
        rw [Value.ofText?_eq, read, Option.bind_some] at outside
        exact .inr ⟨rfl, _, integer_iff.mpr ⟨literal, read, rfl⟩, ofInt?_eq_none_iff.mp outside⟩
      · cases failed
  · intro reasons
    rcases reasons with ⟨rfl, underivable⟩ | ⟨rfl, n, derived, outside⟩
    · have unread : Literal.ofChars? token.toList = none :=
        Option.eq_none_iff_forall_ne_some.mpr fun literal read =>
          underivable _ (integer_iff.mpr ⟨literal, read, rfl⟩)
      simp only [checkNumber, unread]
    · obtain ⟨literal, read, rfl⟩ := integer_iff.mp derived
      have unread : Value.ofText? token = none := by
        rw [Value.ofText?_eq, read, Option.bind_some, ofInt?_eq_none_iff.mpr outside]
      simp only [checkNumber, read, unread]

theorem checkSlot_eq_ok_iff_ofName? {token : String} :
    checkSlot token = .ok () ↔ ∃ slot, Slot.ofName? token = some slot := by
  unfold checkSlot
  cases Slot.ofName? token <;> simp

theorem checkSlot_eq_ok_iff {token : String} :
    checkSlot token = .ok () ↔ SlotWord token.toList := by
  rw [checkSlot_eq_ok_iff_ofName?, slotWord_iff]
  constructor
  · intro named
    rcases named with ⟨slot, named⟩
    exact ⟨slot, by rw [Slot.ofName?_eq_some_iff.mp named]⟩
  · intro named
    rcases named with ⟨slot, same⟩
    exact ⟨slot, Slot.ofName?_eq_some_iff.mpr (String.toList_injective same)⟩

theorem checkLabel_eq_ok_iff {token : String} :
    checkLabel token = .ok () ↔ ∀ c ∈ token.toList, isReserved c = false := by
  unfold checkLabel
  cases found : token.toList.find? isReserved with
  | none =>
      have free := List.find?_eq_none.mp found
      simpa using free
  | some reserved =>
      simp only [reduceCtorEq, false_iff]
      intro free
      have clash := free reserved (List.mem_of_find?_eq_some found)
      rw [List.find?_some found] at clash
      cases clash

theorem checkSlot_eq_error {token : String} {cause : TokenError}
    (failed : checkSlot token = .error cause) : cause = .notASlot token := by
  unfold checkSlot at failed
  split at failed <;> cases failed
  rfl

/-- A label fails its check for the first reserved character in it. -/
theorem checkLabel_eq_error_iff {token : String} {cause : TokenError} :
    checkLabel token = .error cause ↔
      ∃ reserved, token.toList.find? isReserved = some reserved ∧
        cause = .reservedCharacter token reserved := by
  unfold checkLabel
  cases token.toList.find? isReserved <;> simp [eq_comm]

/-! ## Characters of tokens -/

theorem isReserved_eq_false_iff {c : Char} :
    isReserved c = false ↔ isBlank c = false ∧ c ≠ '#' ∧ c ≠ '>' := by
  simp [isReserved, commentMark, labelMark, and_assoc]

/-- Digits and capital letters are not reserved. -/
theorem not_reserved_of_toNat {c : Char}
    (bounds : (48 ≤ c.toNat ∧ c.toNat ≤ 57) ∨ (65 ≤ c.toNat ∧ c.toNat ≤ 90)) :
    isReserved c = false := by
  refine isReserved_eq_false_iff.mpr ⟨?_, ?_, ?_⟩
  · simp only [isBlank, Text.inRanges, Text.blankRanges]
    simp
    omega
  · intro same
    subst same
    exact absurd bounds (by decide)
  · intro same
    subst same
    exact absurd bounds (by decide)

theorem not_reserved_of_isDigit {c : Char} (digit : c.isDigit = true) : isReserved c = false :=
  not_reserved_of_toNat (.inl (toNat_of_isDigit digit))

theorem Grammar.NumberWord.not_reserved {chars : List Char} (word : NumberWord chars) :
    ∀ c ∈ chars, isReserved c = false := by
  obtain ⟨n, derived, -⟩ := word
  cases derived with
  | unsigned digits =>
      exact fun c member => not_reserved_of_isDigit ((digits_iff.mp digits).2.1 c member)
  | plus digits =>
      refine List.forall_mem_cons.mpr ⟨by decide, fun c member => ?_⟩
      exact not_reserved_of_isDigit ((digits_iff.mp digits).2.1 c member)
  | minus digits =>
      refine List.forall_mem_cons.mpr ⟨by decide, fun c member => ?_⟩
      exact not_reserved_of_isDigit ((digits_iff.mp digits).2.1 c member)

theorem Grammar.SlotWord.not_reserved {chars : List Char} (word : SlotWord chars) :
    ∀ c ∈ chars, isReserved c = false := by
  obtain ⟨slot, rfl⟩ := slotWord_iff.mp word
  have letters : ∀ c ∈ slot.name.toList, 65 ≤ c.toNat ∧ c.toNat ≤ 90 := by
    cases slot <;> simp [Slot.name]
  exact fun c member => not_reserved_of_toNat (.inr (letters c member))

/-- A mnemonic is a word without reserved characters. -/
theorem Operation.name_ne_nil_and_not_reserved (operation : Operation) :
    operation.name.toList ≠ [] ∧ ∀ c ∈ operation.name.toList, isReserved c = false := by
  have letters : operation.name.toList ≠ [] ∧
      ∀ c ∈ operation.name.toList, 65 ≤ c.toNat ∧ c.toNat ≤ 90 := by
    cases operation <;> simp [Operation.name]
  exact ⟨letters.1, fun c member => not_reserved_of_toNat (.inr (letters.2 c member))⟩

theorem Operation.word_name (operation : Operation) : Word operation.name.toList :=
  have name := operation.name_ne_nil_and_not_reserved
  ⟨name.1, fun c member => (isReserved_eq_false_iff.mp (name.2 c member)).1⟩

/-- A token that passes the check for some kind of operand holds no reserved character. -/
theorem OperandKind.not_reserved_of_check {kind : OperandKind} {token : String}
    (checked : kind.check token = .ok ()) : ∀ c ∈ token.toList, isReserved c = false := by
  cases kind with
  | number => exact (checkNumber_eq_ok_iff.mp checked).not_reserved
  | slot => exact (checkSlot_eq_ok_iff.mp checked).not_reserved
  | label => exact checkLabel_eq_ok_iff.mp checked

/-! ## Phrases -/

theorem Operation.name_injective {operation other : Operation}
    (same : operation.name = other.name) : operation = other := by
  have named := ofName?_name operation
  rw [same, ofName?_name] at named
  exact (Option.some.inj named).symm

/-- The words of the grammar for a kind of operand. -/
def Grammar.OperandWord : OperandKind → List Char → Prop
  | .number => NumberWord
  | .slot => SlotWord
  | .label => LabelWord

/-- A phrase is a mnemonic with one word of the right kind for each operand. -/
theorem Grammar.phrase_iff {mnemonic : List Char} {words : List (List Char)} :
    Phrase mnemonic words ↔
      ∃ operation : Operation, mnemonic = operation.name.toList ∧
        words.length = operation.arity ∧
        ∀ pair ∈ operation.operands.zip words, OperandWord pair.1.kind pair.2 := by
  constructor
  · intro phrase
    cases phrase with
    | add first second =>
        exact ⟨.add, by decide, rfl,
          List.forall_mem_cons.mpr ⟨first, List.forall_mem_singleton.mpr second⟩⟩
    | sub first second =>
        exact ⟨.sub, by decide, rfl,
          List.forall_mem_cons.mpr ⟨first, List.forall_mem_singleton.mpr second⟩⟩
    | str number slot =>
        exact ⟨.str, by decide, rfl,
          List.forall_mem_cons.mpr ⟨number, List.forall_mem_singleton.mpr slot⟩⟩
    | bne first second label =>
        exact ⟨.bne, by decide, rfl,
          List.forall_mem_cons.mpr ⟨first,
            List.forall_mem_cons.mpr ⟨second, List.forall_mem_singleton.mpr label⟩⟩⟩
  · intro formed
    rcases formed with ⟨operation, rfl, arity, valid⟩
    cases operation with
    | add =>
        obtain ⟨first, second, rfl⟩ := List.length_eq_two.mp arity
        exact .add (valid (.slot1, first) (.head _)) (valid (.slot2, second) (.tail _ (.head _)))
    | sub =>
        obtain ⟨first, second, rfl⟩ := List.length_eq_two.mp arity
        exact .sub (valid (.slot1, first) (.head _)) (valid (.slot2, second) (.tail _ (.head _)))
    | str =>
        obtain ⟨number, slot, rfl⟩ := List.length_eq_two.mp arity
        exact .str (valid (.number, number) (.head _)) (valid (.slot, slot) (.tail _ (.head _)))
    | bne =>
        obtain ⟨first, second, label, rfl⟩ := List.length_eq_three.mp arity
        exact .bne (valid (.slot1, first) (.head _)) (valid (.slot2, second) (.tail _ (.head _)))
          (valid (.label, label) (.tail _ (.tail _ (.head _))))

theorem Grammar.OperandWord.word {kind : OperandKind} {chars : List Char}
    (valid : OperandWord kind chars) : Word chars := by
  have solid : (∀ c ∈ chars, isReserved c = false) → ∀ c ∈ chars, isBlank c = false :=
    fun free c member => (isReserved_eq_false_iff.mp (free c member)).1
  cases kind with
  | number =>
      refine ⟨?_, solid (NumberWord.not_reserved valid)⟩
      intro empty
      subst empty
      obtain ⟨n, derived, -⟩ := valid
      obtain ⟨literal, read, -⟩ := integer_iff.mp derived
      cases read
  | slot =>
      refine ⟨?_, solid (SlotWord.not_reserved valid)⟩
      intro empty
      subst empty
      cases valid
  | label => exact valid.1

/-- The words of the grammar that hold no comment mark are the tokens that pass the check. -/
theorem OperandKind.check_eq_ok_iff {kind : OperandKind} {token : String} :
    token ≠ "" ∧ kind.check token = .ok () ↔
      OperandWord kind token.toList ∧ '#' ∉ token.toList := by
  constructor
  · intro passes
    rcases passes with ⟨nonempty, checked⟩
    have free : ∀ c ∈ token.toList, isBlank c = false ∧ c ≠ '#' ∧ c ≠ '>' := fun c member =>
      isReserved_eq_false_iff.mp (not_reserved_of_check checked c member)
    refine ⟨?_, fun member => (free _ member).2.1 rfl⟩
    cases kind with
    | number => exact checkNumber_eq_ok_iff.mp checked
    | slot => exact checkSlot_eq_ok_iff.mp checked
    | label =>
        refine ⟨⟨?_, fun c member => (free c member).1⟩, fun member => (free _ member).2.2 rfl⟩
        rwa [Ne, String.toList_eq_nil_iff]
  · intro derived
    rcases derived with ⟨valid, uncommented⟩
    refine ⟨fun empty => valid.word.1 (by rw [empty, String.toList_empty]), ?_⟩
    cases kind with
    | number => exact checkNumber_eq_ok_iff.mpr valid
    | slot => exact checkSlot_eq_ok_iff.mpr valid
    | label =>
        refine checkLabel_eq_ok_iff.mpr fun c member => isReserved_eq_false_iff.mpr ⟨?_, ?_, ?_⟩
        · exact valid.1.2 c member
        · intro same
          subst same
          exact uncommented member
        · intro same
          subst same
          exact valid.2 member

namespace Instruction

instance (instruction : Instruction) : Decidable instruction.WellFormed :=
  decidable_of_iff
    (instruction.tokens.length = instruction.operation.arity ∧
      (∀ pair ∈ instruction.operands, pair.1.kind.check pair.2 = .ok ()) ∧
      ∀ token ∈ instruction.tokens, token ≠ "")
    ⟨fun ⟨arity, checked, nonempty⟩ => ⟨arity, checked, nonempty⟩,
      fun ⟨arity, checked, nonempty⟩ => ⟨arity, checked, nonempty⟩⟩

/-- With one token for each operand, every token stands for an operand. -/
theorem exists_operand_of_mem {operation : Operation} {tokens : List String} {token : String}
    (arity : tokens.length = operation.arity) (member : token ∈ tokens) :
    ∃ operand, (operand, token) ∈ operation.operands.zip tokens := by
  have all : (operation.operands.zip tokens).map Prod.snd = tokens :=
    List.map_snd_zip (Nat.le_of_eq arity)
  rw [← all] at member
  obtain ⟨⟨operand, token⟩, listed, rfl⟩ := List.mem_map.mp member
  exact ⟨operand, listed⟩

/-- The well-formed instructions are the phrases of the grammar that hold no comment mark. -/
theorem wellFormed_iff_phrase {instruction : Instruction} :
    instruction.WellFormed ↔
      Phrase instruction.operation.name.toList (instruction.tokens.map String.toList) ∧
        ∀ token ∈ instruction.tokens, '#' ∉ token.toList := by
  obtain ⟨operation, tokens⟩ := instruction
  have zipped : operation.operands.zip (tokens.map String.toList) =
      (operation.operands.zip tokens).map (Prod.map id String.toList) :=
    List.zip_map_right ..
  rw [phrase_iff]
  constructor
  · intro wellFormed
    rcases wellFormed with ⟨arity, checked, nonempty⟩
    have valid : ∀ pair ∈ operation.operands.zip tokens,
        OperandWord pair.1.kind pair.2.toList ∧ '#' ∉ pair.2.toList := fun pair member =>
      OperandKind.check_eq_ok_iff.mp
        ⟨nonempty _ (List.of_mem_zip member).2, checked pair member⟩
    refine ⟨⟨operation, rfl, by simpa using arity, ?_⟩, ?_⟩
    · rw [zipped, List.forall_mem_map]
      exact fun pair member => (valid pair member).1
    · intro token member
      obtain ⟨operand, listed⟩ := exists_operand_of_mem arity member
      exact (valid _ listed).2
  · intro derived
    rcases derived with ⟨⟨other, named, arity, valid⟩, uncommented⟩
    obtain rfl : operation = other := Operation.name_injective (String.toList_injective named)
    rw [zipped, List.forall_mem_map] at valid
    have arity' : tokens.length = operation.arity := by simpa using arity
    have checked : ∀ pair ∈ operation.operands.zip tokens,
        pair.2 ≠ "" ∧ pair.1.kind.check pair.2 = .ok () := fun pair member =>
      OperandKind.check_eq_ok_iff.mpr
        ⟨valid pair member, uncommented _ (List.of_mem_zip member).2⟩
    refine ⟨arity', fun pair member => (checked pair member).2, fun token member => ?_⟩
    obtain ⟨operand, listed⟩ := exists_operand_of_mem arity' member
    exact (checked _ listed).1

end Instruction

end SlotAsm
