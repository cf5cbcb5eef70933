import Mathlib.Data.List.Basic
import SlotAsm.Decoded
import SlotAsm.Proofs.Tokens

/-!
Instructions and the actions that they are decoded to. `Action.Decodes` has one rule for each
operation, whatever the type of the numbers and their reader. A well-formed instruction can be
decoded, since the checks that its tokens passed are those that reading them needs; so can a
well-formed program, and its actions stand at the indices of its instructions.
-/

namespace SlotAsm

/-! ## One instruction -/

/-- What an instruction is decoded to, operation by operation. -/
inductive Action.Decodes {number : Type} (read? : String → Option number) (labels : LabelTable) :
    Instruction → Action number → Prop
  | add {first second : String} {source target : Slot} :
      Slot.ofName? first = some source → Slot.ofName? second = some target →
      Decodes read? labels ⟨.add, [first, second]⟩ (.add source target)
  | sub {first second : String} {source target : Slot} :
      Slot.ofName? first = some source → Slot.ofName? second = some target →
      Decodes read? labels ⟨.sub, [first, second]⟩ (.sub source target)
  | str {first second : String} {value : number} {target : Slot} :
      read? first = some value → Slot.ofName? second = some target →
      Decodes read? labels ⟨.str, [first, second]⟩ (.store value target)
  | bne {first second label : String} {left right : Slot} :
      Slot.ofName? first = some left → Slot.ofName? second = some right →
      Decodes read? labels ⟨.bne, [first, second, label]⟩
        (.branch left right label (labels.get? label))

section Decodes

variable {number : Type} {read? : String → Option number} {labels : LabelTable}
  {instruction : Instruction} {action : Action number}

theorem Action.ofInstruction?_eq_some_iff :
    ofInstruction? read? labels instruction = some action ↔
      Decodes read? labels instruction action := by
  obtain ⟨operation, tokens⟩ := instruction
  constructor
  · intro decoded
    unfold ofInstruction? at decoded
    split at decoded
    · next sameOperation sameTokens =>
      obtain ⟨source, first, decoded⟩ := Option.bind_eq_some_iff.mp decoded
      obtain ⟨target, second, decoded⟩ := Option.bind_eq_some_iff.mp decoded
      cases sameOperation
      cases sameTokens
      cases decoded
      exact .add first second
    · next sameOperation sameTokens =>
      obtain ⟨source, first, decoded⟩ := Option.bind_eq_some_iff.mp decoded
      obtain ⟨target, second, decoded⟩ := Option.bind_eq_some_iff.mp decoded
      cases sameOperation
      cases sameTokens
      cases decoded
      exact .sub first second
    · next sameOperation sameTokens =>
      obtain ⟨value, first, decoded⟩ := Option.bind_eq_some_iff.mp decoded
      obtain ⟨target, second, decoded⟩ := Option.bind_eq_some_iff.mp decoded
      cases sameOperation
      cases sameTokens
      cases decoded
      exact .str first second
    · next sameOperation sameTokens =>
      obtain ⟨left, first, decoded⟩ := Option.bind_eq_some_iff.mp decoded
      obtain ⟨right, second, decoded⟩ := Option.bind_eq_some_iff.mp decoded
      cases sameOperation
      cases sameTokens
      cases decoded
      exact .bne first second
    · cases decoded
  · intro decodes
    cases decodes with
    | add first second => simp [ofInstruction?, first, second]
    | sub first second => simp [ofInstruction?, first, second]
    | str first second => simp [ofInstruction?, first, second]
    | bne first second => simp [ofInstruction?, first, second]

/-- A branch is decoded with what its label is mapped to. -/
theorem Action.Decodes.target_eq (decodes : Decodes read? labels instruction action)
    {left right : Slot} {label : String} {target : Option Nat}
    (branch : action = .branch left right label target) : target = labels.get? label := by
  cases decodes with
  | add => cases branch
  | sub => cases branch
  | str => cases branch
  | bne =>
      cases branch
      rfl

/-- A well-formed instruction can be decoded by every reader that reads the numbers that pass their
check. -/
theorem Instruction.WellFormed.exists_decodes (wellFormed : instruction.WellFormed)
    (readable : ∀ token, checkNumber token = .ok () → ∃ value, read? token = some value) :
    ∃ action, Action.Decodes read? labels instruction action := by
  obtain ⟨operation, tokens⟩ := instruction
  obtain ⟨arity, checked, -⟩ := wellFormed
  cases operation with
  | add =>
      obtain ⟨first, second, rfl⟩ := List.length_eq_two.mp arity
      obtain ⟨source, named⟩ := checkSlot_eq_ok_iff_ofName?.mp (checked (.slot1, first) (.head _))
      obtain ⟨target, named'⟩ :=
        checkSlot_eq_ok_iff_ofName?.mp (checked (.slot2, second) (.tail _ (.head _)))
      exact ⟨_, .add named named'⟩
  | sub =>
      obtain ⟨first, second, rfl⟩ := List.length_eq_two.mp arity
      obtain ⟨source, named⟩ := checkSlot_eq_ok_iff_ofName?.mp (checked (.slot1, first) (.head _))
      obtain ⟨target, named'⟩ :=
        checkSlot_eq_ok_iff_ofName?.mp (checked (.slot2, second) (.tail _ (.head _)))
      exact ⟨_, .sub named named'⟩
  | str =>
      obtain ⟨first, second, rfl⟩ := List.length_eq_two.mp arity
      obtain ⟨value, read⟩ := readable first (checked (.number, first) (.head _))
      obtain ⟨target, named⟩ :=
        checkSlot_eq_ok_iff_ofName?.mp (checked (.slot, second) (.tail _ (.head _)))
      exact ⟨_, .str read named⟩
  | bne =>
      obtain ⟨first, second, label, rfl⟩ := List.length_eq_three.mp arity
      obtain ⟨left, named⟩ := checkSlot_eq_ok_iff_ofName?.mp (checked (.slot1, first) (.head _))
      obtain ⟨right, named'⟩ :=
        checkSlot_eq_ok_iff_ofName?.mp (checked (.slot2, second) (.tail _ (.head _)))
      exact ⟨_, .bne named named'⟩

end Decodes

/-! ## A program -/

/-- A list is mapped as a whole to the list of what its members are mapped to. -/
theorem mapM_eq_some_iff {α β : Type} {f : α → Option β} {xs : List α} {ys : List β} :
    xs.mapM f = some ys ↔ xs.map f = ys.map some := by
  induction xs generalizing ys with
  | nil => cases ys <;> simp
  | cons x xs ih =>
      rw [List.mapM_cons, List.map_cons]
      constructor
      · intro mapped
        obtain ⟨y, first, mapped⟩ := Option.bind_eq_some_iff.mp mapped
        obtain ⟨rest, others, mapped⟩ := Option.bind_eq_some_iff.mp mapped
        cases mapped
        rw [first, ih.mp others, List.map_cons]
      · intro same
        cases ys with
        | nil => cases same
        | cons y ys =>
            obtain ⟨first, others⟩ := List.cons.inj same
            simp [first, ih.mpr others]

/-- A list can be mapped as a whole when each of its members can. -/
theorem exists_mapM {α β : Type} {f : α → Option β} {xs : List α}
    (each : ∀ x ∈ xs, ∃ y, f x = some y) : ∃ ys, xs.mapM f = some ys := by
  induction xs with
  | nil => exact ⟨[], rfl⟩
  | cons x xs ih =>
      obtain ⟨⟨y, first⟩, others⟩ := List.forall_mem_cons.mp each
      obtain ⟨ys, rest⟩ := ih others
      exact ⟨y :: ys, by simp [first, rest]⟩

namespace Program

section Actions

variable {number : Type} {read? : String → Option number} {program : Program}
  {actions : List (Action number)}

/-- A well-formed program can be decoded. -/
theorem WellFormed.exists_actions (wellFormed : program.WellFormed)
    (readable : ∀ token, checkNumber token = .ok () → ∃ value, read? token = some value) :
    ∃ actions, program.actions? read? = some actions := by
  apply exists_mapM
  intro instruction member
  obtain ⟨action, decodes⟩ := (wellFormed.instructions instruction member).exists_decodes readable
  exact ⟨action, Action.ofInstruction?_eq_some_iff.mpr decodes⟩

/-- The instructions of a well-formed program can be decoded one by one. -/
theorem WellFormed.exists_decodes (wellFormed : program.WellFormed) {given : Instruction}
    (member : given ∈ program.instructions) :
    ∃ action, Action.Decodes Value.ofText? program.labels given action :=
  (wellFormed.instructions given member).exists_decodes fun _ => checkNumber_eq_ok_iff_ofText?.mp

/-- The action at an index is what the instruction there is decoded to. -/
theorem getElem?_actions (decoded : program.actions? read? = some actions) (index : Nat) :
    (program.get? index = none ∧ actions[index]? = none) ∨
      ∃ instruction action, program.get? index = some instruction ∧
        actions[index]? = some action ∧
          Action.Decodes read? program.labels instruction action := by
  have same := congrArg (·[index]?) (mapM_eq_some_iff.mp decoded)
  simp only [List.getElem?_map] at same
  unfold get?
  cases stands : program.instructions[index]? with
  | none =>
      rw [stands] at same
      exact .inl ⟨rfl, Option.map_eq_none_iff.mp same.symm⟩
  | some instruction =>
      rw [stands] at same
      obtain ⟨action, found, read⟩ := Option.map_eq_some_iff.mp same.symm
      exact .inr ⟨instruction, action, rfl, found,
        Action.ofInstruction?_eq_some_iff.mp read.symm⟩

end Actions

end Program

end SlotAsm
