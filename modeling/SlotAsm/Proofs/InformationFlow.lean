import Mathlib.Data.List.Forall2
import Mathlib.Data.Set.Basic
import SlotAsm.Proofs.Lockstep
import SlotAsm.Proofs.RoundTrip
import SlotAsm.Proofs.SideBySide

/-!
What the constants of a program can influence. A set of slots decides a program when it holds the
slots of every branch and, with the target of a sum or difference, also its source
(`Program.DecidedBy`). Stores into other slots may store any constants: an action then still finds
the same slots empty, takes the same way and writes the same into the deciding slots
(`Decoded.effect_agrees`). So no number of steps shows a difference there
(`parse_confines_constants`).
-/

namespace SlotAsm

/-! ## Slots that decide, and constants that vary -/

/-- A set of slots that holds both slots of every branch, and the source of every sum and difference
whose target it holds. -/
structure Program.DecidedBy (program : Program) (deciding : Set Slot) : Prop where
  branches : ∀ {left right : Slot} {label : String},
    ⟨.bne, [left.name, right.name, label]⟩ ∈ program.instructions →
      left ∈ deciding ∧ right ∈ deciding
  sums : ∀ {source target : Slot},
    ⟨.add, [source.name, target.name]⟩ ∈ program.instructions →
      target ∈ deciding → source ∈ deciding
  differences : ∀ {source target : Slot},
    ⟨.sub, [source.name, target.name]⟩ ∈ program.instructions →
      target ∈ deciding → source ∈ deciding

/-- The same instruction, or a store of another number into a slot outside the set. -/
inductive Instruction.VariesOutside (deciding : Set Slot) : Instruction → Instruction → Prop
  | same (given : Instruction) : VariesOutside deciding given given
  | store {number other : String} {target : Slot} :
      target ∉ deciding → checkNumber other = .ok () →
      VariesOutside deciding ⟨.str, [number, target.name]⟩ ⟨.str, [other, target.name]⟩

/-- The second program differs from the first only in numbers that are stored into slots outside the
set. -/
structure Program.VariesOutside (deciding : Set Slot) (program other : Program) : Prop where
  instructions : List.Forall₂ (Instruction.VariesOutside deciding) program.instructions
    other.instructions
  labels : other.labels = program.labels

variable {deciding : Set Slot}

theorem checkNumber_ne_empty {token : String} (checked : checkNumber token = .ok ()) :
    token ≠ "" := by
  rintro rfl
  cases checked

/-- The number of a store may be replaced by any that passes its check. -/
theorem Instruction.VariesOutside.wellFormed {given other : Instruction}
    (varies : VariesOutside deciding given other) (wellFormed : given.WellFormed) :
    other.WellFormed := by
  cases varies with
  | same => exact wellFormed
  | store _ checked =>
    obtain ⟨-, passes, nonempty⟩ := wellFormed
    refine ⟨rfl, List.forall_mem_cons.mpr ⟨checked, (List.forall_mem_cons.mp passes).2⟩, ?_⟩
    exact List.forall_mem_cons.mpr
      ⟨checkNumber_ne_empty checked, (List.forall_mem_cons.mp nonempty).2⟩

namespace Program.VariesOutside

variable {program other : Program}

theorem length_eq (varies : VariesOutside deciding program other) :
    other.length = program.length :=
  varies.instructions.length_eq.symm

theorem counterpart (varies : VariesOutside deciding program other) {index : Nat}
    {given : Instruction} (stands : program.get? index = some given) :
    ∃ given', other.get? index = some given' ∧ given.VariesOutside deciding given' := by
  obtain ⟨below, rfl⟩ := List.getElem?_eq_some_iff.mp stands
  have below' : index < other.instructions.length := varies.instructions.length_eq ▸ below
  exact ⟨_, List.getElem?_eq_getElem below', varies.instructions.get below below'⟩

theorem wellFormed (varies : VariesOutside deciding program other)
    (wellFormed : program.WellFormed) : other.WellFormed := by
  refine ⟨fun given member => ?_, ?_, ?_⟩
  · obtain ⟨index, below, rfl⟩ := List.getElem_of_mem member
    have below' : index < program.instructions.length := varies.instructions.length_eq ▸ below
    have inside := wellFormed.instructions _ (List.getElem_mem below')
    exact (varies.instructions.get below' below).wellFormed inside
  · rw [varies.labels]
    exact wellFormed.labels
  · rw [varies.labels, varies.length_eq]
    exact wellFormed.withinEnd

end Program.VariesOutside

/-! ## Actions -/

/-- An action takes nothing from outside the set into it. -/
def Action.DecidedBy (deciding : Set Slot) : Action Value → Prop
  | .add source target | .sub source target => target ∈ deciding → source ∈ deciding
  | .store _ _ => True
  | .branch left right _ _ => left ∈ deciding ∧ right ∈ deciding

/-- The same action, or a store of another value into a slot outside the set. -/
inductive Action.VariesOutside (deciding : Set Slot) : Action Value → Action Value → Prop
  | same (action : Action Value) : VariesOutside deciding action action
  | store (value other : Value) {target : Slot} :
      target ∉ deciding → VariesOutside deciding (.store value target) (.store other target)

section Decodes

variable {labels : LabelTable} {given other : Instruction} {action : Action Value}

theorem Action.Decodes.decidedBy {program : Program} (decided : program.DecidedBy deciding)
    (member : given ∈ program.instructions) (decodes : Decodes Value.ofText? labels given action) :
    action.DecidedBy deciding := by
  cases decodes with
  | add named named' =>
    rw [Slot.ofName?_eq_some_iff.mp named, Slot.ofName?_eq_some_iff.mp named'] at member
    exact decided.sums member
  | sub named named' =>
    rw [Slot.ofName?_eq_some_iff.mp named, Slot.ofName?_eq_some_iff.mp named'] at member
    exact decided.differences member
  | str => trivial
  | bne named named' =>
    rw [Slot.ofName?_eq_some_iff.mp named, Slot.ofName?_eq_some_iff.mp named'] at member
    exact decided.branches member

/-- An instruction that varies is decoded to an action that varies. -/
theorem Instruction.VariesOutside.exists_decodes (varies : VariesOutside deciding given other)
    (decodes : Action.Decodes Value.ofText? labels given action) :
    ∃ action', Action.Decodes Value.ofText? labels other action' ∧
      action.VariesOutside deciding action' := by
  cases varies with
  | same => exact ⟨action, decodes, .same action⟩
  | @store _ _ target outside checked =>
    obtain ⟨value', read'⟩ := checkNumber_eq_ok_iff_ofText?.mp checked
    cases decodes with
    | @str _ _ value target' _ named =>
      obtain rfl : target = target' :=
        Slot.name_injective (Slot.ofName?_eq_some_iff.mp named)
      exact ⟨_, .str read' named, .store value value' outside⟩

end Decodes

/-! ## Stores that agree -/

/-- The same slots are empty, and the slots in the set hold the same. -/
def agreement (deciding : Set Slot) : Comparison where
  related store store' := ∀ slot,
    Option.Rel (fun value value' => slot ∈ deciding → value' = value) (store.get slot)
      (store'.get slot)
  translate := id
  translate_finished := rfl

section Agreement

variable {store store' : Store}

theorem agreement_empty : (agreement deciding).related ∅ ∅ := by
  intro slot
  rw [Store.get_empty]
  exact .none

theorem get_eq_of_agreement (agree : (agreement deciding).related store store') {slot : Slot}
    (inside : slot ∈ deciding) : store'.get slot = store.get slot := by
  have here := agree slot
  generalize store.get slot = held at here ⊢
  generalize store'.get slot = held' at here ⊢
  cases here with
  | none => rfl
  | some same => exact congrArg some (same inside)

theorem agreement_set (agree : (agreement deciding).related store store') {target : Slot}
    {value value' : Value} (same : target ∈ deciding → value' = value) :
    (agreement deciding).related (store.set target value) (store'.set target value') := by
  intro slot
  by_cases here : target = slot
  · subst here
    rw [Store.get_set_self, Store.get_set_self]
    exact .some same
  · rw [Store.get_set_of_ne here, Store.get_set_of_ne here]
    exact agree slot

/-- An action that takes nothing into the set from outside does the same to stores that agree, even
if it is a store of another value outside the set. -/
theorem Decoded.effect_agrees {action action' : Action Value} (decided : action.DecidedBy deciding)
    (varies : action.VariesOutside deciding action')
    (agree : (agreement deciding).related store store') (pc : Nat) :
    Corresponds id ((agreement deciding).Effects store store') (Decoded.effect store pc action)
      (Decoded.effect store' pc action') := by
  cases varies with
  | store value other outside =>
    exact .ok ⟨rfl, agreement_set agree fun inside => absurd inside outside⟩
  | same =>
    cases action with
    | add source target =>
      rw [Decoded.effect_add, Decoded.effect_add]
      refine (readBoth_corresponds agree source target).bind fun held held' same => ?_
      refine .ok ⟨rfl, agreement_set agree fun inside => ?_⟩
      rw [same.1 (decided inside), same.2 inside]
    | sub source target =>
      rw [Decoded.effect_sub, Decoded.effect_sub]
      refine (readBoth_corresponds agree source target).bind fun held held' same => ?_
      refine .ok ⟨rfl, agreement_set agree fun inside => ?_⟩
      rw [same.1 (decided inside), same.2 inside]
    | store value target => exact .ok ⟨rfl, agreement_set agree fun _ => rfl⟩
    | branch left right label target =>
      -- Both slots of a branch decide, so the values that are compared are the same.
      obtain ⟨leftInside, rightInside⟩ := decided
      rw [Decoded.effect_branch, Decoded.effect_branch]
      refine (readBoth_corresponds agree left right).bind fun held held' same => ?_
      rw [same.1 leftInside, same.2 rightInside]
      cases target with
      | none => exact .error (.undefinedLabel label)
      | some index => exact .ok ⟨rfl, agree⟩

end Agreement

/-! ## Programs -/

theorem Program.DecidedBy.mirrors {program other : Program} (decided : program.DecidedBy deciding)
    (varies : program.VariesOutside deciding other) (wellFormed : program.WellFormed) :
    (agreement deciding).Mirrors program other where
  length_eq := varies.length_eq
  counterpart := by
    intro index given stands
    obtain ⟨given', stands', varies'⟩ := varies.counterpart stands
    have member := List.mem_of_getElem? stands
    obtain ⟨action, decodes⟩ := wellFormed.exists_decodes member
    obtain ⟨action', decodes', actionVaries⟩ := varies'.exists_decodes decodes
    refine ⟨given', stands', fun agree => ?_⟩
    rw [decodes.effect_eq wellFormed, Action.Decodes.effect_eq (varies.labels ▸ decodes')
      (varies.wellFormed wellFormed)]
    exact Decoded.effect_agrees (decodes.decidedBy decided member) actionVaries agree index

/-- What is stored into slots that do not decide a program has no influence on those that do. When
only the numbers that are stored into other slots are replaced, then after any number of steps the
two programs are at the same index and in the same stage, the next step has the same result, the
same slots are empty, and the deciding slots hold the same. -/
theorem parse_confines_constants {text : String} {program other : Program} {deciding : Set Slot}
    (parsed : parse text = .ok program) (decided : program.DecidedBy deciding)
    (varies : program.VariesOutside deciding other) (n : Nat) :
    let machine := (Machine.ofProgram program).afterSteps n
    let varied := (Machine.ofProgram other).afterSteps n
    varied.pc = machine.pc ∧ varied.status = machine.status ∧ varied.error? = machine.error? ∧
      varied.step.1 = machine.step.1 ∧
      (∀ slot, varied.store.get slot = none ↔ machine.store.get slot = none) ∧
      ∀ slot ∈ deciding, varied.store.get slot = machine.store.get slot := by
  have mirrors := decided.mirrors varies (Program.wellFormed_of_parse parsed)
  have starts : Machine.SideBySide (agreement deciding) program other (.ofProgram program)
      (.ofProgram other) := .intro 0 none agreement_empty
  have beside := starts.afterSteps mirrors n
  have result := (beside.step mirrors).1
  refine ⟨beside.pc_eq, beside.status_eq mirrors, ?_, ?_,
    fun slot => eq_none_iff_of_rel (beside.related slot),
    fun slot inside => get_eq_of_agreement beside.related inside⟩
  · exact beside.error?_eq.trans (congrFun Option.map_id _)
  · rw [result]
    cases ((Machine.ofProgram program).afterSteps n).step.1 <;> rfl

/-- A program that sums up what a counter runs through, from a given start until the counter reaches
its bound. -/
def summing (start : String) : Program where
  instructions := [⟨.str, ["2", "A"]⟩, ⟨.str, ["0", "B"]⟩, ⟨.str, ["1", "C"]⟩,
    ⟨.str, [start, "D"]⟩, ⟨.add, ["C", "B"]⟩, ⟨.add, ["B", "D"]⟩, ⟨.bne, ["A", "B", "loop"]⟩]
  labels := (∅ : LabelTable).insert "loop" 4

theorem parse_summing : parse (summing "7").text = .ok (summing "7") :=
  Program.WellFormed.parse_text ⟨by decide, by decide, by decide⟩

theorem decidedBy_summing : (summing "7").DecidedBy {slot | slot ∈ [.a, .b, .c]} where
  branches := by
    intro left right label member
    obtain ⟨first, second, -⟩ : left.name = "A" ∧ right.name = "B" ∧ label = "loop" := by
      simpa [summing] using member
    obtain rfl : left = .a := Slot.name_injective first
    obtain rfl : right = .b := Slot.name_injective second
    simp
  sums := by
    intro source target member
    have named : source.name = "C" ∧ target.name = "B" ∨ source.name = "B" ∧ target.name = "D" := by
      simpa [summing] using member
    rcases named with ⟨fromC, -⟩ | ⟨fromB, -⟩
    · obtain rfl : source = .c := Slot.name_injective fromC
      simp
    · obtain rfl : source = .b := Slot.name_injective fromB
      simp
  differences := by
    intro source target member
    simp [summing] at member

/-- Only the slot of the sum shows which constant it started from. -/
theorem parse_confines_constants_summing :
    parse (summing "7").text = .ok (summing "7") ∧
    let machine := (Machine.ofProgram (summing "7")).afterSteps 9
    let varied := (Machine.ofProgram (summing "-40")).afterSteps 9
    varied.pc = machine.pc ∧ varied.status = machine.status ∧ varied.store.get .b = some 2 ∧
      machine.store.get .d = some 10 ∧ varied.store.get .d = some (-37) := by
  have varies : (summing "7").VariesOutside {slot | slot ∈ [.a, .b, .c]} (summing "-40") := by
    refine ⟨.cons (.same _) (.cons (.same _) (.cons (.same _) (.cons ?_ ?_))), rfl⟩
    · have outside : Slot.d ∉ {slot | slot ∈ [Slot.a, .b, .c]} := by simp
      exact .store outside (by decide)
    · exact List.forall₂_same.mpr fun given _ => .same given
  obtain ⟨place, stage, -, -, -, held⟩ :=
    parse_confines_constants parse_summing decidedBy_summing varies 9
  exact ⟨parse_summing, place, stage, (held .b (by simp)).trans (by decide), by decide, by decide⟩

end SlotAsm
