import SlotAsm.Decoded
import SlotAsm.Proofs.Lifecycle

/-!
Two programs that are executed side by side. A `Comparison` says which stores are related and which
error of the second program stands for an error of the first. One program mirrors another when at
each index, on related stores, their instructions do what corresponds (`Comparison.Mirrors`). Then
the machines stay side by side for any number of steps: at the same index and in the same stage,
with related slots and with results that correspond.

Actions come to their effects by reading two slots first (`readBoth`), so that what corresponds in
the slots corresponds in the effects.
-/

namespace SlotAsm

/-! ## Results that correspond -/

/-- Values that are related, or an error and the one that stands for it. -/
inductive Corresponds (translate : StepError → StepError) {α β : Type} (related : α → β → Prop) :
    Except StepError α → Except StepError β → Prop
  | ok {value : α} {other : β} :
      related value other → Corresponds translate related (.ok value) (.ok other)
  | error (error : StepError) :
      Corresponds translate related (.error error) (.error (translate error))

/-- Results correspond when the results of their first parts do, and then those of the rest. -/
theorem Corresponds.bind {translate : StepError → StepError} {α β γ δ : Type}
    {related : α → β → Prop} {others : γ → δ → Prop}
    {first : Except StepError α} {first' : Except StepError β}
    {rest : α → Except StepError γ} {rest' : β → Except StepError δ}
    (firsts : Corresponds translate related first first')
    (rests : ∀ value value', related value value' →
      Corresponds translate others (rest value) (rest' value')) :
    Corresponds translate others (first >>= rest) (first' >>= rest') := by
  cases firsts with
  | ok same => exact rests _ _ same
  | error error => exact .error error

/-! ## Reading two slots -/

/-- What two slots hold. The first one that is empty is an error. -/
def readBoth {α : Type} (read : Slot → Option α) (first second : Slot) :
    Except StepError (α × α) :=
  match read first, read second with
  | none, _ => .error (.emptySlot .slot1 first)
  | some _, none => .error (.emptySlot .slot2 second)
  | some x, some y => .ok (x, y)

/-- What two slots hold corresponds when slots hold what is related to each other. -/
theorem readBoth_corresponds {α β : Type} {read : Slot → Option α} {read' : Slot → Option β}
    {related : Slot → α → β → Prop}
    (slots : ∀ slot, Option.Rel (related slot) (read slot) (read' slot)) (first second : Slot) :
    Corresponds id (fun held held' => related first held.1 held'.1 ∧ related second held.2 held'.2)
      (readBoth read first second) (readBoth read' first second) := by
  have firsts := slots first
  have seconds := slots second
  unfold readBoth
  generalize read first = x at firsts ⊢
  generalize read' first = x' at firsts ⊢
  generalize read second = y at seconds ⊢
  generalize read' second = y' at seconds ⊢
  cases firsts with
  | none => exact .error (.emptySlot .slot1 first)
  | some same =>
    cases seconds with
    | none => exact .error (.emptySlot .slot2 second)
    | some same' => exact .ok ⟨same, same'⟩

/-- Slots that hold what is related are empty together. -/
theorem eq_none_iff_of_rel {α β : Type} {related : α → β → Prop} {held : Option α}
    {held' : Option β} (rel : Option.Rel related held held') : held' = none ↔ held = none := by
  cases rel with
  | none => exact iff_of_true rfl rfl
  | @some value value' _ =>
    exact iff_of_false (Option.some_ne_none value') (Option.some_ne_none value)

namespace Decoded

variable (store : Store) (pc : Nat)

theorem effect_add (source target : Slot) :
    effect store pc (.add source target) = readBoth store.get source target >>= fun held =>
      .ok ⟨some (target, held.2 + held.1), pc + 1⟩ := by
  simp only [effect, readBoth]
  cases store.get source <;> cases store.get target <;> rfl

theorem effect_sub (source target : Slot) :
    effect store pc (.sub source target) = readBoth store.get source target >>= fun held =>
      .ok ⟨some (target, held.2 - held.1), pc + 1⟩ := by
  simp only [effect, readBoth]
  cases store.get source <;> cases store.get target <;> rfl

theorem effect_branch (left right : Slot) (label : String) (target : Option Nat) :
    effect store pc (.branch left right label target) =
      readBoth store.get left right >>= fun held =>
        match target with
        | none => .error (.undefinedLabel label)
        | some index => .ok ⟨none, if held.1 = held.2 then pc + 1 else index⟩ := by
  simp only [effect, readBoth]
  cases store.get left <;> cases store.get right <;> cases target <;> rfl

end Decoded

/-! ## Programs and machines -/

/-- How the executions of two programs are compared. -/
structure Comparison where
  /-- The stores that are related. -/
  related : Store → Store → Prop
  /-- The error of the second program that stands for an error of the first. -/
  translate : StepError → StepError
  /-- The programs come to their ends together. -/
  translate_finished : translate .finished = .finished

namespace Comparison

/-- Two effects go on at the same index and leave stores that are related. -/
def Effects (comparison : Comparison) (store store' : Store) (effect effect' : Effect) : Prop :=
  effect'.next = effect.next ∧ comparison.related (effect.apply store) (effect'.apply store')

/-- The second program has an instruction for each one of the first. On related stores, the two do
what corresponds. -/
structure Mirrors (comparison : Comparison) (program other : Program) : Prop where
  length_eq : other.length = program.length
  counterpart : ∀ {index : Nat} {given : Instruction}, program.get? index = some given →
    ∃ given', other.get? index = some given' ∧
      ∀ {store store' : Store}, comparison.related store store' →
        Corresponds comparison.translate (comparison.Effects store store')
          (given.effect program store index) (given'.effect other store' index)

end Comparison

namespace Machine

/-- A machine that executes a program and one that executes another, at the same index with related
slots, and with an error that stands for that of the first. -/
inductive SideBySide (comparison : Comparison) (program other : Program) : Machine → Machine → Prop
  | intro {store store' : Store} (pc : Nat) (error : Option StepError) :
      comparison.related store store' →
      SideBySide comparison program other (loaded ⟨program, store, pc, error⟩)
        (loaded ⟨other, store', pc, error.map comparison.translate⟩)

namespace SideBySide

variable {comparison : Comparison} {program other : Program} {machine counterpart : Machine}

theorem pc_eq (beside : SideBySide comparison program other machine counterpart) :
    counterpart.pc = machine.pc := by
  cases beside
  rfl

theorem related (beside : SideBySide comparison program other machine counterpart) :
    comparison.related machine.store counterpart.store := by
  cases beside with
  | intro pc error related => exact related

theorem error?_eq (beside : SideBySide comparison program other machine counterpart) :
    counterpart.error? = machine.error?.map comparison.translate := by
  cases beside
  rfl

theorem status_eq (beside : SideBySide comparison program other machine counterpart)
    (mirrors : comparison.Mirrors program other) : counterpart.status = machine.status := by
  cases beside with
  | intro pc error =>
    simp only [status_loaded, mirrors.length_eq, Option.isSome_map]

/-- The two machines make steps that correspond. -/
theorem step (beside : SideBySide comparison program other machine counterpart)
    (mirrors : comparison.Mirrors program other) :
    counterpart.step.1 = machine.step.1.mapError comparison.translate ∧
      SideBySide comparison program other machine.step.2 counterpart.step.2 := by
  cases beside with
  | @intro store store' pc error related =>
    cases stands : program.get? pc with
    | none =>
      have ended : Session.current? ⟨program, store, pc, error⟩ = none := stands
      have beyond : other.length ≤ pc := mirrors.length_eq ▸ List.getElem?_eq_none_iff.mp stands
      have ended' :
          Session.current? ⟨other, store', pc, error.map comparison.translate⟩ = none :=
        List.getElem?_eq_none_iff.mpr beyond
      rw [step_finished ended, step_finished ended']
      exact ⟨congrArg Except.error comparison.translate_finished.symm, .intro pc error related⟩
    | some given =>
      obtain ⟨given', stands', outcomes⟩ := mirrors.counterpart stands
      have current : Session.current? ⟨program, store, pc, error⟩ = some given := stands
      have current' :
          Session.current? ⟨other, store', pc, error.map comparison.translate⟩ = some given' :=
        stands'
      have outcomes := outcomes related
      generalize outcome : given.effect program store pc = result at outcomes
      generalize outcome' : given'.effect other store' pc = result' at outcomes
      cases outcomes with
      | @ok effect effect' both =>
        rcases both with ⟨next, related⟩
        rw [step_executed current outcome, step_executed current' outcome', next]
        exact ⟨rfl, .intro effect.next none related⟩
      | error cause =>
        rw [step_failed current outcome, step_failed current' outcome']
        exact ⟨rfl, .intro pc (some cause) related⟩

/-- Two machines that are side by side stay so. -/
theorem afterSteps (beside : SideBySide comparison program other machine counterpart)
    (mirrors : comparison.Mirrors program other) (n : Nat) :
    SideBySide comparison program other (machine.afterSteps n) (counterpart.afterSteps n) := by
  induction n generalizing machine counterpart with
  | zero => exact beside
  | succ n ih => exact ih (beside.step mirrors).2

end SideBySide

end Machine

end SlotAsm
