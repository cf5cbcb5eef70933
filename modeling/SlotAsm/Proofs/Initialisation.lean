import SlotAsm.Proofs.Lockstep
import SlotAsm.Proofs.Runs
import SlotAsm.Proofs.Sequence

/-!
Programs that fill their slots before they read them. The opening of a program is what stands before
its first instruction other than a store. When the opening stores into every slot that the program
reads, and every label that it branches to is declared, no instruction fails. The invariant is
`Machine.Underway`: no error is kept, and the slots of the part of the opening that stands before
the place of execution are filled. A branch stands behind the whole opening, so it may also go back
into it.
-/

namespace SlotAsm

open Text (lines)
open Grammar (Declares)

/-! ## What instructions read and store -/

namespace Instruction

/-- The slots that an instruction reads, or reads and writes: those that are named first and second
in any operation but a store. -/
def slotsRead (given : Instruction) : List Slot :=
  if given.operation = .str then []
  else [Operand.slot1, Operand.slot2].filterMap fun operand =>
    (given.token? operand.position).bind Slot.ofName?

/-- The slot that a store writes. -/
def slotStored? (given : Instruction) : Option Slot :=
  if given.operation = .str then (given.token? Operand.slot.position).bind Slot.ofName? else none

theorem slotStored?_eq_some {given : Instruction} {slot : Slot} (isStore : given.operation = .str)
    (named : given.slotOf .slot = .ok slot) : given.slotStored? = some slot := by
  rw [slotStored?, if_pos isStore]
  unfold slotOf at named
  split at named
  · cases named
  · next found =>
    cases named
    exact found

end Instruction

namespace Program

/-- The slots that the instructions of a program read. -/
def slotsRead (program : Program) : List Slot :=
  program.instructions.flatMap Instruction.slotsRead

/-- The stores that stand before every other instruction. -/
def opening (program : Program) : List Instruction :=
  program.instructions.takeWhile (·.operation = .str)

/-- The slots that stores at the front of the opening write, as many stores as there are before the
given index. -/
def slotsFilled (program : Program) (index : Nat) : List Slot :=
  (program.opening.take index).filterMap Instruction.slotStored?

/-- The opening fills every slot that is read, and every label that is branched to is declared. -/
structure Initialised (program : Program) : Prop where
  slots : ∀ slot ∈ program.slotsRead, slot ∈ program.opening.filterMap Instruction.slotStored?
  labels : ∀ label ∈ program.branchLabels, program.labels.get? label ≠ none

variable {program : Program} {index : Nat} {given : Instruction}

theorem opening_getElem? (inside : index < program.opening.length)
    (stands : program.get? index = some given) : program.opening[index]? = some given := by
  have front := List.takeWhile_prefix (fun given : Instruction => decide (given.operation = .str))
    (l := program.instructions)
  rw [get?, List.prefix_iff_getElem?.mp front index inside] at stands
  rw [← stands]
  exact List.getElem?_eq_getElem inside

theorem operation_of_mem_opening (member : given ∈ program.opening) : given.operation = .str := by
  simpa using List.mem_takeWhile_imp member

theorem slotsFilled_succ (stands : program.opening[index]? = some given) :
    program.slotsFilled (index + 1) = program.slotsFilled index ++ given.slotStored?.toList := by
  rw [slotsFilled, List.take_add_one, List.filterMap_append, stands]
  cases stored : given.slotStored? <;> simp [slotsFilled, stored]

/-- From the end of the opening on, all its slots are filled. -/
theorem slotsFilled_of_length_le (beyond : program.opening.length ≤ index) :
    program.slotsFilled index = program.opening.filterMap Instruction.slotStored? := by
  rw [slotsFilled, List.take_of_length_le beyond]

theorem slotsFilled_subset (program : Program) (index : Nat) :
    program.slotsFilled index ⊆ program.opening.filterMap Instruction.slotStored? :=
  List.filterMap_subset _ (List.take_subset index program.opening)

end Program

/-- An effect empties no slot. -/
theorem Effect.get_apply_ne_none {effect : Effect} {store : Store} {slot : Slot}
    (filled : store.get slot ≠ none) : (effect.apply store).get slot ≠ none := by
  unfold apply
  split
  · exact filled
  · next target value _ =>
    rw [Store.get_set]
    split
    · exact Option.some_ne_none value
    · exact filled

/-! ## Instructions that do not fail -/

namespace Action

/-- The slots that an action reads. -/
def slotsRead : Action Value → List Slot
  | .add source target => [source, target]
  | .sub source target => [source, target]
  | .store _ _ => []
  | .branch left right _ _ => [left, right]

theorem Decodes.slotsRead_eq {labels : LabelTable} {given : Instruction} {action : Action Value}
    (decodes : Decodes Value.ofText? labels given action) : given.slotsRead = action.slotsRead := by
  cases decodes with
  | add named named' =>
    simp [Instruction.slotsRead, Instruction.token?, Operand.position, slotsRead, named, named']
  | sub named named' =>
    simp [Instruction.slotsRead, Instruction.token?, Operand.position, slotsRead, named, named']
  | str => rfl
  | bne named named' =>
    simp [Instruction.slotsRead, Instruction.token?, Operand.position, slotsRead, named, named']

end Action

/-- An action succeeds when the slots that it reads are filled and a branch has a target. -/
theorem Decoded.exists_effect {store : Store} {action : Action Value}
    (filled : ∀ slot ∈ action.slotsRead, store.get slot ≠ none)
    (targeted : ∀ left right label target, action = .branch left right label target →
      target ≠ none) (pc : Nat) :
    ∃ effect, Decoded.effect store pc action = .ok effect := by
  have held : ∀ slot ∈ action.slotsRead, ∃ value, store.get slot = some value :=
    fun slot read => Option.ne_none_iff_exists'.mp (filled slot read)
  cases action with
  | add source target =>
    rcases held source (.head _) with ⟨addend, first⟩
    rcases held target (.tail _ (.head _)) with ⟨value, second⟩
    simp only [Decoded.effect, first, second]
    exact ⟨_, rfl⟩
  | sub source target =>
    rcases held source (.head _) with ⟨subtrahend, first⟩
    rcases held target (.tail _ (.head _)) with ⟨value, second⟩
    simp only [Decoded.effect, first, second]
    exact ⟨_, rfl⟩
  | store value target => exact ⟨_, rfl⟩
  | branch left right label target =>
    rcases held left (.head _) with ⟨x, first⟩
    rcases held right (.tail _ (.head _)) with ⟨y, second⟩
    rcases Option.ne_none_iff_exists'.mp (targeted _ _ _ _ rfl) with ⟨index, third⟩
    simp only [Decoded.effect, first, second, third]
    exact ⟨_, rfl⟩

namespace Program.Initialised

variable {program : Program} {given : Instruction} {store : Store} {pc : Nat}

/-- An instruction of an initialised program succeeds once the whole opening has been executed. -/
theorem exists_effect (initialised : program.Initialised) (wellFormed : program.WellFormed)
    (member : given ∈ program.instructions)
    (filled : ∀ slot ∈ given.slotsRead, store.get slot ≠ none) (pc : Nat) :
    ∃ effect, given.effect program store pc = .ok effect := by
  obtain ⟨action, decodes⟩ := wellFormed.exists_decodes member
  rw [decodes.effect_eq wellFormed]
  rw [decodes.slotsRead_eq] at filled
  refine Decoded.exists_effect filled (fun left right label target branch => ?_) pc
  subst branch
  cases decodes with
  | bne =>
    exact initialised.labels label (List.mem_filterMap.mpr ⟨_, member, rfl⟩)

end Program.Initialised

/-! ## Execution -/

namespace Machine

/-- A machine that executes a program without an error so far. The slots of the part of the opening
before the next instruction are filled. -/
inductive Underway (program : Program) : Machine → Prop
  | intro {store : Store} {pc : Nat} :
    (∀ slot ∈ program.slotsFilled pc, store.get slot ≠ none) →
    Underway program (loaded ⟨program, store, pc, none⟩)

namespace Underway

variable {program : Program} {machine : Machine}

theorem ofProgram (program : Program) : Underway program (ofProgram program) :=
  .intro nofun

/-- An instruction of the opening fills its slot and goes on to the next one. -/
theorem filled_of_opening {store : Store} {pc : Nat} {given : Instruction} {effect : Effect}
    (filled : ∀ slot ∈ program.slotsFilled pc, store.get slot ≠ none)
    (stands : program.opening[pc]? = some given)
    (succeeded : given.effect program store pc = .ok effect) :
    ∀ slot ∈ program.slotsFilled effect.next, (effect.apply store).get slot ≠ none := by
  have isStore := Program.operation_of_mem_opening (List.mem_of_getElem? stands)
  cases Instruction.effect_eq_ok_iff.mp succeeded with
  | add operation => cases isStore.symm.trans operation
  | sub operation => cases isStore.symm.trans operation
  | bne operation => cases isStore.symm.trans operation
  | @str target number _ _ named =>
    intro slot member
    rw [Program.slotsFilled_succ stands, Instruction.slotStored?_eq_some isStore named,
      List.mem_append, Option.mem_toList] at member
    rcases member with earlier | here
    · exact Effect.get_apply_ne_none (filled slot earlier)
    · cases here
      rw [Effect.apply, Store.get_set_self]
      exact Option.some_ne_none number

/-- Behind the opening all its slots are filled, so an instruction may go on anywhere. -/
theorem filled_of_beyond {store : Store} {pc : Nat} {effect : Effect}
    (filled : ∀ slot ∈ program.slotsFilled pc, store.get slot ≠ none)
    (beyond : program.opening.length ≤ pc) :
    ∀ slot ∈ program.slotsFilled effect.next, (effect.apply store).get slot ≠ none := by
  intro slot member
  apply Effect.get_apply_ne_none
  apply filled slot
  rw [Program.slotsFilled_of_length_le beyond]
  exact Program.slotsFilled_subset program effect.next member

/-- The slots that an instruction reads are filled when it is executed: in the opening it reads
none, and behind it they all are. -/
theorem filled_of_read {store : Store} {pc : Nat} {given : Instruction}
    (initialised : program.Initialised)
    (filled : ∀ slot ∈ program.slotsFilled pc, store.get slot ≠ none)
    (stands : program.get? pc = some given) :
    ∀ slot ∈ given.slotsRead, store.get slot ≠ none := by
  intro slot read
  rcases Nat.lt_or_ge pc program.opening.length with inside | beyond
  · have opens := Program.opening_getElem? inside stands
    have isStore := Program.operation_of_mem_opening (List.mem_of_getElem? opens)
    rw [Instruction.slotsRead, if_pos isStore] at read
    cases read
  · apply filled slot
    rw [Program.slotsFilled_of_length_le beyond]
    exact initialised.slots slot (List.mem_flatMap.mpr ⟨given, List.mem_of_getElem? stands, read⟩)

/-- A machine under way has come to the end of its program, or its next instruction succeeds and it
stays under way. -/
theorem step (underway : Underway program machine) (initialised : program.Initialised)
    (wellFormed : program.WellFormed) :
    (machine.status = .complete ∧ machine.step = (.error .finished, machine)) ∨
      (machine.step.1 = .ok () ∧ Underway program machine.step.2) := by
  cases underway with
  | @intro store pc filled =>
    cases stands : program.get? pc with
    | none =>
      have ended : Session.current? ⟨program, store, pc, none⟩ = none := stands
      exact .inl ⟨status_eq_complete_iff.mpr (List.getElem?_eq_none_iff.mp stands),
        step_finished ended⟩
    | some given =>
      have current : Session.current? ⟨program, store, pc, none⟩ = some given := stands
      obtain ⟨effect, succeeded⟩ := initialised.exists_effect wellFormed
        (List.mem_of_getElem? stands) (filled_of_read initialised filled stands) pc
      rw [step_executed current succeeded]
      refine .inr ⟨rfl, .intro ?_⟩
      rcases Nat.lt_or_ge pc program.opening.length with inside | beyond
      · exact filled_of_opening filled (Program.opening_getElem? inside stands) succeeded
      · exact filled_of_beyond filled beyond

theorem afterSteps (underway : Underway program machine) (initialised : program.Initialised)
    (wellFormed : program.WellFormed) (n : Nat) : Underway program (machine.afterSteps n) := by
  refine afterSteps_induction (fun machine underway => ?_) underway n
  rcases underway.step initialised wellFormed with ⟨-, stays⟩ | ⟨-, underway⟩
  · rwa [stays]
  · exact underway

theorem status_ne_halted (underway : Underway program machine) : machine.status ≠ .halted := by
  cases underway with
  | intro filled =>
    intro halted
    cases (status_eq_halted_iff.mp halted).2

/-- A run from a machine under way does not end with an error. -/
theorem returns (underway : Underway program machine) (initialised : program.Initialised)
    (wellFormed : program.WellFormed) {result : Except StepError Unit} {final : Machine}
    (returns : machine.Returns result final) : result = .ok () := by
  rcases returns_iff.mp returns with ⟨n, reached, ran, ends⟩
  cases ends with
  | complete => rfl
  | failed running failed =>
    have later := underway.afterSteps initialised wellFormed n
    rw [afterSteps_eq_of_after ran] at later
    rcases later.step initialised wellFormed with ⟨complete, -⟩ | ⟨succeeded, -⟩
    · exact absurd complete running
    · rw [succeeded] at failed
      cases failed

end Underway

end Machine

/-- The labels of a program that was read from a text are declared by lines of the text. -/
theorem Program.get?_ne_none_iff_of_parse {text : String} {program : Program}
    (parsed : parse text = .ok program) {name : String} :
    program.labels.get? name ≠ none ↔ ∃ line ∈ lines text.toList, Declares line name.toList := by
  rw [Ne, Program.get?_eq_none_iff_of_parse parsed]
  simp

open Machine in
/-- A program never fails when it starts with stores into every slot that it reads and declares
every label that it branches to. However many steps it makes, it is not halted, the next step
succeeds unless the program has come to its end, and a run that ends does so without an error. -/
theorem parse_initialised_never_fails {text : String} {program : Program}
    (parsed : parse text = .ok program)
    (initialised : ∀ slot ∈ program.slotsRead,
      slot ∈ program.opening.filterMap Instruction.slotStored?)
    (declared : ∀ label ∈ program.branchLabels,
      ∃ line ∈ lines text.toList, Declares line label.toList) (n : Nat) :
    let machine := (ofProgram program).afterSteps n
    (∀ error, machine.step.1 = .error error → error = .finished) ∧ machine.status ≠ .halted ∧
      ∀ result final, machine.Returns result final → result = .ok () := by
  have wellFormed := Program.wellFormed_of_parse parsed
  have initialised : program.Initialised :=
    ⟨initialised, fun label member =>
      (Program.get?_ne_none_iff_of_parse parsed).mpr (declared label member)⟩
  have underway := (Underway.ofProgram program).afterSteps initialised wellFormed n
  refine ⟨fun error failed => ?_, underway.status_ne_halted,
    fun result final => underway.returns initialised wellFormed⟩
  rcases underway.step initialised wellFormed with ⟨-, finished⟩ | ⟨succeeded, -⟩
  · rw [finished] at failed
    cases failed
    rfl
  · rw [succeeded] at failed
    cases failed

/-- A source whose branch goes back into its opening. -/
def refill : String :=
  "STR 3 A\n> again\nSTR 1 B\nSUB B A\nBNE A B again\nADD A B\n"

/-- What `refill` is read as. -/
def refillProgram : Program where
  instructions := [⟨.str, ["3", "A"]⟩, ⟨.str, ["1", "B"]⟩, ⟨.sub, ["B", "A"]⟩,
    ⟨.bne, ["A", "B", "again"]⟩, ⟨.add, ["A", "B"]⟩]
  labels := (∅ : LabelTable).insert "again" 1

/-- The program stores into one of its slots again at each round, and comes to its end. -/
theorem parse_initialised_never_fails_refill :
    parse refill = .ok refillProgram ∧
    ((Machine.ofProgram refillProgram).afterSteps 4).pc = 1 ∧
    ((Machine.ofProgram refillProgram).afterSteps 8).status = .complete ∧
    ((Machine.ofProgram refillProgram).afterSteps 8).step.1 = .error .finished ∧
    ∀ n, ((Machine.ofProgram refillProgram).afterSteps n).status ≠ .halted := by
  have parsed : parse refill = .ok refillProgram := by decide +kernel
  have declared : ∀ label ∈ refillProgram.branchLabels,
      ∃ line ∈ lines refill.toList, Declares line label.toList := fun label member =>
    (Program.get?_ne_none_iff_of_parse parsed).mp (by revert label; decide)
  have never := parse_initialised_never_fails parsed (by decide) declared
  exact ⟨parsed, rfl, rfl, rfl, fun n => (never n).2.1⟩

end SlotAsm
