import SlotAsm.Proofs.Failures
import SlotAsm.Proofs.Lockstep

/-!
Which operand an instruction fails for. Nothing is checked before an instruction is executed, so its
tokens may be too few or too many, and several of them may be bad. `Operand.Accepts` says when a
token is good for an operand, and `Operand.Refuses` what is wrong otherwise. Operands are read in
the order of their tokens (`Instruction.map_effect_eq_forM`), so an instruction succeeds when all of
them are good and otherwise fails for the first that is not (`Instruction.effect_leftmost`).
-/

namespace SlotAsm

/-! ## Reading one operand after another -/

section Except

variable {ε α : Type} {error : ε}

theorem map_unit_eq_ok_iff {result : Except ε α} :
    (result.map fun _ => ()) = .ok () ↔ ∃ value, result = .ok value := by
  cases result with
  | error cause => exact iff_of_false nofun nofun
  | ok value => exact iff_of_true rfl ⟨value, rfl⟩

theorem map_unit_eq_error_iff {result : Except ε α} :
    (result.map fun _ => ()) = .error error ↔ result = .error error := by
  cases result with
  | error cause => exact ⟨fun same => by cases same; rfl, fun same => by cases same; rfl⟩
  | ok value => exact iff_of_false nofun nofun

variable {f : α → Except ε Unit} {xs : List α}

/-- Checks that are made one after another succeed when all of them do. -/
theorem forM_eq_ok_iff : xs.forM f = .ok () ↔ ∀ x ∈ xs, f x = .ok () := by
  induction xs with
  | nil => exact iff_of_true rfl nofun
  | cons x xs ih =>
    have first : (x :: xs).forM f = f x >>= fun _ => xs.forM f := rfl
    rw [first, bind_eq_ok_iff, List.forall_mem_cons]
    simp only [ih, Unique.exists_iff, PUnit.default_eq_unit]

/-- Checks that are made one after another fail with the first of them that does. -/
theorem forM_eq_error_iff :
    xs.forM f = .error error ↔
      ∃ (place : Nat) (x : α), xs[place]? = some x ∧
        (∀ earlier < place, ∀ y, xs[earlier]? = some y → f y = .ok ()) ∧ f x = .error error := by
  induction xs with
  | nil => exact iff_of_false nofun nofun
  | cons x xs ih =>
    have first : (x :: xs).forM f = f x >>= fun _ => xs.forM f := rfl
    rw [first, bind_eq_error_iff]
    constructor
    · intro failed
      rcases failed with here | ⟨_, passed, later⟩
      · exact ⟨0, x, rfl, nofun, here⟩
      · obtain ⟨place, y, stands, before, failed⟩ := ih.mp later
        refine ⟨place + 1, y, stands, fun earlier below z listed => ?_, failed⟩
        cases earlier with
        | zero =>
          cases listed
          exact passed
        | succ earlier => exact before earlier (Nat.lt_of_succ_lt_succ below) z listed
    · intro failed
      rcases failed with ⟨place, y, stands, before, failed⟩
      cases place with
      | zero =>
        cases stands
        exact .inl failed
      | succ place =>
        have passed := before 0 (Nat.zero_lt_succ place) x rfl
        refine .inr ⟨(), passed, ih.mpr ⟨place, y, stands, ?_, failed⟩⟩
        intro earlier below z listed
        exact before (earlier + 1) (Nat.succ_lt_succ below) z listed

end Except

/-! ## Good and bad tokens -/

/-- A token is good for an operand: a number in range, a slot, which must hold a value if the
operand is read, or a label that is declared and not beyond the end of the program. -/
def Operand.Accepts (program : Program) (store : Store) (operand : Operand) (token : String) :
    Prop :=
  match operand with
  | .slot1 | .slot2 =>
    ∃ (slot : Slot) (value : Value), token = slot.name ∧ store.get slot = some value
  | .number => Grammar.NumberWord token.toList
  | .slot => ∃ slot : Slot, token = slot.name
  | .label => ∃ index ≤ program.length, program.labels.get? token = some index

/-- What is wrong with an operand whose token is missing or not good. -/
inductive Operand.Refuses (operation : Operation) (program : Program) (store : Store) :
    Operand → Option String → StepError → Prop
  | missing (operand : Operand) :
      Refuses operation program store operand none (.malformedOperand operation operand "")
  | notANumber {token : String} :
      ¬ Grammar.NumberWord token.toList →
      Refuses operation program store .number (some token)
        (.malformedOperand operation .number token)
  | notASlot {operand : Operand} {token : String} :
      operand.kind = .slot → (∀ slot : Slot, token ≠ slot.name) →
      Refuses operation program store operand (some token)
        (.malformedOperand operation operand token)
  | emptySlot {operand : Operand} {slot : Slot} :
      operand = .slot1 ∨ operand = .slot2 → store.get slot = none →
      Refuses operation program store operand (some slot.name) (.emptySlot operand slot)
  | undefinedLabel {token : String} :
      (∀ index ≤ program.length, program.labels.get? token ≠ some index) →
      Refuses operation program store .label (some token) (.undefinedLabel token)

namespace Instruction

variable {given : Instruction} {program : Program} {store : Store} {operand : Operand}
  {error : StepError}

/-! ## What the readers of operands give -/

/-- What is read of an operand, but not the value that is read. -/
def readOperand (given : Instruction) (program : Program) (store : Store) (operand : Operand) :
    Except StepError Unit :=
  match operand with
  | .slot1 | .slot2 => (given.occupied store operand).map fun _ => ()
  | .number => (given.numberOf operand).map fun _ => ()
  | .slot => (given.slotOf operand).map fun _ => ()
  | .label => (given.targetOf program operand).map fun _ => ()

/-- An instruction succeeds or fails as the reading of its operands does, one after another. -/
theorem map_effect_eq_forM (given : Instruction) (program : Program) (store : Store) (pc : Nat) :
    ((given.effect program store pc).map fun _ => ()) =
      given.operation.operands.forM (given.readOperand program store) := by
  unfold effect
  cases given.operation with
  | add | sub =>
    show _ = given.readOperand program store .slot1 >>= fun _ =>
      given.readOperand program store .slot2 >>= fun _ => pure ()
    unfold readOperand
    cases given.occupied store .slot1 <;> cases given.occupied store .slot2 <;> rfl
  | str =>
    show _ = given.readOperand program store .number >>= fun _ =>
      given.readOperand program store .slot >>= fun _ => pure ()
    unfold readOperand
    cases given.numberOf .number <;> cases given.slotOf .slot <;> rfl
  | bne =>
    show _ = given.readOperand program store .slot1 >>= fun _ =>
      given.readOperand program store .slot2 >>= fun _ =>
        given.readOperand program store .label >>= fun _ => pure ()
    unfold readOperand
    cases given.occupied store .slot1 <;> cases given.occupied store .slot2 <;>
      cases given.targetOf program .label <;> rfl

theorem bind_ofName?_eq {token? : Option String} {slot : Slot} (given : token? = some slot.name) :
    token?.bind Slot.ofName? = some slot := by
  rw [given, Option.bind_some, Slot.ofName?_name]

theorem readOperand_of_accepts {token : String}
    (stands : given.token? operand.position = some token)
    (accepts : operand.Accepts program store token) :
    given.readOperand program store operand = .ok () := by
  cases operand with
  | slot1 | slot2 =>
    obtain ⟨slot, value, rfl, held⟩ := accepts
    rw [readOperand, occupied_eq given store _ (bind_ofName?_eq stands), held]
    rfl
  | number =>
    obtain ⟨value, read⟩ := checkNumber_eq_ok_iff_ofText?.mp (checkNumber_eq_ok_iff.mpr accepts)
    have denotes : (given.token? Operand.number.position).bind Value.ofText? = some value := by
      rw [stands, Option.bind_some, read]
    rw [readOperand, numberOf_eq given .number denotes]
    rfl
  | slot =>
    obtain ⟨slot, rfl⟩ := accepts
    rw [readOperand, slotOf_eq given .slot (bind_ofName?_eq stands)]
    rfl
  | label =>
    obtain ⟨index, within, declared⟩ := accepts
    have found : program.target? token = some index := by
      rw [Program.target?, declared]
      simpa using within
    rw [readOperand, targetOf_eq given program .label stands, found]
    rfl

theorem readOperand_of_bind_eq_none (isSlot : operand.kind = .slot)
    (unnamed : (given.token? operand.position).bind Slot.ofName? = none) :
    given.readOperand program store operand = .error (given.malformed operand) := by
  have failed : given.slotOf operand = .error (given.malformed operand) := by rw [slotOf, unnamed]
  cases operand with
  | slot1 | slot2 =>
    simp only [readOperand, occupied, failed]
    rfl
  | slot =>
    rw [readOperand, failed]
    rfl
  | number | label => cases isSlot

theorem readOperand_of_refuses
    (refuses :
      operand.Refuses given.operation program store (given.token? operand.position) error) :
    given.readOperand program store operand = .error error := by
  generalize stands : given.token? operand.position = token? at refuses
  have malformed : given.malformed operand =
      .malformedOperand given.operation operand (token?.getD "") := by
    rw [Instruction.malformed, stands]
  cases refuses with
  | missing =>
    rw [Option.getD_none] at malformed
    rw [← malformed]
    cases operand with
    | slot1 | slot2 | slot => exact readOperand_of_bind_eq_none rfl (by rw [stands]; rfl)
    | number =>
      rw [readOperand, numberOf, stands]
      rfl
    | label =>
      rw [readOperand, targetOf, stands]
      rfl
  | @notANumber token notNumber =>
    have unread : Value.ofText? token = none := by
      refine Option.eq_none_iff_forall_ne_some.mpr fun value read => notNumber ?_
      exact checkNumber_eq_ok_iff.mp (checkNumber_eq_ok_iff_ofText?.mpr ⟨value, read⟩)
    rw [Option.getD_some] at malformed
    rw [← malformed, readOperand, numberOf, stands, Option.bind_some, unread]
    rfl
  | @notASlot _ token isSlot unnamed =>
    have none : Slot.ofName? token = none :=
      Option.eq_none_iff_forall_ne_some.mpr fun slot named =>
        unnamed slot (Slot.ofName?_eq_some_iff.mp named)
    rw [Option.getD_some] at malformed
    rw [← malformed]
    exact readOperand_of_bind_eq_none isSlot (by rw [stands, Option.bind_some, none])
  | @emptySlot _ slot read empty =>
    have reads := occupied_eq given store operand (bind_ofName?_eq stands)
    rw [empty] at reads
    rcases read with rfl | rfl
    · rw [readOperand, reads]
      rfl
    · rw [readOperand, reads]
      rfl
  | @undefinedLabel token undeclared =>
    have missed : program.target? token = none := by
      refine Option.filter_eq_none_iff.mpr fun index declared => ?_
      simpa using fun within => undeclared index within declared
    rw [readOperand, targetOf_eq given program .label stands, missed]
    rfl

end Instruction

/-- A token is good for an operand or there is something wrong with it. -/
theorem Operand.accepts_or_refuses (operation : Operation) (program : Program) (store : Store)
    (operand : Operand) (token? : Option String) :
    (∃ token, token? = some token ∧ operand.Accepts program store token) ∨
      ∃ error, operand.Refuses operation program store token? error := by
  cases token? with
  | none => exact .inr ⟨_, .missing operand⟩
  | some token =>
    by_cases accepts : operand.Accepts program store token
    · exact .inl ⟨token, rfl, accepts⟩
    refine .inr ?_
    cases operand with
    | number => exact ⟨_, .notANumber accepts⟩
    | label =>
      exact ⟨_, .undefinedLabel fun index within declared => accepts ⟨index, within, declared⟩⟩
    | slot => exact ⟨_, .notASlot rfl fun slot named => accepts ⟨slot, named⟩⟩
    | slot1 | slot2 =>
      by_cases named : ∃ slot : Slot, token = slot.name
      · obtain ⟨slot, rfl⟩ := named
        cases held : store.get slot with
        | none => exact ⟨_, .emptySlot (by decide) held⟩
        | some value => exact absurd ⟨slot, value, rfl, held⟩ accepts
      · exact ⟨_, .notASlot rfl fun slot same => named ⟨slot, same⟩⟩

namespace Instruction

variable {given : Instruction} {program : Program} {store : Store} {operand : Operand}
  {error : StepError}

theorem readOperand_eq_ok_iff :
    given.readOperand program store operand = .ok () ↔
      ∃ token, given.token? operand.position = some token ∧
        operand.Accepts program store token := by
  refine ⟨fun succeeded => ?_, fun accepted => ?_⟩
  · rcases operand.accepts_or_refuses given.operation program store
      (given.token? operand.position) with accepted | ⟨error, refuses⟩
    · exact accepted
    · rw [readOperand_of_refuses refuses] at succeeded
      cases succeeded
  · obtain ⟨token, stands, accepts⟩ := accepted
    exact readOperand_of_accepts stands accepts

theorem readOperand_eq_error_iff :
    given.readOperand program store operand = .error error ↔
      operand.Refuses given.operation program store (given.token? operand.position) error := by
  refine ⟨fun failed => ?_, readOperand_of_refuses⟩
  rcases operand.accepts_or_refuses given.operation program store
    (given.token? operand.position) with ⟨token, stands, accepts⟩ | ⟨cause, refuses⟩
  · rw [readOperand_of_accepts stands accepts] at failed
    cases failed
  · rw [readOperand_of_refuses refuses] at failed
    cases failed
    exact refuses

/-- An instruction fails for something that is wrong with one of its operands. -/
theorem exists_refuses {pc : Nat} (failed : given.effect program store pc = .error error) :
    ∃ operand : Operand,
      operand.Refuses given.operation program store (given.token? operand.position) error := by
  rw [← map_unit_eq_error_iff, map_effect_eq_forM, forM_eq_error_iff] at failed
  obtain ⟨_, operand, -, -, failed⟩ := failed
  exact ⟨operand, readOperand_eq_error_iff.mp failed⟩

/-! ## The first bad operand -/

/-- The token at a position is good for the operand that has this position, if there is one. -/
def GoodAt (given : Instruction) (program : Program) (store : Store) (position : Nat) : Prop :=
  ∀ operand, given.operation.operands[position]? = some operand →
    ∃ token, given.tokens[position]? = some token ∧ operand.Accepts program store token

end Instruction

/-- An operand has the position at which it stands among the operands of an operation. -/
theorem Operation.position_eq {operation : Operation} {position : Nat} {operand : Operand}
    (stands : operation.operands[position]? = some operand) : operand.position = position := by
  have nodup : operation.operands.Nodup := by cases operation <;> decide
  have there := operands_getElem?_position (List.mem_of_getElem? stands)
  have below := (List.getElem?_eq_some_iff.mp there).1
  exact (List.getElem?_inj below nodup).mp (there.trans stands.symm)

namespace Instruction

variable {given other : Instruction} {program : Program} {store : Store} {error : StepError}

theorem goodAt_iff {position : Nat} :
    given.GoodAt program store position ↔
      ∀ operand, given.operation.operands[position]? = some operand →
        given.readOperand program store operand = .ok () := by
  refine forall₂_congr fun operand stands => ?_
  rw [readOperand_eq_ok_iff, Operation.position_eq stands]
  rfl

/-- Only the tokens of an instruction's operands matter. -/
theorem effect_congr (operation : given.operation = other.operation)
    (tokens : ∀ operand ∈ given.operation.operands,
      given.token? operand.position = other.token? operand.position) (pc : Nat) :
    given.effect program store pc = other.effect program store pc := by
  unfold effect
  rw [← operation]
  cases shape : given.operation with
  | add | sub =>
    rw [shape] at tokens
    have first := tokens .slot1 (by decide)
    have second := tokens .slot2 (by decide)
    simp only [occupied, slotOf, malformed, first, second, operation]
  | str =>
    rw [shape] at tokens
    have first := tokens .number (by decide)
    have second := tokens .slot (by decide)
    simp only [numberOf, slotOf, malformed, first, second, operation]
  | bne =>
    rw [shape] at tokens
    have first := tokens .slot1 (by decide)
    have second := tokens .slot2 (by decide)
    have third := tokens .label (by decide)
    simp only [occupied, slotOf, targetOf, malformed, first, second, third, operation]

/-- An instruction with any tokens succeeds when the token of each of its operands is good, and
otherwise fails for the first operand whose token is not. Further tokens do not matter. -/
theorem effect_leftmost (given : Instruction) (program : Program) (store : Store) (pc : Nat) :
    ((∃ effect, given.effect program store pc = .ok effect) ↔
      ∀ position, given.GoodAt program store position) ∧
    (∀ error, given.effect program store pc = .error error ↔
      ∃ position operand, given.operation.operands[position]? = some operand ∧
        (∀ earlier < position, given.GoodAt program store earlier) ∧
        operand.Refuses given.operation program store given.tokens[position]? error) ∧
    { given with tokens := given.tokens.take given.operation.arity }.effect program store pc =
      given.effect program store pc := by
  have read := given.map_effect_eq_forM program store pc
  refine ⟨?_, fun error => ?_, ?_⟩
  · simp only [← map_unit_eq_ok_iff, read, forM_eq_ok_iff, goodAt_iff, List.mem_iff_getElem?]
    exact ⟨fun each position operand stands => each operand ⟨position, stands⟩,
      fun each operand listed => listed.elim fun position => each position operand⟩
  · rw [← map_unit_eq_error_iff, read, forM_eq_error_iff]
    refine exists_congr fun position => exists_congr fun operand => ?_
    refine and_congr_right fun stands => and_congr ?_ ?_
    · exact forall₂_congr fun earlier below => goodAt_iff.symm
    · rw [readOperand_eq_error_iff, Operation.position_eq stands]
      rfl
  · refine effect_congr ?_ (fun operand member => ?_) pc
    · rfl
    · have stands := Operation.operands_getElem?_position member
      exact List.getElem?_take_of_lt (List.getElem?_eq_some_iff.mp stands).1

/-- A branch that misses a value and a declaration. -/
def twoFaults : Instruction :=
  ⟨.bne, ["A", "B", "nowhere", "more"]⟩

/-- The branch fails for its second slot, which is empty, and not for its label or for the token
that follows it. -/
theorem effect_leftmost_twoFaults :
    twoFaults.effect ∅ (Store.empty.set .a 1) 7 = .error (.emptySlot .slot2 .b) ∧
    ¬ ∃ effect, twoFaults.effect ∅ (Store.empty.set .a 1) 7 = .ok effect := by
  obtain ⟨-, fails, -⟩ := effect_leftmost twoFaults ∅ (Store.empty.set .a 1) 7
  have first : twoFaults.GoodAt ∅ (Store.empty.set .a 1) 0 := by
    intro operand stands
    cases stands
    exact ⟨"A", rfl, .a, 1, rfl, rfl⟩
  have failed : twoFaults.effect ∅ (Store.empty.set .a 1) 7 = .error (.emptySlot .slot2 .b) := by
    have empty : Operand.slot2.Refuses .bne ∅ (Store.empty.set .a 1) (some Slot.b.name)
        (.emptySlot .slot2 .b) := .emptySlot (.inr rfl) rfl
    refine (fails _).mpr ⟨1, .slot2, rfl, fun earlier below => ?_, empty⟩
    rw [Nat.lt_one_iff.mp below]
    exact first
  refine ⟨failed, fun succeeded => ?_⟩
  obtain ⟨effect, succeeded⟩ := succeeded
  rw [failed] at succeeded
  cases succeeded

end Instruction

end SlotAsm
