import SlotAsm.Proofs.Lockstep
import SlotAsm.Proofs.RoundTrip
import SlotAsm.Proofs.SideBySide
import SlotAsm.Unbounded

/-!
The machine with 64-bit values beside the machine with integers of any size. An action has
congruent effects on values and on the integers that they stand for (`Unbounded.effect_alike`): sums
and differences keep congruence modulo `2 ^ 64`, and that is all a branch looks at. So the two
machines stay in step for any number of steps, and it makes no difference whether a result wraps
around whenever it leaves the range or only once at the end (`Unbounded.parse_wraps_once`).
-/

namespace SlotAsm

/-! ## Values modulo `2 ^ 64` -/

namespace Value

theorem toInt_bounds (value : Value) : -2 ^ 63 ≤ value.toInt ∧ value.toInt ≤ 2 ^ 63 - 1 :=
  ⟨value.le_toInt, Int.le_sub_one_of_lt value.toInt_lt⟩

/-- In the range of the values, each remainder has one integer only. -/
theorem eq_toInt_iff {value : Value} {n k : Int} (congruent : value.toInt % 2 ^ 64 = n % 2 ^ 64) :
    (-2 ^ 63 ≤ k ∧ k ≤ 2 ^ 63 - 1) ∧ k % 2 ^ 64 = n % 2 ^ 64 ↔ k = value.toInt := by
  constructor
  · intro both
    rcases both with ⟨bounds, same⟩
    have within := value.toInt_bounds
    rw [← congruent] at same
    omega
  · rintro rfl
    exact ⟨value.toInt_bounds, congruent⟩

theorem eq_iff_emod_eq {value other : Value} :
    value = other ↔ value.toInt % 2 ^ 64 = other.toInt % 2 ^ 64 := by
  rw [← Int64.toInt_inj]
  have within := value.toInt_bounds
  have within' := other.toInt_bounds
  omega

theorem add_congruent {value other : Value} {n m : Int}
    (congruent : value.toInt % 2 ^ 64 = n % 2 ^ 64)
    (congruent' : other.toInt % 2 ^ 64 = m % 2 ^ 64) :
    (value + other).toInt % 2 ^ 64 = (n + m) % 2 ^ 64 := by
  have wrapped : (value + other).toInt % 2 ^ 64 = (value.toInt + other.toInt) % 2 ^ 64 := by
    rw [Int64.toInt_add]
    exact Int.bmod_emod
  rw [wrapped, Int.add_emod, congruent, congruent', ← Int.add_emod]

theorem sub_congruent {value other : Value} {n m : Int}
    (congruent : value.toInt % 2 ^ 64 = n % 2 ^ 64)
    (congruent' : other.toInt % 2 ^ 64 = m % 2 ^ 64) :
    (value - other).toInt % 2 ^ 64 = (n - m) % 2 ^ 64 := by
  have wrapped : (value - other).toInt % 2 ^ 64 = (value.toInt - other.toInt) % 2 ^ 64 := by
    rw [Int64.toInt_sub]
    exact Int.bmod_emod
  rw [wrapped, Int.sub_emod, congruent, congruent', ← Int.sub_emod]

end Value

namespace Unbounded

/-! ## Stores -/

section Represents

variable {values : SlotAsm.Store} {store : Store}

theorem represents_empty : Represents ∅ fun _ => none := by
  intro slot
  simp

/-- A slot is empty on both sides, or holds a value and an integer that are congruent. -/
theorem Represents.rel (represents : Represents values store) (slot : Slot) :
    Option.Rel (fun value n => value.toInt % 2 ^ 64 = n % 2 ^ 64) (values.get slot)
      (store slot) := by
  have here := represents slot
  split at here
  · next empty empty' =>
    rw [empty, empty']
    exact .none
  · next value n held held' =>
    rw [held, held']
    exact .some here
  · exact here.elim

theorem Represents.set (represents : Represents values store) {value : Value} {n : Int}
    (congruent : value.toInt % 2 ^ 64 = n % 2 ^ 64) (target : Slot) :
    Represents (values.set target value) (store.set target n) := by
  intro slot
  by_cases here : slot = target
  · subst here
    simpa [Store.set] using congruent
  · have kept : store.set target n slot = store slot := if_neg here
    rw [SlotAsm.Store.get_set_of_ne (Ne.symm here), kept]
    exact represents slot

end Represents

/-! ## Actions -/

/-- An action on values and an action on integers that differ only in congruent numbers. -/
inductive Congruent : Action Value → Action Int → Prop
  | add (source target : Slot) : Congruent (.add source target) (.add source target)
  | sub (source target : Slot) : Congruent (.sub source target) (.sub source target)
  | store {value : Value} {n : Int} (target : Slot) :
      value.toInt % 2 ^ 64 = n % 2 ^ 64 → Congruent (.store value target) (.store n target)
  | branch (left right : Slot) (label : String) (target : Option Nat) :
      Congruent (.branch left right label target) (.branch left right label target)

/-- A literal that denotes a value denotes the same integer without a bound. -/
theorem readLiteral?_eq_toInt {token : String} {value : Value}
    (read : Value.ofText? token = some value) : readLiteral? token = some value.toInt := by
  rw [Value.ofText?_eq] at read
  obtain ⟨literal, found, inRange⟩ := Option.bind_eq_some_iff.mp read
  obtain ⟨⟨lower, upper⟩, rfl⟩ := ofInt?_eq_some_iff.mp inRange
  rw [readLiteral?, found, Option.map_some, Int64.toInt_ofInt_of_le lower (by omega)]

/-- What one instruction is decoded to for values and for integers is congruent. -/
theorem Congruent.of_decodes {labels : LabelTable} {given : Instruction} {action : Action Value}
    {exact : Action Int} (decodes : Action.Decodes Value.ofText? labels given action)
    (decodes' : Action.Decodes readLiteral? labels given exact) : Congruent action exact := by
  cases decodes with
  | add first second =>
    cases decodes' with
    | add first' second' =>
      cases first.symm.trans first'
      cases second.symm.trans second'
      exact .add _ _
  | sub first second =>
    cases decodes' with
    | sub first' second' =>
      cases first.symm.trans first'
      cases second.symm.trans second'
      exact .sub _ _
  | str read named =>
    cases decodes' with
    | str read' named' =>
      cases (readLiteral?_eq_toInt read).symm.trans read'
      cases named.symm.trans named'
      exact .store _ rfl
  | bne first second =>
    cases decodes' with
    | bne first' second' =>
      cases first.symm.trans first'
      cases second.symm.trans second'
      exact .branch _ _ _ _

section Effects

variable {values : SlotAsm.Store} {store : Store} {pc : Nat}

theorem effect_add (source target : Slot) :
    effect store pc (.add source target) = readBoth store source target >>= fun held =>
      .ok (store.set target (held.2 + held.1), pc + 1) := by
  simp only [effect, readBoth]
  cases store source <;> cases store target <;> rfl

theorem effect_sub (source target : Slot) :
    effect store pc (.sub source target) = readBoth store source target >>= fun held =>
      .ok (store.set target (held.2 - held.1), pc + 1) := by
  simp only [effect, readBoth]
  cases store source <;> cases store target <;> rfl

theorem effect_branch (left right : Slot) (label : String) (target : Option Nat) :
    effect store pc (.branch left right label target) = readBoth store left right >>= fun held =>
      match target with
      | none => .error (.undefinedLabel label)
      | some index =>
        .ok (store, if held.1 % 2 ^ 64 = held.2 % 2 ^ 64 then pc + 1 else index) := by
  simp only [effect, readBoth]
  cases store left <;> cases store right <;> cases target <;> rfl

/-- An effect on values and one on integers that go on at the same index and leave stores that stand
for each other. -/
def Effects (values : SlotAsm.Store) (effect : Effect) (exact : Store × Nat) : Prop :=
  exact.2 = effect.next ∧ Represents (effect.apply values) exact.1

/-- Congruent actions go on at the same index and leave stores that stand for each other, or they
fail with the same error. -/
theorem effect_alike {action : Action Value} {exact : Action Int}
    (congruent : Congruent action exact) (represents : Represents values store) (pc : Nat) :
    Corresponds id (Effects values) (Decoded.effect values pc action) (effect store pc exact) := by
  cases congruent with
  | add source target =>
    rw [Decoded.effect_add, effect_add]
    refine (readBoth_corresponds represents.rel source target).bind fun held held' same => ?_
    exact .ok ⟨rfl, represents.set (Value.add_congruent same.2 same.1) target⟩
  | sub source target =>
    rw [Decoded.effect_sub, effect_sub]
    refine (readBoth_corresponds represents.rel source target).bind fun held held' same => ?_
    exact .ok ⟨rfl, represents.set (Value.sub_congruent same.2 same.1) target⟩
  | store target same => exact .ok ⟨rfl, represents.set same target⟩
  | branch left right label target =>
    rw [Decoded.effect_branch, effect_branch]
    refine (readBoth_corresponds represents.rel left right).bind fun held held' same => ?_
    have decides : held.1 = held.2 ↔ held'.1 % 2 ^ 64 = held'.2 % 2 ^ 64 := by
      rw [Value.eq_iff_emod_eq, same.1, same.2]
    cases target with
    | none => exact .error (.undefinedLabel label)
    | some index => exact .ok ⟨by simp only [decides], represents⟩

end Effects

/-! ## The two machines -/

/-- A machine that executes actions on values and one that executes those on integers, at the same
index with stores that stand for each other. -/
inductive Follows (actions : List (Action Value)) (exacts : List (Action Int)) :
    Decoded.Machine → Machine → Prop
  | intro {values : SlotAsm.Store} {store : Store} (pc : Nat) :
      Represents values store → Follows actions exacts ⟨actions, values, pc⟩ ⟨exacts, store, pc⟩

section Follows

variable {program : Program} {actions : List (Action Value)} {exacts : List (Action Int)}
  {typed : Decoded.Machine} {exact : Machine}

theorem Follows.pc_eq (follows : Follows actions exacts typed exact) : exact.pc = typed.pc := by
  cases follows
  rfl

theorem Follows.represents (follows : Follows actions exacts typed exact) :
    Represents typed.store exact.store := by
  cases follows with
  | intro pc represents => exact represents

/-- The two machines make the same step. -/
theorem Follows.step (follows : Follows actions exacts typed exact)
    (decoded : program.actions? Value.ofText? = some actions)
    (decoded' : program.actions? readLiteral? = some exacts) :
    exact.step.1 = typed.step.1 ∧ Follows actions exacts typed.step.2 exact.step.2 := by
  cases follows with
  | @intro values store pc represents =>
    rcases Program.getElem?_actions decoded pc with
      ⟨ended, noAction⟩ | ⟨given, action, current, stands, decodes⟩
    · rcases Program.getElem?_actions decoded' pc with
        ⟨-, noAction'⟩ | ⟨given, action, current, -⟩
      · simp only [Decoded.Machine.step, Machine.step, noAction, noAction']
        exact ⟨trivial, .intro pc represents⟩
      · cases ended.symm.trans current
    · rcases Program.getElem?_actions decoded' pc with
        ⟨ended, -⟩ | ⟨given', action', current', stands', decodes'⟩
      · cases ended.symm.trans current
      · cases current.symm.trans current'
        have alike := effect_alike (.of_decodes decodes decodes') represents pc
        simp only [Decoded.Machine.step, Machine.step, stands, stands']
        generalize Decoded.effect values pc action = outcome at alike ⊢
        generalize effect store pc action' = outcome' at alike ⊢
        cases alike with
        | @ok effect after both =>
          rcases after with ⟨store', next⟩
          rcases both with ⟨rfl, represents⟩
          exact ⟨rfl, .intro effect.next represents⟩
        | error error => exact ⟨rfl, .intro pc represents⟩

theorem Follows.afterSteps (follows : Follows actions exacts typed exact)
    (decoded : program.actions? Value.ofText? = some actions)
    (decoded' : program.actions? readLiteral? = some exacts) (n : Nat) :
    Follows actions exacts (typed.afterSteps n) (exact.afterSteps n) := by
  induction n generalizing typed exact with
  | zero => exact follows
  | succ n ih => exact ih (follows.step decoded decoded').2

end Follows

/-- A program that was read from a text is executed as it is on integers of any size: at the same
index, with the same results and with the same slots empty. What a slot holds is the one value that
is congruent modulo `2 ^ 64` to the integer there, however often sums and differences have left the
range of the values on the way. -/
theorem parse_wraps_once {text : String} {program : Program} (parsed : parse text = .ok program) :
    ∃ exacts, program.actions? readLiteral? = some exacts ∧ ∀ n,
      let raw := (SlotAsm.Machine.ofProgram program).afterSteps n
      let exact := (Machine.start exacts).afterSteps n
      raw.pc = exact.pc ∧ raw.step.1 = exact.step.1 ∧
        (∀ slot, raw.store.get slot = none ↔ exact.store slot = none) ∧
        ∀ slot value, raw.store.get slot = some value →
          ∃ integer, exact.store slot = some integer ∧
            ∀ k : Int, (-2 ^ 63 ≤ k ∧ k ≤ 2 ^ 63 - 1) ∧ k % 2 ^ 64 = integer % 2 ^ 64 ↔
              k = value.toInt := by
  have wellFormed := Program.wellFormed_of_parse parsed
  obtain ⟨actions, decoded⟩ :=
    wellFormed.exists_actions fun token => checkNumber_eq_ok_iff_ofText?.mp
  obtain ⟨exacts, decoded'⟩ : ∃ exacts, program.actions? readLiteral? = some exacts := by
    refine wellFormed.exists_actions fun token checked => ?_
    obtain ⟨value, read⟩ := checkNumber_eq_ok_iff_ofText?.mp checked
    exact ⟨value.toInt, readLiteral?_eq_toInt read⟩
  refine ⟨exacts, decoded', fun n => ?_⟩
  -- The text is executed in step with its actions on values, and these in step with the integers.
  have startsTyped : InStep program actions (.ofProgram program) (.start actions) :=
    .intro ∅ 0 none
  have startsExact : Follows actions exacts (.start actions) (.start exacts) :=
    .intro 0 represents_empty
  have inStep := startsTyped.afterSteps decoded wellFormed n
  have follows := startsExact.afterSteps decoded decoded' n
  have sameStep := (inStep.step decoded wellFormed).1.trans (follows.step decoded decoded').1.symm
  have represents := follows.represents
  rw [← inStep.store_eq] at represents
  refine ⟨inStep.pc_eq.trans follows.pc_eq.symm, sameStep, fun slot => ?_,
    fun slot value held => ?_⟩
  · exact (eq_none_iff_of_rel (represents.rel slot)).symm
  · have here := represents.rel slot
    rw [held] at here
    generalize stands : ((Machine.start exacts).afterSteps n).store slot = integer? at here
    cases here with
    | @some _ integer congruent => exact ⟨integer, rfl, fun k => Value.eq_toInt_iff congruent⟩

/-- A program that doubles the largest value twice, and compares the result with its remainder. -/
def overflowing : Program where
  instructions := [⟨.str, ["9223372036854775807", "A"]⟩, ⟨.add, ["A", "A"]⟩, ⟨.add, ["A", "A"]⟩,
    ⟨.str, ["-4", "B"]⟩, ⟨.bne, ["A", "B", "end"]⟩, ⟨.sub, ["B", "A"]⟩]
  labels := (∅ : LabelTable).insert "end" 6

theorem parse_overflowing : parse overflowing.text = .ok overflowing :=
  Program.WellFormed.parse_text ⟨by decide, by decide, by decide⟩

/-- The slot holds `-4` where the integer is `2 ^ 65 - 4`. The branch does not tell them apart, and
`0` stands for `2 ^ 65` at the end. -/
theorem parse_wraps_once_overflowing :
    parse overflowing.text = .ok overflowing ∧
    ∃ exacts, overflowing.actions? readLiteral? = some exacts ∧
      ((Machine.start exacts).afterSteps 4).store .a = some 36893488147419103228 ∧
      ((SlotAsm.Machine.ofProgram overflowing).afterSteps 4).store.get .a = some (-4) ∧
      ((Machine.start exacts).afterSteps 5).pc = 5 ∧
      ((Machine.start exacts).afterSteps 6).store .a = some 36893488147419103232 ∧
      ∀ k : Int,
        (-2 ^ 63 ≤ k ∧ k ≤ 2 ^ 63 - 1) ∧ k % 2 ^ 64 = 36893488147419103232 % 2 ^ 64 ↔ k = 0 := by
  obtain ⟨exacts, decoded, agree⟩ := parse_wraps_once parse_overflowing
  have listed : overflowing.actions? readLiteral? = some [.store 9223372036854775807 .a,
    .add .a .a, .add .a .a, .store (-4) .b, .branch .a .b "end" (some 6), .sub .b .a] := by decide
  cases decoded.symm.trans listed
  obtain ⟨place, -, -, -⟩ := agree 5
  obtain ⟨-, -, -, held⟩ := agree 6
  obtain ⟨integer, stands, unique⟩ := held .a 0 (by decide)
  have final : integer = 36893488147419103232 := Option.some.inj (stands.symm.trans (by decide))
  subst final
  exact ⟨parse_overflowing, _, decoded, by decide, by decide, place.symm.trans (by decide), stands,
    unique⟩

end Unbounded

end SlotAsm
