import SlotAsm.Proofs.Lockstep

/-!
The numbers that instructions store. A token is checked when a line is read, and read again when the
instruction is executed: the check looks for a literal first and then whether it is in range, and
the reading takes one digit after another. The two accept the same tokens, those of an integer of
the grammar that is in range, and what is stored is that integer
(`checkNumber_agrees_with_execution`).
-/

namespace SlotAsm

open Grammar (Integer)

/-! ## Storing a number -/

/-- What the execution of a `STR` does: it stores the value of its token, or it fails for the token
when that has none. -/
theorem Machine.step_str {session : Session} {token : String} {slot : Slot}
    (current : session.current? = some ⟨.str, [token, slot.name]⟩) :
    (loaded session).step =
      match Value.ofText? token with
      | none => (.error (.malformedOperand .str .number token),
          loaded { session with error := some (.malformedOperand .str .number token) })
      | some value => (.ok (),
          loaded { session with
            store := session.store.set slot value, pc := session.pc + 1, error := none }) := by
  cases read : Value.ofText? token with
  | none =>
    refine step_failed current ?_
    have unread : Instruction.numberOf ⟨.str, [token, slot.name]⟩ .number =
        .error (.malformedOperand .str .number token) := by
      simp [Instruction.numberOf, Instruction.token?, Operand.position, read,
        Instruction.malformed]
    simp only [Instruction.effect, unread]
    rfl
  | some value =>
    have number : Instruction.numberOf ⟨.str, [token, slot.name]⟩ .number = .ok value :=
      Instruction.numberOf_eq _ .number read
    have target : Instruction.slotOf ⟨.str, [token, slot.name]⟩ .slot = .ok slot :=
      Instruction.slotOf_eq _ .slot (Slot.ofName?_name slot)
    exact step_executed current (Instruction.effect_eq_ok_iff.mpr (.str rfl number target))

/-- A number that passes its check is the same when it is executed. The tokens that pass are the
ones that have a value, whether the range is looked at in the end or at each digit, and they are the
literals of integers in range; `STR` stores that integer and fails for any other token. A token that
does not pass is refused as a literal out of range or, when it is no literal at all, as no number.
-/
theorem checkNumber_agrees_with_execution (token : String) :
    (checkNumber token = .ok () ↔ ∃ value, Value.ofText? token = some value) ∧
    (Value.ofText? token =
      (Literal.ofChars? token.toList).bind fun literal => Value.ofInt? literal.toInt) ∧
    (checkNumber token = .ok () ↔
      ∃ n : Int, Integer token.toList n ∧ -2 ^ 63 ≤ n ∧ n ≤ 2 ^ 63 - 1) ∧
    (∀ n : Int, Integer token.toList n → -2 ^ 63 ≤ n → n ≤ 2 ^ 63 - 1 →
      ∃ value : Value, value.toInt = n ∧ ∀ (session : Session) (slot : Slot),
        session.current? = some ⟨.str, [token, slot.name]⟩ →
        (Machine.loaded session).step = (.ok (), .loaded { session with
          store := session.store.set slot value, pc := session.pc + 1, error := none })) ∧
    (∀ (session : Session) (slot : Slot), session.current? = some ⟨.str, [token, slot.name]⟩ →
      ((Machine.loaded session).step.1 = .ok () ↔ checkNumber token = .ok ())) ∧
    ∀ cause, checkNumber token = .error cause ↔
      (cause = .notANumber token ∧ ∀ n : Int, ¬ Integer token.toList n) ∨
        (cause = .outOfRange token ∧
          ∃ n : Int, Integer token.toList n ∧ ¬ (-2 ^ 63 ≤ n ∧ n ≤ 2 ^ 63 - 1)) := by
  refine ⟨checkNumber_eq_ok_iff_ofText?, Value.ofText?_eq token, checkNumber_eq_ok_iff,
    fun n derived lower upper => ?_, fun session slot current => ?_,
    fun cause => checkNumber_eq_error_iff⟩
  · have read : Value.ofText? token = some (Int64.ofInt n) :=
      ofText?_eq_some_iff.mpr ⟨n, derived, ⟨lower, upper⟩, rfl⟩
    refine ⟨Int64.ofInt n, Int64.toInt_ofInt_of_le lower (by omega), fun session slot current => ?_⟩
    rw [Machine.step_str current, read]
  · rw [Machine.step_str current, checkNumber_eq_ok_iff_ofText?]
    cases Value.ofText? token <;> simp

/-- The smallest value is stored whatever zeros stand in front of it. The next smaller integer is
out of range, and two signs make no number. -/
theorem checkNumber_agrees_with_execution_least :
    Integer "-0009223372036854775808".toList (-2 ^ 63) ∧
    (∃ value : Value, value.toInt = -2 ^ 63 ∧
      (Machine.ofProgram ⟨[⟨.str, ["-0009223372036854775808", "J"]⟩], ∅⟩).step =
        (.ok (), .loaded ⟨⟨[⟨.str, ["-0009223372036854775808", "J"]⟩], ∅⟩,
          Store.empty.set .j value, 1, none⟩)) ∧
    checkNumber "-9223372036854775809" = .error (.outOfRange "-9223372036854775809") ∧
    checkNumber "+-1" = .error (.notANumber "+-1") := by
  have derived : Integer "-0009223372036854775808".toList (-2 ^ 63) :=
    integer_iff.mpr ⟨_, rfl, by decide⟩
  have below : Integer "-9223372036854775809".toList (-9223372036854775809) :=
    integer_iff.mpr ⟨_, rfl, by decide⟩
  obtain ⟨-, -, -, stored, -⟩ := checkNumber_agrees_with_execution "-0009223372036854775808"
  obtain ⟨value, least, step⟩ := stored _ derived (by decide) (by decide)
  obtain ⟨-, -, -, -, -, refused⟩ := checkNumber_agrees_with_execution "-9223372036854775809"
  obtain ⟨-, -, -, -, -, refused'⟩ := checkNumber_agrees_with_execution "+-1"
  refine ⟨derived, ⟨value, least, step _ .j rfl⟩, ?_, ?_⟩
  · exact (refused _).mpr (.inr ⟨rfl, _, below, by decide⟩)
  · refine (refused' _).mpr (.inl ⟨rfl, fun n derived => ?_⟩)
    obtain ⟨literal, read, -⟩ := integer_iff.mp derived
    cases read

end SlotAsm
