import SlotAsm.Operation
import SlotAsm.Slot
import SlotAsm.Text.Blank
import SlotAsm.Value

/-!
Tokens and what can be wrong with one. A token is the text of an operand, or the name in a label
declaration. `OperandKind.check` tells whether a token can stand for a kind of operand, and
otherwise what is wrong with it; whether a slot holds a value or a label is declared is no matter
here.
-/

namespace SlotAsm

/-- The character that starts a comment. -/
def commentMark : Char := '#'

/-- The character that starts a label declaration. -/
def labelMark : Char := '>'

/-- What is wrong with a token. -/
inductive TokenError
  /-- The token is not a literal. -/
  | notANumber (token : String)
  /-- The token is a literal for a number that is not a value. -/
  | outOfRange (token : String)
  /-- The token is not the letter of a slot. -/
  | notASlot (token : String)
  /-- The label holds a character that no label may hold; the first one is given. -/
  | reservedCharacter (label : String) (reserved : Char)
  deriving DecidableEq, Repr

/-- The text that reports what is wrong with a token. -/
def TokenError.message : TokenError → String
  | notANumber token => s!"`{token}` is not an integer."
  | outOfRange token => s!"`{token}` is outside the range {Value.least} to {Value.greatest}."
  | notASlot token => s!"`{token}` is not a slot. Slots are the single letters A through J."
  | reservedCharacter label reserved =>
    if Text.isBlank reserved then s!"label `{label}` may not contain whitespace."
    else s!"label `{label}` may not contain `{reserved}`."

/-- Whether a character may not stand in a label: blanks and the two marks. -/
def isReserved (c : Char) : Bool :=
  Text.isBlank c || c == commentMark || c == labelMark

/-- Checks the token of a number: it has to be a literal, and its value has to be read without
leaving the range. -/
def checkNumber (token : String) : Except TokenError Unit :=
  match Literal.ofChars? token.toList with
  | none => .error (.notANumber token)
  | some _ =>
    match Value.ofText? token with
    | none => .error (.outOfRange token)
    | some _ => .ok ()

/-- Checks the token of a slot. -/
def checkSlot (token : String) : Except TokenError Unit :=
  match Slot.ofName? token with
  | none => .error (.notASlot token)
  | some _ => .ok ()

/-- Checks a label. The empty label is allowed. -/
def checkLabel (token : String) : Except TokenError Unit :=
  match token.toList.find? isReserved with
  | some reserved => .error (.reservedCharacter token reserved)
  | none => .ok ()

/-- Checks a token for a kind of operand. -/
def OperandKind.check : OperandKind → String → Except TokenError Unit
  | number => checkNumber
  | slot => checkSlot
  | label => checkLabel

end SlotAsm
