/-!
The values that slots hold and the decimal literals that denote them. A value is a signed 64-bit
number whose arithmetic wraps around. A literal is an optional sign and one or more ASCII digits, so
`+007` is one; it denotes an integer of any size. `Value.ofText?` reads a value from its literal and
never leaves the range of the values on the way: it reads one digit after another and gives up as
soon as a result is out of range.
-/

namespace SlotAsm

/-- What a slot holds: a signed 64-bit number. -/
abbrev Value := Int64

/-- A number as it is written: a sign and the decimal digits after it. -/
structure Literal where
  negative : Bool
  digits : List Char
  deriving DecidableEq, Repr

namespace Literal

/-- A literal with the given sign, if what follows the sign is one or more digits. -/
def ofDigits? (negative : Bool) (digits : List Char) : Option Literal :=
  if digits.isEmpty then none
  else if digits.all Char.isDigit then some ⟨negative, digits⟩
  else none

/-- Reads a literal: one sign at most, then digits to the end. -/
def ofChars? : List Char → Option Literal
  | '-' :: rest => ofDigits? true rest
  | '+' :: rest => ofDigits? false rest
  | rest => ofDigits? false rest

/-- The number that decimal digits denote, the first digit being the highest. -/
def magnitude (digits : List Char) : Nat :=
  digits.foldl (fun total digit => 10 * total + (digit.toNat - '0'.toNat)) 0

/-- The integer with the given sign and the given magnitude. -/
def signed (negative : Bool) (n : Nat) : Int :=
  if negative then -(n : Int) else n

/-- The integer that a literal denotes. -/
def toInt (literal : Literal) : Int :=
  signed literal.negative (magnitude literal.digits)

end Literal

namespace Value

/-- The smallest value. -/
def least : Int := -9223372036854775808

/-- The largest value. -/
def greatest : Int := 9223372036854775807

/-- The value that is equal to an integer, if the integer is in range. -/
def ofInt? (n : Int) : Option Value :=
  if least ≤ n ∧ n ≤ greatest then some (Int64.ofInt n) else none

/-- Puts a digit behind a number without leaving the range: there is no result when ten times the
number is out of range, or the number with the digit is. -/
def appendDigit? (negative : Bool) (number : Value) (digit : Char) : Option Value :=
  if digit.isDigit then
    (ofInt? (10 * number.toInt)).bind fun shifted =>
      ofInt? (shifted.toInt + Literal.signed negative (digit.toNat - '0'.toNat))
  else none

/-- Reads digits one after another. -/
def readDigits? (negative : Bool) (digits : List Char) : Option Value :=
  if digits.isEmpty then none else digits.foldlM (appendDigit? negative) 0

/-- Reads a literal one digit after another: one sign at most, then digits to the end. -/
def readSteps? : List Char → Option Value
  | '-' :: rest => readDigits? true rest
  | '+' :: rest => readDigits? false rest
  | rest => readDigits? false rest

/-- The value that a text denotes as a literal, if it is a literal and in range. -/
def ofText? (text : String) : Option Value :=
  readSteps? text.toList

/-- The shortest literal of a value: no plus sign and no leading zeros. -/
def text (value : Value) : String :=
  toString value.toInt

end Value

end SlotAsm
