import Mathlib.Algebra.Group.Int.Defs
import SlotAsm.Text.Blank
import SlotAsm.Text.Lines

/-!
The grammar of source texts, in terms of characters. The code of a line, which is all that stands
before its first `#`, has one of three forms: nothing but blanks; a `>` and a label; or a mnemonic
and the words that it takes, with blanks between them. Blanks may surround the code. `Code` gives
the forms, and `Source` requires one of them of every line. The grammar says nothing about how a
text is read.
-/

namespace SlotAsm.Grammar

open SlotAsm.Text (isBlank)

/-- A run of blanks, which may be empty. -/
def Blanks (chars : List Char) : Prop :=
  ∀ c ∈ chars, isBlank c = true

/-- One or more characters that are not blank. -/
def Word (chars : List Char) : Prop :=
  chars ≠ [] ∧ ∀ c ∈ chars, isBlank c = false

/-- The letter of a slot. -/
inductive SlotWord : List Char → Prop
  | letter {c : Char} : c ∈ ['A', 'B', 'C', 'D', 'E', 'F', 'G', 'H', 'I', 'J'] → SlotWord [c]

/-- The decimal digits in the order of what they count. -/
def decimalDigits : List Char :=
  ['0', '1', '2', '3', '4', '5', '6', '7', '8', '9']

/-- One or more decimal digits and the number that they denote; the last digit is the lowest. -/
inductive Digits : List Char → Nat → Prop
  | single {c : Char} {k : Nat} : decimalDigits[k]? = some c → Digits [c] k
  | snoc {chars : List Char} {c : Char} {n k : Nat} :
      Digits chars n → decimalDigits[k]? = some c → Digits (chars ++ [c]) (10 * n + k)

/-- An integer with its optional sign. -/
inductive Integer : List Char → Int → Prop
  | unsigned {chars : List Char} {n : Nat} : Digits chars n → Integer chars n
  | plus {chars : List Char} {n : Nat} : Digits chars n → Integer ('+' :: chars) n
  | minus {chars : List Char} {n : Nat} : Digits chars n → Integer ('-' :: chars) (-n)

/-- An integer that fits into 64 bits with sign. -/
def NumberWord (chars : List Char) : Prop :=
  ∃ n : Int, Integer chars n ∧ -2 ^ 63 ≤ n ∧ n ≤ 2 ^ 63 - 1

/-- A label that is declared; it may be empty. -/
def LabelName (chars : List Char) : Prop :=
  ∀ c ∈ chars, isBlank c = false ∧ c ≠ '>'

/-- A label that a branch names. -/
def LabelWord (chars : List Char) : Prop :=
  Word chars ∧ '>' ∉ chars

/-- Words, each with blanks in front of it. -/
inductive Spaced : List (List Char) → List Char → Prop
  | nil : Spaced [] []
  | cons {gap word rest : List Char} {words : List (List Char)} :
      gap ≠ [] → Blanks gap → Word word → Spaced words rest →
      Spaced (word :: words) (gap ++ word ++ rest)

/-- A mnemonic and the words that it takes. -/
inductive Phrase : List Char → List (List Char) → Prop
  | add {first second : List Char} :
      SlotWord first → SlotWord second → Phrase ['A', 'D', 'D'] [first, second]
  | sub {first second : List Char} :
      SlotWord first → SlotWord second → Phrase ['S', 'U', 'B'] [first, second]
  | str {number slot : List Char} :
      NumberWord number → SlotWord slot → Phrase ['S', 'T', 'R'] [number, slot]
  | bne {first second label : List Char} :
      SlotWord first → SlotWord second → LabelWord label →
      Phrase ['B', 'N', 'E'] [first, second, label]

/-- The code of a line. -/
inductive Code : List Char → Prop
  | blank {chars : List Char} : Blanks chars → Code chars
  | declaration {before between name after : List Char} :
      Blanks before → Blanks between → LabelName name → Blanks after →
      Code (before ++ '>' :: between ++ name ++ after)
  | instruction {before mnemonic rest after : List Char} {words : List (List Char)} :
      Blanks before → Phrase mnemonic words → Spaced words rest → Blanks after →
      Code (before ++ mnemonic ++ rest ++ after)

/-- A line: code, and possibly a comment after it. -/
def Line (line : List Char) : Prop :=
  Code (line.takeWhile (· ≠ '#'))

/-- A source text: every line is one of the grammar. -/
def Source (text : List Char) : Prop :=
  ∀ line ∈ SlotAsm.Text.lines text, Line line

end SlotAsm.Grammar
