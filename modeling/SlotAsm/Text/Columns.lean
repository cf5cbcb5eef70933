import SlotAsm.Text.Clusters

/-!
How many terminal columns a line takes. `Measure` is a way to tell, and `Measure.Documented` says
what the drawing of a table relies on. In a measure that is `styled` a colour sequence, which begins
with the escape character and `[` and ends with `m`, gives back one column for each drawn character
after the escape character, however wide that character is. `Measure.terminal` measures a line as
terminals draw it, and `Measure.byCharacter` adds up the columns of its characters.
-/

namespace SlotAsm.Text

/-- The character that begins a colour sequence. -/
def escape : Char := '\x1b'

/-- Whether a character controls the terminal in place of being drawn. -/
def isControl (c : Char) : Bool :=
  c.toNat < 0x20 || (0x7F ≤ c.toNat && c.toNat < 0xA0)

/-- Whether a character standing alone is drawn: it controls nothing and takes a column. -/
def isDrawn (c : Char) : Bool :=
  !isControl c && 0 < codePointColumns c.toNat

/-- Where a reader of a line stands with respect to colour sequences. -/
inductive ColourState
  /-- Outside a colour sequence. -/
  | plain
  /-- Directly after an escape character that can begin one. -/
  | escaped
  /-- Inside a colour sequence. -/
  | sequence
  deriving DecidableEq, Repr

/-- The columns that the rest of a line gives back for a reader in the given state. -/
def hiddenFrom : ColourState → List Char → Nat
  | _, [] => 0
  | .plain, c :: rest => hiddenFrom (if c = escape then .escaped else .plain) rest
  | .escaped, c :: rest => if c = '[' then 1 + hiddenFrom .sequence rest else hiddenFrom .plain rest
  | .sequence, c :: rest =>
    (if isDrawn c then 1 else 0) + hiddenFrom (if c = 'm' then .plain else .sequence) rest

/-- The columns that the colour sequences of a line give back. -/
def hidden (line : List Char) : Nat :=
  hiddenFrom .plain line

/-- Without an escape character there is no colour sequence. -/
theorem hidden_eq_zero {line : List Char} (h : escape ∉ line) : hidden line = 0 := by
  induction line with
  | nil => rfl
  | cons c line ih =>
    have notEscape : c ≠ escape := fun e => h (by simp [e])
    have rest : hidden line = 0 := ih fun e => h (by simp [e])
    simpa [hidden, hiddenFrom, notEscape] using rest

/-- The characters that tables are drawn with, besides blanks. -/
def frame : List Char :=
  ['─', '│', '┼', '┴']

/-- A way to measure lines. -/
structure Measure where
  /-- Whether a line has a width. -/
  isMeasurable : List Char → Bool
  /-- The columns that a measurable line takes. -/
  width : List Char → Nat

namespace Measure

/-- What a measure is documented to do with lines that hold no escape character. They have a width.
The characters that tables are drawn with take one column each, and a blank takes one column between
what stands on its sides. -/
structure Documented (measure : Measure) : Prop where
  isMeasurable : ∀ {line}, escape ∉ line → measure.isMeasurable line = true
  frame : ∀ {line}, (∀ c ∈ line, c ∈ frame) → measure.width line = line.length
  blank : ∀ {text rest}, escape ∉ text → escape ∉ rest →
    measure.width (text ++ ' ' :: rest) = measure.width text + 1 + measure.width rest

/-- Measures lines of coloured text by the columns of the text. A line has a width if its colour
sequences give back no more columns than its text takes. It can fail to have one when characters
inside a sequence are joined, since together they take less room than each of them gives back. -/
def styled (columns : List Char → Nat) : Measure where
  isMeasurable line := hidden line ≤ columns line
  width line := columns line - hidden line

/-- Counts characters that are drawn as one as one. -/
def terminal : Measure :=
  styled clusterColumns

/-- Counts each character by itself. -/
def byCharacter (columns : Char → Nat) : Measure :=
  styled fun text => text.foldr (fun c total => columns c + total) 0

/-- A line without an escape character is as wide as its text. -/
theorem width_styled {columns : List Char → Nat} {line : List Char} (plain : escape ∉ line) :
    (styled columns).width line = columns line := by
  show columns line - hidden line = columns line
  rw [hidden_eq_zero plain, Nat.sub_zero]

/-- A line without an escape character has a width. -/
theorem isMeasurable_styled {columns : List Char → Nat} {line : List Char}
    (plain : escape ∉ line) : (styled columns).isMeasurable line = true := by
  simp [styled, hidden_eq_zero plain]

end Measure

end SlotAsm.Text
