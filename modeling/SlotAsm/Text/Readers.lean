import SlotAsm.Text.Blank

/-!
Words read by readers that are put together from smaller ones. A reader takes a value from the front
of a text and gives what is left of the text, or it fails. `Toolkit` is a choice of the four readers
that a reader of words needs, `Toolkit.Documented` says what each of them is documented to do, and
`Toolkit.words` is the reader of words: runs of characters that are not blank, with runs of blanks
between them, up to the end of the text. `Toolkit.plain` is a choice that does what is documented.
-/

namespace SlotAsm.Text

/-- Takes a value from the front of a text and gives what is left, or fails. -/
abbrev Reader (α : Type) := List Char → Option (α × List Char)

namespace Reader

variable {α β : Type}

/-- A reader that leaves less than it is given, when it does not fail. -/
def Consumes (reader : Reader α) : Prop :=
  ∀ text value rest, reader text = some (value, rest) → rest.length < text.length

/-- What is taken is the longest front of the text whose characters satisfy a condition, and it is
not empty. -/
def IsRun (condition : Char → Bool) (text taken rest : List Char) : Prop :=
  text = taken ++ rest ∧ taken ≠ [] ∧ (∀ c ∈ taken, condition c = true) ∧
    ∀ c ∈ rest.head?, condition c = false

/-- Separators and elements in turn, from a place directly after an element. They end before a
separator, or where there is none: a separator that no element follows is left in the text. -/
inductive Continued (separator : Reader β) (element : Reader α) :
    List Char → List α → List Char → Prop
  | noSeparator {text : List Char} :
      separator text = none → Continued separator element text [] text
  | noElement {text between : List Char} {gap : β} :
      separator text = some (gap, between) → element between = none →
      Continued separator element text [] text
  | more {text between rest final : List Char} {gap : β} {value : α} {values : List α} :
      separator text = some (gap, between) → element between = some (value, rest) →
      Continued separator element rest values final →
      Continued separator element text (value :: values) final

/-- Elements with separators between them, from the beginning of a text. Where no element stands
there are none, and nothing is taken. -/
inductive Listed (separator : Reader β) (element : Reader α) :
    List Char → List α → List Char → Prop
  | none {text : List Char} : element text = .none → Listed separator element text [] text
  | some {text rest final : List Char} {value : α} {values : List α} :
      element text = .some (value, rest) → Continued separator element rest values final →
      Listed separator element text (value :: values) final

end Reader

open Reader

/-- The readers of which a reader of words is put together. -/
structure Toolkit where
  /-- Takes characters as long as they satisfy a condition, at least one. -/
  takeWhile : (Char → Bool) → Reader (List Char)
  /-- Takes characters until one satisfies a condition, at least one. -/
  takeTill : (Char → Bool) → Reader (List Char)
  /-- Takes elements with separators between them. -/
  separated : Reader (List Char) → Reader (List Char) → Reader (List (List Char))
  /-- Fails where another reader leaves something. -/
  entire : Reader (List (List Char)) → Reader (List (List Char))

namespace Toolkit

/-- The words of a text without blanks at its ends. -/
def words (kit : Toolkit) : Reader (List (List Char)) :=
  kit.entire (kit.separated (kit.takeWhile isBlank) (kit.takeTill isBlank))

/-- What each of the readers is documented to do. Separators and elements have to consume something,
since otherwise there would be no end to them. -/
structure Documented (kit : Toolkit) : Prop where
  takeWhile : ∀ condition text taken rest,
    kit.takeWhile condition text = some (taken, rest) ↔ IsRun condition text taken rest
  takeTill : ∀ condition text taken rest,
    kit.takeTill condition text = some (taken, rest) ↔ IsRun (!condition ·) text taken rest
  separated : ∀ separator element, separator.Consumes → element.Consumes →
    ∀ text values rest, kit.separated separator element text = some (values, rest) ↔
      Listed separator element text values rest
  entire : ∀ reader text values rest,
    kit.entire reader text = some (values, rest) ↔ reader text = some (values, rest) ∧ rest = []

/-! ## A choice of readers -/

/-- Takes characters as long as they satisfy a condition. -/
def run (condition : Char → Bool) (text : List Char) : Option (List Char × List Char) :=
  if text.takeWhile condition = [] then none
  else some (text.takeWhile condition, text.dropWhile condition)

/-- Takes separators and elements in turn, and fails when one of them takes nothing. -/
def continueList (separator element : Reader (List Char)) (text : List Char) :
    Option (List (List Char) × List Char) :=
  match separator text with
  | none => some ([], text)
  | some (_, between) =>
    if between.length < text.length then
      match element between with
      | none => some ([], text)
      | some (value, rest) =>
        if rest.length < between.length then
          (continueList separator element rest).map fun (values, final) => (value :: values, final)
        else none
    else none
termination_by text.length
decreasing_by omega

/-- Takes elements with separators between them, and fails when one of them takes nothing. -/
def startList (separator element : Reader (List Char)) (text : List Char) :
    Option (List (List Char) × List Char) :=
  match element text with
  | none => some ([], text)
  | some (value, rest) =>
    if rest.length < text.length then
      (continueList separator element rest).map fun (values, final) => (value :: values, final)
    else none

/-- Readers that do what is documented. -/
def plain : Toolkit where
  takeWhile := run
  takeTill condition := run (!condition ·)
  separated := startList
  entire reader text := (reader text).filter fun (_, rest) => rest = []

end Toolkit

end SlotAsm.Text
