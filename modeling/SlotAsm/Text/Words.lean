import SlotAsm.Text.Blank

/-!
Words: the maximal runs of characters of a line that are not blank. `trim` removes the blanks
around a line, `words` lists the runs of any line, and `tokens?` reads a line as one word after
another with blanks between them, refusing a line that begins or ends with a blank.
-/

namespace SlotAsm.Text

/-- A character that can be part of a word. -/
def inWord (c : Char) : Bool := !isBlank c

/-- A line without the blanks at its two ends. -/
def trim (line : List Char) : List Char :=
  ((line.dropWhile isBlank).reverse.dropWhile isBlank).reverse

/-- The words of a line, in order, whatever blanks surround them. -/
def words : List Char → List (List Char)
  | [] => []
  | c :: rest =>
    if isBlank c then
      words rest
    else if rest.head?.all isBlank then
      [c] :: words rest
    else
      match words rest with
      | [] => [[c]]
      | word :: others => (c :: word) :: others

/-- What follows the first word and the blanks after it is shorter than the whole, when there is
a first word. -/
theorem length_afterBlanks_lt {line : List Char} (h : line.takeWhile inWord ≠ []) :
    ((line.dropWhile inWord).dropWhile isBlank).length < line.length := by
  have whole := congrArg List.length (List.takeWhile_append_dropWhile (p := inWord) (l := line))
  have blanks := (List.dropWhile_suffix (l := line.dropWhile inWord) isBlank).length_le
  have word := List.length_pos_iff.mpr h
  simp only [List.length_append] at whole
  omega

/-- Reads a word and then, where blanks follow, the words after them. There is no reading when a
blank, or nothing, stands where a word should begin. -/
def tokensFrom? (line : List Char) : Option (List (List Char)) :=
  if line.takeWhile inWord = [] then
    none
  else if line.dropWhile inWord = [] then
    some [line]
  else
    (tokensFrom? ((line.dropWhile inWord).dropWhile isBlank)).map (line.takeWhile inWord :: ·)
termination_by line.length
decreasing_by exact length_afterBlanks_lt (by assumption)

/-- The words of a line that neither begins nor ends with a blank; an empty line has none. -/
def tokens? (line : List Char) : Option (List (List Char)) :=
  if line = [] then some [] else tokensFrom? line

@[simp] theorem trim_nil : trim [] = [] := rfl

@[simp] theorem words_nil : words [] = [] := rfl

@[simp] theorem tokens?_nil : tokens? [] = some [] := rfl

/-- A blank in front of a line changes none of its words. -/
theorem words_cons_blank {c : Char} (h : isBlank c = true) (rest : List Char) :
    words (c :: rest) = words rest := by
  simp [words, h]

end SlotAsm.Text
