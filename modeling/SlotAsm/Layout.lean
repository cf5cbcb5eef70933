import SlotAsm.Source

/-!
What is left of a source text when its layout is taken away: the words of each line, without
comments and without the lines that have no words. `wordsByLine` gives it, and `textLines` gives the
numbers of the lines that have words, so that lines of two texts can be compared by their place
among those.
-/

namespace SlotAsm

/-- The words of a line before its first comment mark. -/
def wordsOf (line : List Char) : List (List Char) :=
  Text.words (line.takeWhile (· != commentMark))

/-- The words of each line that has any. -/
def wordsByLine (text : String) : List (List (List Char)) :=
  ((Text.lines text.toList).map wordsOf).filter (· ≠ [])

/-- The numbers, counted from one, of the lines that have words. -/
def textLines (text : String) : List Nat :=
  ((Text.lines text.toList).zipIdx 1).filterMap fun (line, number) =>
    if wordsOf line = [] then none else some number

end SlotAsm
