import Mathlib.Data.List.DropRight
import SlotAsm.Grammar
import SlotAsm.Text.Words

/-!
Trimmed lines and their words, against the runs of blanks and words of the grammar. A line is tight
when it has no blank at either end. `trim_append` and `exists_trim` say that `trim` finds the one
tight core that blanks surround, and `tokensFrom?_eq_some_iff` that the words of a line are the ones
that the grammar's `Spaced` lists after the first.
-/

namespace SlotAsm

namespace Grammar

open Text (isBlank)

/-! ## Runs of blanks and words -/

theorem blanks_nil : Blanks [] := fun _ member => absurd member List.not_mem_nil

theorem Blanks.append {chars others : List Char} (left : Blanks chars) (right : Blanks others) :
    Blanks (chars ++ others) := fun c member =>
  (List.mem_append.mp member).elim (left c) (right c)

/-- A line that begins with a word begins with no blank. -/
theorem Word.head?_append {word : List Char} (valid : Word word) (rest : List Char) :
    ∀ c ∈ (word ++ rest).head?, isBlank c = false := by
  intro c first
  obtain ⟨d, tail, rfl⟩ := List.exists_cons_of_ne_nil valid.1
  obtain rfl : d = c := by simpa using first
  exact valid.2 d List.mem_cons_self

theorem Word.inWord {word : List Char} (valid : Word word) : ∀ c ∈ word, Text.inWord c = true := by
  intro c member
  simp [Text.inWord, valid.2 c member]

/-- What stands after a word begins with a blank. -/
theorem Spaced.head?_isBlank {words : List (List Char)} {rest : List Char}
    (spaced : Spaced words rest) : ∀ c ∈ rest.head?, isBlank c = true := by
  intro c first
  cases spaced with
  | nil => cases first
  | @cons gap word rest words nonempty blanks =>
      obtain ⟨d, gap, rfl⟩ := List.exists_cons_of_ne_nil nonempty
      obtain rfl : d = c := by simpa using first
      exact blanks d List.mem_cons_self

theorem Spaced.head?_append_isBlank {words : List (List Char)} {rest after : List Char}
    (spaced : Spaced words rest) (trailing : Blanks after) :
    ∀ c ∈ (rest ++ after).head?, isBlank c = true := by
  intro c first
  cases shape : rest with
  | nil =>
      rw [shape] at first
      exact trailing c (List.mem_of_head? first)
  | cons d tail =>
      rw [shape] at first
      exact spaced.head?_isBlank c (by rwa [shape])

end Grammar

namespace Text

open Grammar (Blanks Word Spaced blanks_nil)

/-! ## Trimming -/

/-- A line that neither begins nor ends with a blank. -/
def Tight (line : List Char) : Prop :=
  (∀ c ∈ line.head?, isBlank c = false) ∧ ∀ c ∈ line.getLast?, isBlank c = false

theorem tight_nil : Tight [] := by
  simp [Tight]

/-- Nothing is dropped from the front of a line that begins with another character. -/
theorem dropWhile_eq_self {p : Char → Bool} {line : List Char}
    (first : ∀ c ∈ line.head?, p c = false) : line.dropWhile p = line := by
  cases line with
  | nil => rfl
  | cons c rest => simp [first c rfl]

/-- Dropping ends where another character stands. -/
theorem dropWhile_append_of_boundary {p : Char → Bool} {front tail : List Char}
    (inside : ∀ c ∈ front, p c = true) (boundary : ∀ c ∈ tail.head?, p c = false) :
    (front ++ tail).dropWhile p = tail := by
  rw [List.dropWhile_append_of_pos inside, dropWhile_eq_self boundary]

/-- Taking ends where another character stands. -/
theorem takeWhile_append_of_boundary {p : Char → Bool} {front tail : List Char}
    (inside : ∀ c ∈ front, p c = true) (boundary : ∀ c ∈ tail.head?, p c = false) :
    (front ++ tail).takeWhile p = front := by
  have whole := List.takeWhile_append_dropWhile (p := p) (l := front ++ tail)
  rw [dropWhile_append_of_boundary inside boundary] at whole
  exact List.append_cancel_right whole

/-- What is left after dropping begins with another character. -/
theorem head?_dropWhile (p : Char → Bool) (line : List Char) :
    ∀ c ∈ (line.dropWhile p).head?, p c = false := by
  intro c first
  have stopped := List.head?_dropWhile_not p line
  rw [Option.mem_def.mp first] at stopped
  simpa using stopped

/-- The blanks around a tight core are trimmed away and nothing else is. -/
theorem trim_append {before core after : List Char} (leading : Blanks before)
    (trailing : Blanks after) (tight : Tight core) : trim (before ++ core ++ after) = core := by
  have trailing' : ∀ c ∈ after.reverse, isBlank c = true := fun c member =>
    trailing c (List.mem_reverse.mp member)
  rw [trim, List.append_assoc, List.dropWhile_append_of_pos leading]
  cases core with
  | nil =>
      have none : after.dropWhile isBlank = [] := List.dropWhile_eq_nil_iff.mpr trailing
      simp [none]
  | cons first rest =>
      have kept : (first :: rest ++ after).dropWhile isBlank = first :: rest ++ after :=
        dropWhile_eq_self (by simpa using tight.1)
      have ended : (first :: rest).reverse.dropWhile isBlank = (first :: rest).reverse :=
        dropWhile_eq_self (by simpa only [List.head?_reverse] using tight.2)
      rw [kept, List.reverse_append, List.dropWhile_append_of_pos trailing', ended,
        List.reverse_reverse]

/-- The core of a line is tight and blanks surround it. -/
theorem exists_trim (line : List Char) :
    Tight (trim line) ∧ ∃ before after,
      Blanks before ∧ Blanks after ∧ line = before ++ trim line ++ after := by
  have core : trim line = (line.dropWhile isBlank).rdropWhile isBlank := rfl
  have split := List.rdropWhile_append_rtakeWhile (p := isBlank) (l := line.dropWhile isBlank)
  refine ⟨⟨?_, ?_⟩, line.takeWhile isBlank, (line.dropWhile isBlank).rtakeWhile isBlank,
    fun c => List.mem_takeWhile_imp, fun c => List.mem_rtakeWhile_imp, ?_⟩
  · intro c first
    apply head?_dropWhile isBlank line
    rw [core] at first
    rw [← split]
    cases shape : (line.dropWhile isBlank).rdropWhile isBlank with
    | nil => simp [shape] at first
    | cons d rest => simpa [shape] using first
  · intro c last
    apply head?_dropWhile isBlank (line.dropWhile isBlank).reverse
    rwa [trim, List.getLast?_reverse] at last
  · rw [List.append_assoc, core, split, List.takeWhile_append_dropWhile]

theorem trim_eq_nil_iff {line : List Char} : trim line = [] ↔ Blanks line := by
  constructor
  · intro empty
    obtain ⟨-, before, after, leading, trailing, whole⟩ := exists_trim line
    rw [empty, List.append_nil] at whole
    intro c member
    rw [whole] at member
    exact (List.mem_append.mp member).elim (leading c) (trailing c)
  · intro blanks
    simpa using trim_append blanks blanks_nil tight_nil

/-- A character that is not blank stays in front, and what follows it has the same core. -/
theorem exists_trim_append_cons {before : List Char} {c : Char} (leading : Blanks before)
    (solid : isBlank c = false) (rest : List Char) :
    ∃ tail, trim (before ++ c :: rest) = c :: tail ∧ trim tail = trim rest := by
  obtain ⟨tight, between, after, inner, trailing, whole⟩ := exists_trim rest
  by_cases empty : trim rest = []
  · -- Only blanks follow the character, and they are trimmed away.
    refine ⟨[], ?_, by rw [trim_nil, empty]⟩
    have single : Tight [c] := by simp [Tight, solid]
    simpa using trim_append leading (trim_eq_nil_iff.mp empty) single
  · refine ⟨between ++ trim rest, ?_, ?_⟩
    · have last : (c :: between ++ trim rest).getLast? = (trim rest).getLast? :=
        List.getLast?_append_of_ne_nil _ empty
      have longer : Tight (c :: between ++ trim rest) := ⟨by simp [solid], last ▸ tight.2⟩
      have core := trim_append leading trailing longer
      rw [List.cons_append, List.append_assoc, List.cons_append, ← whole] at core
      exact core
    · simpa using trim_append inner blanks_nil tight

/-! ## Words -/

/-- A line of spaced words is read as those words. -/
theorem tokensFrom?_append {word rest : List Char} {words : List (List Char)} (first : Word word)
    (others : Spaced words rest) : tokensFrom? (word ++ rest) = some (word :: words) := by
  induction others generalizing word with
  | nil =>
      rw [List.append_nil, tokensFrom?, List.takeWhile_eq_self_iff.mpr first.inWord,
        List.dropWhile_eq_nil_iff.mpr first.inWord, if_neg first.1, if_pos rfl]
  | @cons gap next rest words spaced blanks second others ih =>
      have boundary : ∀ c ∈ (gap ++ next ++ rest).head?, inWord c = false := by
        intro c member
        simp [inWord, (Spaced.cons spaced blanks second others).head?_isBlank c member]
      have taken : (word ++ (gap ++ next ++ rest)).takeWhile inWord = word :=
        takeWhile_append_of_boundary first.inWord boundary
      have dropped : (word ++ (gap ++ next ++ rest)).dropWhile inWord = gap ++ next ++ rest :=
        dropWhile_append_of_boundary first.inWord boundary
      have skipped : (gap ++ next ++ rest).dropWhile isBlank = next ++ rest := by
        rw [List.append_assoc]
        exact dropWhile_append_of_boundary blanks (second.head?_append rest)
      have more : gap ++ next ++ rest ≠ [] := by simp [spaced]
      rw [tokensFrom?, taken, dropped, skipped, if_neg first.1, if_neg more, ih second,
        Option.map_some]

/-- The characters up to the first blank are a word, if there are any. -/
theorem word_takeWhile {line : List Char} (nonempty : line.takeWhile inWord ≠ []) :
    Word (line.takeWhile inWord) := by
  refine ⟨nonempty, fun c member => ?_⟩
  simpa [inWord] using List.mem_takeWhile_imp member

/-- A line that is read as words is a line of those words. -/
theorem exists_spaced_of_tokensFrom? {line : List Char} {words : List (List Char)}
    (read : tokensFrom? line = some words) :
    ∃ word rest tail,
      words = word :: tail ∧ Word word ∧ Spaced tail rest ∧ line = word ++ rest := by
  induction line using tokensFrom?.induct generalizing words with
  | case1 line none =>
      rw [tokensFrom?, if_pos none] at read
      cases read
  | case2 line nonempty ended =>
      rw [tokensFrom?, if_neg nonempty, if_pos ended, Option.some.injEq] at read
      have whole : line.takeWhile inWord = line := by
        simpa [ended] using List.takeWhile_append_dropWhile (p := inWord) (l := line)
      subst read
      exact ⟨line, [], [], rfl, whole ▸ word_takeWhile nonempty, .nil, (List.append_nil line).symm⟩
  | case3 line nonempty more ih =>
      rw [tokensFrom?, if_neg nonempty, if_neg more, Option.map_eq_some_iff] at read
      obtain ⟨others, readOthers, rfl⟩ := read
      obtain ⟨next, rest, tail, rfl, second, spaced, remaining⟩ := ih readOthers
      -- The reader skips what is left of the blanks, so there is one of them to skip.
      let gap := (line.dropWhile inWord).takeWhile isBlank
      have gapNonempty : gap ≠ [] := by
        obtain ⟨c, behind, shape⟩ := List.exists_cons_of_ne_nil more
        have stops : inWord c = false := head?_dropWhile inWord line c (by simp [shape])
        have blank : isBlank c = true := by simpa [inWord] using stops
        simp [gap, shape, blank]
      have whole : line = line.takeWhile inWord ++ (gap ++ next ++ rest) := by
        rw [List.append_assoc, ← remaining, List.takeWhile_append_dropWhile,
          List.takeWhile_append_dropWhile]
      exact ⟨_, _, _, rfl, word_takeWhile nonempty,
        .cons gapNonempty (fun c => List.mem_takeWhile_imp) second spaced, whole⟩

/-- The words of a line are its first word and the words that the grammar finds after it. -/
theorem tokensFrom?_eq_some_iff {line : List Char} {words : List (List Char)} :
    tokensFrom? line = some words ↔
      ∃ word rest tail,
        words = word :: tail ∧ Word word ∧ Spaced tail rest ∧ line = word ++ rest := by
  constructor
  · exact exists_spaced_of_tokensFrom?
  · intro formed
    rcases formed with ⟨word, rest, tail, rfl, first, others, rfl⟩
    exact tokensFrom?_append first others

/-- A line of spaced words has no blank at either end. -/
theorem tight_append_of_spaced {word rest : List Char} {words : List (List Char)}
    (first : Word word) (others : Spaced words rest) : Tight (word ++ rest) := by
  refine ⟨first.head?_append rest, ?_⟩
  induction others generalizing word with
  | nil =>
      intro c last
      rw [List.append_nil] at last
      exact first.2 c (List.mem_of_getLast? last)
  | @cons gap next rest words _ _ second _ ih =>
      intro c last
      have nonempty : next ++ rest ≠ [] := by simp [second.1]
      rw [List.append_assoc gap, ← List.append_assoc word,
        List.getLast?_append_of_ne_nil _ nonempty] at last
      exact ih second c last

/-- The end of a line is that of what stands at its end. -/
theorem Tight.last_of_append {front back : List Char} (tight : Tight (front ++ back))
    (nonempty : back ≠ []) : ∀ c ∈ back.getLast?, isBlank c = false := by
  rw [← List.getLast?_append_of_ne_nil front nonempty]
  exact tight.2

/-- A line that has a blank at neither end, and is not empty, can be read as words. -/
theorem Tight.exists_tokensFrom? {line : List Char} (tight : Tight line) (nonempty : line ≠ []) :
    ∃ words, tokensFrom? line = some words := by
  induction line using tokensFrom?.induct with
  | case1 line none =>
      obtain ⟨c, rest, rfl⟩ := List.exists_cons_of_ne_nil nonempty
      have solid : inWord c = true := by simp [inWord, tight.1 c rfl]
      simp [solid] at none
  | case2 line word ended => exact ⟨[line], by rw [tokensFrom?, if_neg word, if_pos ended]⟩
  | case3 line word more ih =>
      have whole : line.takeWhile inWord ++ line.dropWhile inWord = line :=
        List.takeWhile_append_dropWhile
      have last := Tight.last_of_append (whole.symm ▸ tight) more
      -- Were there only blanks after the first word, the line would end with one of them.
      have further : (line.dropWhile inWord).dropWhile isBlank ≠ [] := by
        intro none
        have blank := List.dropWhile_eq_nil_iff.mp none _ (List.getLast_mem more)
        rw [last _ (List.getLast?_eq_some_getLast more)] at blank
        cases blank
      have skipped := List.takeWhile_append_dropWhile (p := isBlank) (l := line.dropWhile inWord)
      have tight' : Tight ((line.dropWhile inWord).dropWhile isBlank) := by
        refine ⟨head?_dropWhile isBlank _, ?_⟩
        rwa [← skipped, List.getLast?_append_of_ne_nil _ further] at last
      obtain ⟨words, read⟩ := ih tight' further
      exact ⟨line.takeWhile inWord :: words,
        by rw [tokensFrom?, if_neg word, if_neg more, read, Option.map_some]⟩

/-! ## The runs of any line -/

theorem words_blanks_append {gap : List Char} (blanks : Blanks gap) (rest : List Char) :
    words (gap ++ rest) = words rest := by
  induction gap with
  | nil => rfl
  | cons c gap ih =>
      obtain ⟨first, others⟩ := List.forall_mem_cons.mp blanks
      rw [List.cons_append, words_cons_blank first, ih others]

/-- A word that a blank or the end of the line follows is the first of the runs. -/
theorem words_word_append {word rest : List Char} (valid : Word word)
    (boundary : ∀ c ∈ rest.head?, isBlank c = true) :
    words (word ++ rest) = word :: words rest := by
  obtain ⟨c, tail, rfl⟩ := List.exists_cons_of_ne_nil valid.1
  obtain ⟨first, others⟩ := List.forall_mem_cons.mp valid.2
  induction tail generalizing c with
  | nil =>
      have ended : rest.head?.all isBlank = true := by
        cases shape : rest.head? with
        | none => rfl
        | some d => exact boundary d shape
      simp [words, first, ended]
  | cons d tail ih =>
      obtain ⟨second, -⟩ := List.forall_mem_cons.mp others
      have run := ih d ⟨List.cons_ne_nil _ _, others⟩ second fun e member =>
        others e (List.mem_cons_of_mem _ member)
      rw [List.cons_append] at run ⊢
      rw [List.cons_append, words, run]
      simp [first, second]

/-- Spaced words are the runs of a line, whatever blanks end it. -/
theorem words_spaced_append {ws : List (List Char)} {rest after : List Char}
    (spaced : Spaced ws rest) (trailing : Blanks after) : words (rest ++ after) = ws := by
  induction spaced with
  | nil => simpa using words_blanks_append trailing []
  | @cons gap word rest ws _ blanks valid others ih =>
      rw [List.append_assoc, List.append_assoc, words_blanks_append blanks,
        words_word_append valid (others.head?_append_isBlank trailing), ih]

theorem words_append_blanks {after : List Char} (trailing : Blanks after) (line : List Char) :
    words (line ++ after) = words line := by
  induction line with
  | nil => simpa using words_blanks_append trailing []
  | cons c rest ih =>
      rw [List.cons_append, words, words, ih]
      cases rest with
      | nil =>
          have ended : after.head?.all isBlank = true := by
            cases shape : after.head? with
            | none => rfl
            | some d => exact trailing d (List.mem_of_head? shape)
          simp [ended]
      | cons d rest => rfl

/-- Trimming a line leaves its runs. -/
theorem words_trim (line : List Char) : words (trim line) = words line := by
  obtain ⟨-, before, after, leading, trailing, whole⟩ := exists_trim line
  conv_rhs => rw [whole, List.append_assoc, words_blanks_append leading,
    words_append_blanks trailing]

/-- The runs of a tight line are its first word and the words that the grammar finds after it. -/
theorem Tight.exists_spaced {line : List Char} (tight : Tight line) (nonempty : line ≠ []) :
    ∃ word rest tail,
      Word word ∧ Spaced tail rest ∧ line = word ++ rest ∧ words line = word :: tail := by
  obtain ⟨_, read⟩ := tight.exists_tokensFrom? nonempty
  obtain ⟨word, rest, tail, -, first, spaced, rfl⟩ := exists_spaced_of_tokensFrom? read
  have others : words rest = tail := by simpa using words_spaced_append spaced blanks_nil
  refine ⟨word, rest, tail, first, spaced, rfl, ?_⟩
  rw [words_word_append first spaced.head?_isBlank, others]

/-- A tight line is read as its runs. -/
theorem Tight.tokens?_eq {line : List Char} (tight : Tight line) :
    tokens? line = some (words line) := by
  by_cases empty : line = []
  · rw [empty, tokens?_nil, words_nil]
  · obtain ⟨word, rest, tail, first, spaced, rfl, runs⟩ := tight.exists_spaced empty
    rw [tokens?, if_neg empty, tokensFrom?_append first spaced, runs]

theorem Tight.words_eq_nil_iff {line : List Char} (tight : Tight line) :
    words line = [] ↔ line = [] := by
  constructor
  · intro none
    by_contra nonempty
    obtain ⟨word, rest, tail, -, -, -, runs⟩ := tight.exists_spaced nonempty
    rw [runs] at none
    cases none
  · intro empty
    rw [empty, words_nil]

/-- A line without blanks is its only run, so no other tight line has the same runs. -/
theorem Tight.eq_of_words_eq {line other : List Char} (tight : Tight other)
    (solid : ∀ c ∈ line, isBlank c = false) (same : words other = words line) : other = line := by
  by_cases empty : line = []
  · rw [empty, words_nil] at same
    rw [empty, tight.words_eq_nil_iff.mp same]
  · have ended : ∀ c ∈ ([] : List Char).head?, isBlank c = true := nofun
    have single : words line = [line] := by
      simpa using words_word_append ⟨empty, solid⟩ ended
    have nonempty : other ≠ [] := by
      intro none
      rw [none, words_nil, single] at same
      cases same
    obtain ⟨word, rest, tail, -, spaced, rfl, runs⟩ := tight.exists_spaced nonempty
    rw [runs, single] at same
    cases same
    cases spaced
    rw [List.append_nil]

/-- A word is not empty. -/
theorem ne_nil_of_mem_words {line : List Char} : ∀ word ∈ words line, word ≠ [] := by
  induction line with
  | nil => nofun
  | cons c rest ih =>
      rw [words]
      split
      · exact ih
      · split
        · exact List.forall_mem_cons.mpr ⟨List.cons_ne_nil c [], ih⟩
        · split
          · exact List.forall_mem_singleton.mpr (List.cons_ne_nil c [])
          · next word others shape =>
            rw [shape] at ih
            exact List.forall_mem_cons.mpr
              ⟨List.cons_ne_nil c word, (List.forall_mem_cons.mp ih).2⟩

/-- A character that is not blank is a run of its own or begins the first run of what follows. -/
theorem words_cons_solid {c : Char} (solid : isBlank c = false) (rest : List Char) :
    words (c :: rest) = [c] :: words rest ∨
      ∃ word others, words rest = word :: others ∧ words (c :: rest) = (c :: word) :: others := by
  rw [words, solid, if_neg Bool.false_ne_true]
  split
  · exact .inl rfl
  · cases words rest with
    | nil => exact .inl rfl
    | cons word others => exact .inr ⟨word, others, rfl, rfl⟩

/-- The runs behind a first character that is not blank can be told from those of the whole. -/
theorem words_eq_of_cons {c : Char} (solid : isBlank c = false) {rest other : List Char}
    (same : words (c :: rest) = words (c :: other)) : words rest = words other := by
  rcases words_cons_solid solid rest with alone | ⟨word, others, runs, joined⟩
  · rcases words_cons_solid solid other with alone' | ⟨word', others', runs', joined'⟩
    · rw [alone, alone'] at same
      exact (List.cons.inj same).2
    · rw [alone, joined'] at same
      cases same
      exact absurd rfl (ne_nil_of_mem_words [] (by rw [runs']; exact List.mem_cons_self))
  · rcases words_cons_solid solid other with alone' | ⟨word', others', runs', joined'⟩
    · rw [joined, alone'] at same
      cases same
      exact absurd rfl (ne_nil_of_mem_words [] (by rw [runs]; exact List.mem_cons_self))
    · rw [joined, joined'] at same
      cases same
      rw [runs, runs']

end Text

end SlotAsm
