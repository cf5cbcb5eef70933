import SlotAsm.Layout
import SlotAsm.Proofs.Relayout
import SlotAsm.Text.Readers

/-!
The reader of words that is put together from smaller readers, against the words of the grammar.
Whatever readers it is made of, if each does what is documented then it reads `Interleaves`: words
with blanks between them and none at the ends (`Toolkit.words_eq_some_iff`). The separators that it
reads are the runs of blanks, and it goes back to the blanks at the end of a line, where no word
follows them, so it leaves them and fails. A line of words in turn with blanks is read by
`Text.tokens?` to the same end, and its words are its maximal runs of characters that are not blank.
-/

namespace SlotAsm.Text

open Grammar (Blanks Word Spaced)
open Reader

/-! ## Lines of words -/

/-- The line is the words in their order, with one or more blanks between them. -/
def Interleaves : List (List Char) → List Char → Prop
  | [], line => line = []
  | word :: others, line => Word word ∧ ∃ rest, Spaced others rest ∧ line = word ++ rest

/-- A run of characters that are not blank, which no further such character extends. -/
def MaximalRun (run line : List Char) : Prop :=
  ∃ before after, line = before ++ run ++ after ∧ Word run ∧
    (∀ c ∈ before.getLast?, isBlank c = true) ∧ ∀ c ∈ after.head?, isBlank c = true

/-- A line is read as the words that it consists of. -/
theorem tokens?_eq_some_iff {line : List Char} {ws : List (List Char)} :
    tokens? line = some ws ↔ Interleaves ws line := by
  by_cases empty : line = []
  · subst empty
    rw [tokens?_nil, Option.some_inj]
    cases ws with
    | nil => exact iff_of_true rfl rfl
    | cons word others =>
      refine iff_of_false (List.cons_ne_nil word others).symm ?_
      rintro ⟨valid, rest, -, whole⟩
      exact valid.1 (List.append_eq_nil_iff.mp whole.symm).1
  · rw [tokens?, if_neg empty, tokensFrom?_eq_some_iff]
    cases ws with
    | nil =>
      refine iff_of_false ?_ empty
      rintro ⟨_, _, _, same, -⟩
      cases same
    | cons word others =>
      constructor
      · intro read
        obtain ⟨_, rest, _, same, valid, spaced, whole⟩ := read
        cases same
        exact ⟨valid, rest, spaced, whole⟩
      · intro read
        obtain ⟨valid, rest, spaced, whole⟩ := read
        exact ⟨word, rest, others, rfl, valid, spaced, whole⟩

/-- A line consists of words when it has no blank at either end. -/
theorem exists_interleaves_iff {line : List Char} : (∃ ws, Interleaves ws line) ↔ Tight line := by
  constructor
  · intro formed
    obtain ⟨ws, formed⟩ := formed
    cases ws with
    | nil =>
      obtain rfl : line = [] := formed
      exact tight_nil
    | cons word others =>
      obtain ⟨valid, rest, spaced, rfl⟩ := formed
      exact tight_append_of_spaced valid spaced
  · intro tight
    exact ⟨words line, tokens?_eq_some_iff.mp tight.tokens?_eq⟩

theorem Interleaves.eq_nil_iff {line : List Char} {ws : List (List Char)}
    (formed : Interleaves ws line) : ws = [] ↔ line = [] := by
  cases ws with
  | nil => exact iff_of_true rfl formed
  | cons word others =>
    obtain ⟨valid, rest, -, rfl⟩ := formed
    simp [valid.1]

/-! ## Maximal runs -/

/-- Each of the spaced words stands between blanks, or at the end. -/
theorem exists_of_mem_spaced {ws : List (List Char)} {rest : List Char} (spaced : Spaced ws rest) :
    ∀ word ∈ ws, ∃ before after, rest = before ++ word ++ after ∧ Word word ∧
      (∃ c ∈ before.getLast?, isBlank c = true) ∧ ∀ c ∈ after.head?, isBlank c = true := by
  induction spaced with
  | nil => nofun
  | @cons gap word rest ws nonempty blanks valid others ih =>
    refine List.forall_mem_cons.mpr ⟨?_, fun other member => ?_⟩
    · refine ⟨gap, rest, rfl, valid, ?_, others.head?_isBlank⟩
      exact ⟨_, List.getLast?_eq_some_getLast nonempty, blanks _ (List.getLast_mem nonempty)⟩
    · obtain ⟨before, after, rfl, valid', ⟨c, last, blank⟩, boundary⟩ := ih other member
      exact ⟨gap ++ word ++ before, after, by simp, valid',
        ⟨c, List.mem_getLast?_append_of_mem_getLast? last, blank⟩, boundary⟩

/-- A blank at the end of a front separates its words from those behind it. -/
theorem words_append_of_last_blank {before : List Char}
    (last : ∀ c ∈ before.getLast?, isBlank c = true) (rest : List Char) :
    words (before ++ rest) = words before ++ words rest := by
  induction before with
  | nil => rfl
  | cons c tail ih =>
    cases tail with
    | nil =>
      have blank : isBlank c = true := last c rfl
      simp [words_cons_blank blank]
    | cons d tail =>
      have run := ih (by simpa [List.getLast?_cons_cons] using last)
      rw [List.cons_append] at run ⊢
      rw [List.cons_append, words, run]
      conv_rhs => rw [words]
      by_cases blank : isBlank c = true
      · simp [blank]
      · by_cases ended : isBlank d = true
        · simp [blank, ended]
        · -- The second character opens a run of the front, so the run is not that of the rest.
          obtain ⟨word, others, shape⟩ : ∃ word others, words (d :: tail) = word :: others := by
            rcases words_cons_solid (by simpa using ended) tail with alone | ⟨_, _, -, joined⟩
            · exact ⟨_, _, alone⟩
            · exact ⟨_, _, joined⟩
          simp [blank, ended, shape]

/-- The words of a line are its maximal runs. -/
theorem Interleaves.mem_iff {line : List Char} {ws : List (List Char)}
    (formed : Interleaves ws line) {word : List Char} : word ∈ ws ↔ MaximalRun word line := by
  constructor
  · intro member
    cases ws with
    | nil => cases member
    | cons first others =>
      obtain ⟨valid, rest, spaced, rfl⟩ := formed
      rcases List.mem_cons.mp member with rfl | member
      · exact ⟨[], rest, rfl, valid, nofun, spaced.head?_isBlank⟩
      · obtain ⟨before, after, rfl, valid', ⟨c, last, blank⟩, boundary⟩ :=
          exists_of_mem_spaced spaced word member
        have last' : c ∈ (first ++ before).getLast? :=
          List.mem_getLast?_append_of_mem_getLast? last
        refine ⟨first ++ before, after, by simp, valid', fun d ended => ?_, boundary⟩
        rwa [Option.mem_unique ended last']
  · intro maximal
    obtain ⟨before, after, whole, valid, last, boundary⟩ := maximal
    have runs : words line = ws := by
      have read := tokens?_eq_some_iff.mpr formed
      rw [(exists_interleaves_iff.mp ⟨ws, formed⟩).tokens?_eq] at read
      exact Option.some.inj read
    rw [← runs, whole, List.append_assoc, words_append_of_last_blank last,
      words_word_append valid boundary]
    simp

/-! ## The documented readers -/

namespace Reader.IsRun

variable {condition : Char → Bool} {text taken rest : List Char}

theorem length_lt (run : IsRun condition text taken rest) : rest.length < text.length := by
  obtain ⟨rfl, nonempty, -⟩ := run
  have := List.length_pos_iff.mpr nonempty
  simp only [List.length_append]
  omega

theorem not_nil : ¬ IsRun condition [] taken rest := by
  intro run
  exact run.2.1 (List.append_eq_nil_iff.mp run.1.symm).1

end Reader.IsRun

section

variable {reader : Reader (List Char)} {condition : Char → Bool}
  (runs : ∀ text taken rest,
    reader text = some (taken, rest) ↔ IsRun condition text taken rest)

include runs

theorem consumes_of_isRun : reader.Consumes :=
  fun text taken rest read => ((runs text taken rest).mp read).length_lt

theorem read_nil_of_isRun : reader [] = none := by
  cases read : reader [] with
  | none => rfl
  | some result => exact absurd ((runs [] _ _).mp read) IsRun.not_nil

end

namespace Toolkit.Documented

variable {kit : Toolkit} (documented : kit.Documented)

include documented

theorem word_of_takeTill {text word rest : List Char}
    (read : kit.takeTill isBlank text = some (word, rest)) : Word word ∧ text = word ++ rest := by
  obtain ⟨whole, nonempty, solid, -⟩ := (documented.takeTill isBlank text word rest).mp read
  exact ⟨⟨nonempty, fun c member => by simpa using solid c member⟩, whole⟩

theorem takeTill_append {word rest : List Char} (valid : Word word)
    (boundary : ∀ c ∈ rest.head?, isBlank c = true) :
    kit.takeTill isBlank (word ++ rest) = some (word, rest) := by
  refine (documented.takeTill isBlank _ _ _).mpr
    ⟨rfl, valid.1, fun c member => ?_, fun c first => ?_⟩
  · simp [valid.2 c member]
  · simp [boundary c first]

/-- Where the turns of blanks and words go on to the end of a text, the text is spaced words. -/
theorem continued_iff {text : List Char} {ws : List (List Char)} :
    Continued (kit.takeWhile isBlank) (kit.takeTill isBlank) text ws [] ↔ Spaced ws text := by
  constructor
  · intro continued
    generalize ended : ([] : List Char) = final at continued
    induction continued with
    | noSeparator => exact ended ▸ .nil
    | noElement => exact ended ▸ .nil
    | more separator element _ ih =>
      obtain ⟨rfl, nonempty, blanks, -⟩ := (documented.takeWhile isBlank _ _ _).mp separator
      obtain ⟨valid, rfl⟩ := documented.word_of_takeTill element
      rw [← List.append_assoc]
      exact .cons nonempty blanks valid (ih ended)
  · intro spaced
    induction spaced with
    | nil => exact .noSeparator (read_nil_of_isRun (documented.takeWhile isBlank))
    | @cons gap word rest ws nonempty blanks valid others ih =>
      have separator : kit.takeWhile isBlank (gap ++ word ++ rest) = some (gap, word ++ rest) :=
        (documented.takeWhile isBlank _ _ _).mpr
          ⟨List.append_assoc gap word rest, nonempty, blanks, valid.head?_append rest⟩
      exact .more separator (documented.takeTill_append valid others.head?_isBlank) ih

theorem listed_iff {line : List Char} {ws : List (List Char)} :
    Listed (kit.takeWhile isBlank) (kit.takeTill isBlank) line ws [] ↔ Interleaves ws line := by
  constructor
  · intro listed
    cases listed with
    | none => rfl
    | some element continued =>
      obtain ⟨valid, whole⟩ := documented.word_of_takeTill element
      exact ⟨valid, _, documented.continued_iff.mp continued, whole⟩
  · intro formed
    cases ws with
    | nil =>
      obtain rfl : line = [] := formed
      exact .none (read_nil_of_isRun (documented.takeTill isBlank))
    | cons word others =>
      obtain ⟨valid, rest, spaced, rfl⟩ := formed
      exact .some (documented.takeTill_append valid spaced.head?_isBlank)
        (documented.continued_iff.mpr spaced)

/-- The reader of words takes the whole of a line, and its words are what the line consists of. -/
theorem words_eq_some_iff {line rest : List Char} {ws : List (List Char)} :
    kit.words line = some (ws, rest) ↔ rest = [] ∧ Interleaves ws line := by
  rw [Toolkit.words, documented.entire, documented.separated _ _
    (consumes_of_isRun (documented.takeWhile isBlank))
    (consumes_of_isRun (documented.takeTill isBlank)), and_comm]
  refine and_congr_right ?_
  rintro rfl
  exact documented.listed_iff

/-- The reader of words gives what `tokens?` gives. -/
theorem words_eq (line : List Char) : kit.words line = (tokens? line).map (·, []) := by
  apply Option.ext
  rintro ⟨ws, rest⟩
  rw [documented.words_eq_some_iff, Option.map_eq_some_iff]
  constructor
  · rintro ⟨rfl, formed⟩
    exact ⟨ws, tokens?_eq_some_iff.mpr formed, rfl⟩
  · rintro ⟨_, read, same⟩
    cases same
    exact ⟨rfl, tokens?_eq_some_iff.mp read⟩

end Toolkit.Documented

/-! ## The words of a line -/

open Toolkit (plain run continueList startList)

/-- A reader of words whose parts do what is documented reads a line exactly when the line has no
blank at either end. It then takes the whole line, and its words are what the line consists of: the
maximal runs of characters that are not blank, and none only for the empty line. So it reads what
`tokens?` reads, and the code of every line, as the words before the first comment mark. -/
theorem Toolkit.Documented.reads_maximal_runs {kit : Toolkit} (documented : kit.Documented) :
    (∀ line, (∃ result, kit.words line = some result) ↔ Tight line) ∧
    (∀ line ws rest, kit.words line = some (ws, rest) ↔ rest = [] ∧ Interleaves ws line) ∧
    (∀ line ws rest, kit.words line = some (ws, rest) →
      (∀ word, word ∈ ws ↔ MaximalRun word line) ∧ (ws = [] ↔ line = [])) ∧
    (∀ line, kit.words line = (tokens? line).map (·, [])) ∧
    ∀ line, kit.words (codeOf line) = some (wordsOf line, []) := by
  refine ⟨fun line => ?_, fun line ws rest => documented.words_eq_some_iff,
    fun line ws rest read => ?_, documented.words_eq, fun line => ?_⟩
  · rw [← exists_interleaves_iff]
    constructor
    · rintro ⟨⟨ws, rest⟩, read⟩
      exact ⟨ws, (documented.words_eq_some_iff.mp read).2⟩
    · rintro ⟨ws, formed⟩
      exact ⟨(ws, []), documented.words_eq_some_iff.mpr ⟨rfl, formed⟩⟩
  · obtain ⟨-, formed⟩ := documented.words_eq_some_iff.mp read
    exact ⟨fun word => formed.mem_iff, formed.eq_nil_iff⟩
  · rw [documented.words_eq, (tight_codeOf line).tokens?_eq, words_codeOf, Option.map_some]

theorem run_eq_some_iff {condition : Char → Bool} {text taken rest : List Char} :
    run condition text = some (taken, rest) ↔ IsRun condition text taken rest := by
  rw [run]
  constructor
  · intro read
    split at read
    · cases read
    · next nonempty =>
      cases read
      exact ⟨List.takeWhile_append_dropWhile.symm, nonempty, fun c => List.mem_takeWhile_imp,
        head?_dropWhile condition text⟩
  · rintro ⟨rfl, nonempty, inside, boundary⟩
    rw [takeWhile_append_of_boundary inside boundary, dropWhile_append_of_boundary inside boundary,
      if_neg nonempty]

section

variable {separator element : Reader (List Char)} (gaps : separator.Consumes)
  (values : element.Consumes)

include gaps values

theorem continueList_eq_some_iff {text final : List Char} {ws : List (List Char)} :
    continueList separator element text = some (ws, final) ↔
      Continued separator element text ws final := by
  constructor
  · intro read
    induction text using Toolkit.continueList.induct separator element generalizing ws with
    | case1 text absent =>
      rw [continueList, absent] at read
      cases read
      exact .noSeparator absent
    | case2 text _ _ separated shorter absent =>
      rw [continueList, separated] at read
      simp only [absent, shorter, if_true] at read
      cases read
      exact .noElement separated absent
    | case3 text _ _ separated shorter _ _ taken shorter' ih =>
      rw [continueList, separated] at read
      simp only [taken, shorter, shorter', if_true, Option.map_eq_some_iff] at read
      obtain ⟨⟨others, rest⟩, readOthers, same⟩ := read
      cases same
      exact .more separated taken (ih readOthers)
    | case4 text _ _ separated shorter _ _ taken longer =>
      rw [continueList, separated] at read
      simp only [taken, shorter, longer, if_true, if_false] at read
      cases read
    | case5 text _ _ separated longer =>
      rw [continueList, separated] at read
      simp only [longer, if_false] at read
      cases read
  · intro continued
    induction continued with
    | noSeparator absent => rw [continueList, absent]
    | noElement separated absent =>
      rw [continueList, separated]
      simp only [absent, gaps _ _ _ separated, if_true]
    | more separated taken _ ih =>
      rw [continueList, separated]
      simp only [taken, gaps _ _ _ separated, values _ _ _ taken, if_true, ih, Option.map_some]

theorem startList_eq_some_iff {text final : List Char} {ws : List (List Char)} :
    startList separator element text = some (ws, final) ↔
      Listed separator element text ws final := by
  rw [startList]
  constructor
  · intro read
    cases taken : element text with
    | none =>
      rw [taken] at read
      cases read
      exact .none taken
    | some result =>
      rw [taken] at read
      simp only [values _ _ _ taken, if_true, Option.map_eq_some_iff] at read
      obtain ⟨⟨others, rest⟩, readOthers, same⟩ := read
      cases same
      exact .some taken ((continueList_eq_some_iff gaps values).mp readOthers)
  · intro listed
    cases listed with
    | none absent => rw [absent]
    | some taken continued =>
      rw [taken]
      simp only [values _ _ _ taken, if_true,
        (continueList_eq_some_iff gaps values).mpr continued, Option.map_some]

end

theorem documented_plain : plain.Documented where
  takeWhile condition text taken rest := run_eq_some_iff
  takeTill condition text taken rest := run_eq_some_iff
  separated separator element gaps values text ws rest := startList_eq_some_iff gaps values
  entire reader text ws rest := by simp [plain, Option.filter_eq_some_iff]

/-- A line with blanks of different kinds, one that ends with a blank, and a line of source with a
comment. -/
theorem Toolkit.Documented.reads_maximal_runs_plain :
    plain.Documented ∧
    plain.words "STR \t1\u2003A".toList = some (["STR".toList, "1".toList, "A".toList], []) ∧
    plain.words "STR 1 A\u00a0".toList = none ∧
    plain.words (codeOf " BNE A\tB  loop # again".toList) =
      some (["BNE".toList, "A".toList, "B".toList, "loop".toList], []) := by
  obtain ⟨-, -, -, same, code⟩ := Toolkit.Documented.reads_maximal_runs documented_plain
  obtain ⟨tight, -⟩ := Toolkit.Documented.reads_maximal_runs documented_plain
  refine ⟨documented_plain, ?_, ?_, ?_⟩
  · have tight : Tight "STR \t1\u2003A".toList :=
      ⟨by rintro c ⟨⟩; decide, by rintro c ⟨⟩; decide⟩
    rw [same, tight.tokens?_eq]
    decide
  · rw [← Option.not_isSome_iff_eq_none, Option.isSome_iff_exists, tight]
    intro both
    exact absurd (both.2 '\u00a0' rfl) (by decide)
  · rw [code]
    decide

end SlotAsm.Text
