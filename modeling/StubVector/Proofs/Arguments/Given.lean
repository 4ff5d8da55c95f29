import Mathlib.Data.List.TakeDrop
import StubVector.Arguments

/-!
# Words and options that are given in full

An argument that does not begin with a hyphen is a word. If there is a word for every slot, and
after the words come options, each named in full and with its value as the next argument, then every
slot gets its word and every option its value, in order.

* `Grammar.Given`: an option that is given in full.
* `Grammar.readMarks_givens_append`: options before the first word.
* `Grammar.readMarks_words_givens_append`: options behind words.
* `Grammar.readMarks_row_givens`: the last words, and the options behind them.
* `Grammar.read_words_append_given`: **what such arguments name**.
-/

namespace StubVector.Grammar

variable {grammar : Grammar} {words others : List WideText} {word : WideText}
  {row rest : List Mark} {slots left : List Slot} {namings : List Naming}

/-- Whether an argument does not begin with a hyphen. -/
def IsWord (argument : WideText) : Prop := argument.head? ≠ some (.char '-')

instance (argument : WideText) : Decidable (IsWord argument) :=
  inferInstanceAs (Decidable (argument.head? ≠ some (.char '-')))

theorem IsWord.ne_separator (h : IsWord word) : word ≠ separator := by
  rintro rfl
  exact h rfl

/-- Such an argument is a word. -/
theorem classify_of_isWord (h : IsWord word) : grammar.classify word = .ok (.word word) := by
  rw [classify]
  rintro c rest rfl
  exact h rfl

theorem wordOf_singleton (h : IsWord word) : wordOf [word] = some word := by
  simp [wordOf, h.ne_separator]

/-- An option that is given in full: by one of its names, and with its value if it takes one. -/
structure Given (grammar : Grammar) where
  argument : WideText
  option : OptionSpec
  value : Option WideText
  begins : ∃ c rest, argument = .char '-' :: c :: rest
  ne_separator : argument ≠ separator
  named : grammar.named? argument = some option
  valued : option.valued = value.isSome
  isWord : ∀ word ∈ value, IsWord word

namespace Given

variable (given : Given grammar)

/-- The arguments that give the option. -/
def arguments : List WideText := given.argument :: given.value.toList

/-- The marks of these arguments. -/
def marks : List Mark :=
  .option given.option (isLong given.argument) none :: given.value.toList.map .word

/-- What they name. -/
def naming : Naming := .option given.option given.value

theorem classify_argument :
    grammar.classify given.argument =
      .ok (.option given.option (isLong given.argument) none) := by
  obtain ⟨c, rest, hbegins⟩ := given.begins
  have hnamed := given.named
  rw [hbegins] at hnamed ⊢
  simp only [classify, hnamed]

end Given

/-! ## Marking -/

theorem marks_word_cons (h : IsWord word) :
    grammar.marks (word :: others) = (grammar.marks others).map (.word word :: ·) := by
  rw [Grammar.marks, if_neg h.ne_separator, classify_of_isWord h]
  rfl

theorem marks_words_append (h : ∀ word ∈ words, IsWord word) :
    grammar.marks (words ++ others) =
      (grammar.marks others).map (words.map .word ++ ·) := by
  induction words with
  | nil =>
    rw [List.nil_append]
    cases grammar.marks others <;> rfl
  | cons word words ih =>
    rw [List.forall_mem_cons] at h
    rw [List.cons_append, marks_word_cons h.1, ih h.2]
    cases grammar.marks others <;> rfl

theorem marks_given_append (given : Given grammar) :
    grammar.marks (given.arguments ++ others) =
      (grammar.marks others).map (given.marks ++ ·) := by
  have hvalue : ∀ word ∈ given.value.toList, IsWord word :=
    fun word hword => given.isWord word (by simpa using hword)
  rw [Given.arguments, List.cons_append, Grammar.marks, if_neg given.ne_separator,
    given.classify_argument, marks_words_append hvalue]
  cases grammar.marks others <;> rfl

theorem marks_givens_append (givens : List (Given grammar)) (others : List WideText) :
    grammar.marks (givens.flatMap (·.arguments) ++ others) =
      (grammar.marks others).map (givens.flatMap (·.marks) ++ ·) := by
  induction givens with
  | nil =>
    rw [List.flatMap_nil, List.nil_append]
    cases grammar.marks others <;> rfl
  | cons given givens ih =>
    rw [List.flatMap_cons, List.append_assoc, marks_given_append, ih]
    cases grammar.marks others <;> simp [Except.map]

theorem marks_givens (givens : List (Given grammar)) :
    grammar.marks (givens.flatMap (·.arguments)) = .ok (givens.flatMap (·.marks)) := by
  have hmarks := marks_givens_append givens []
  rw [List.append_nil] at hmarks
  rw [hmarks, Grammar.marks, Except.map, List.append_nil]

/-! ## Filling slots -/

/-- Where no separator stands, the share of a slot is a word. -/
theorem takeShare?_words (slot : Slot) (word : WideText) (words : List WideText) :
    takeShare? slot (.word word :: words.map .word) = some ([.word word], words.map .word) := by
  cases words <;> simp [takeShare?, List.span_eq_takeWhile_dropWhile]

theorem fill_word_cons (h : IsWord word) (slot : Slot) (words : List WideText)
    (hfill : fill slots (words.map .word) = (namings, left, rest)) :
    fill (slot :: slots) (.word word :: words.map .word) =
      (.slot slot (some word) :: namings, left, rest) := by
  rw [fill, takeShare?_words]
  simp [hfill, argumentOf?, wordOf_singleton h]

/-- Every slot is filled by its word. -/
theorem fill_words (hlength : words.length = slots.length) (h : ∀ word ∈ words, IsWord word) :
    fill slots (words.map .word) =
      (List.zipWith (fun slot word => .slot slot (some word)) slots words, [], []) := by
  induction slots generalizing words with
  | nil =>
    cases words with
    | nil => rfl
    | cons => cases hlength
  | cons slot slots ih =>
    cases words with
    | nil => cases hlength
    | cons word words =>
      rw [List.forall_mem_cons] at h
      exact fill_word_cons h.1 slot words (ih (Nat.succ.inj hlength) h.2)

/-! ## Reading -/

@[simp] theorem Reading.withNeedless_nil (reading : Reading) :
    reading.withNeedless [] = reading := by
  obtain ⟨namings, ending⟩ := reading
  cases ending <;> rfl

theorem Reading.after_after (front back : List Naming) (reading : Reading) :
    (reading.after back).after front = reading.after (front ++ back) := by
  simp [after]

theorem flush_of_fill (hfill : fill slots row = (namings, left, rest))
    (next : List Slot → Reading) :
    flush slots row next =
      ((next left).withNeedless (rest.filterMap argumentOf?)).after namings := by
  rw [flush, hfill]

theorem readMarks_words (slots : List Slot) (row words : List WideText) (rest : List Mark) :
    grammar.readMarks slots (row.map .word) (words.map .word ++ rest) =
      grammar.readMarks slots ((row ++ words).map .word) rest := by
  induction words generalizing row with
  | nil => simp
  | cons word words ih =>
    rw [List.map_cons, List.cons_append, readMarks]
    have hrow : row.map Mark.word ++ [.word word] = (row ++ [word]).map .word := by simp
    rw [hrow, ih, List.append_assoc, List.singleton_append]

/-- Before an option that is given in full, the slots are filled; then it takes its value. -/
theorem readMarks_given (given : Given grammar) (slots : List Slot) (row : List WideText)
    (rest : List Mark) :
    grammar.readMarks slots (row.map .word) (given.marks ++ rest) =
      let next (left : List Slot) : Reading :=
        (grammar.readMarks left [] rest).after [given.naming]
      if row.isEmpty then next slots else flush slots (row.map .word) next := by
  obtain ⟨argument, option, value, -, -, -, hvalued, hword⟩ := given
  rw [Given.marks, List.cons_append, readMarks.eq_def]
  cases value with
  | none => simp [Given.naming, hvalued, flags]
  | some value =>
    simp [Given.naming, hvalued, flags, valueOf, wordOf_singleton (hword value rfl)]

/-- Options are read without a look at the slots. -/
theorem readMarks_givens_append (givens : List (Given grammar)) (slots : List Slot)
    (rest : List Mark) :
    grammar.readMarks slots [] (givens.flatMap (·.marks) ++ rest) =
      (grammar.readMarks slots [] rest).after (givens.map (·.naming)) := by
  induction givens with
  | nil => rfl
  | cons given givens ih =>
    have hread := readMarks_given given slots [] (givens.flatMap (·.marks) ++ rest)
    rw [List.map_nil] at hread
    rw [List.flatMap_cons, List.append_assoc, hread]
    simp only [List.isEmpty_nil, if_true, ih, Reading.after_after]
    rfl

/-- Before the first option, the words fill slots. -/
theorem readMarks_words_givens_append (slots : List Slot) {words : List WideText}
    {givens : List (Given grammar)} (hwords : words ≠ []) (hgivens : givens ≠ [])
    (rest : List Mark) :
    grammar.readMarks slots (words.map .word) (givens.flatMap (·.marks) ++ rest) =
      flush slots (words.map .word) fun left =>
        (grammar.readMarks left [] rest).after (givens.map (·.naming)) := by
  obtain ⟨given, givens, rfl⟩ := List.exists_cons_of_ne_nil hgivens
  have hrow : words.isEmpty = false := by simpa using hwords
  rw [List.flatMap_cons, List.append_assoc, readMarks_given]
  simp only [hrow, readMarks_givens_append, Reading.after_after]
  rfl

theorem readMarks_givens (givens : List (Given grammar)) :
    grammar.readMarks [] [] (givens.flatMap (·.marks)) =
      { namings := givens.map (·.naming), ending := .complete [] [] } := by
  have hread := readMarks_givens_append givens [] []
  rw [List.append_nil] at hread
  rw [hread]
  simp [readMarks, flush, fill, Reading.stop, Reading.withNeedless, Reading.after]

/-- Where the last words leave no slot, the options behind them end the reading. -/
theorem readMarks_row_givens (givens : List (Given grammar)) (hwords : words ≠ [])
    (hfill : fill slots (words.map .word) = (namings, [], rest)) :
    grammar.readMarks slots (words.map .word) (givens.flatMap (·.marks)) =
      { namings := namings ++ givens.map (·.naming)
        ending := .complete [] (rest.filterMap argumentOf?) } := by
  cases givens with
  | nil =>
    rw [List.flatMap_nil, readMarks, flush_of_fill hfill]
    simp [Reading.stop, Reading.withNeedless, Reading.after]
  | cons given givens =>
    have hread := readMarks_words_givens_append slots hwords
      (List.cons_ne_nil given givens) []
    rw [List.append_nil] at hread
    rw [hread, flush_of_fill hfill]
    simp [readMarks, flush, fill, Reading.stop, Reading.withNeedless, Reading.after]

/-- **Words, then options.** Every slot gets its word, and every option its value. -/
theorem read_words_append_given (givens : List (Given grammar))
    (hlength : words.length = grammar.slots.length) (h : ∀ word ∈ words, IsWord word) :
    grammar.read (words ++ givens.flatMap (·.arguments)) = {
      namings := List.zipWith (fun slot word => .slot slot (some word)) grammar.slots words ++
        givens.map (·.naming)
      ending := .complete [] [] } := by
  have hmarks : grammar.marks (words ++ givens.flatMap (·.arguments)) =
      .ok (words.map .word ++ givens.flatMap (·.marks)) := by
    rw [marks_words_append h, marks_givens]
    rfl
  have hwords : grammar.readMarks grammar.slots [] (words.map .word ++ givens.flatMap (·.marks)) =
      grammar.readMarks grammar.slots (words.map .word) (givens.flatMap (·.marks)) :=
    readMarks_words grammar.slots [] words _
  rw [read, hmarks]
  change grammar.readMarks grammar.slots [] _ = _
  rw [hwords]
  have hfill := fill_words hlength h
  by_cases hnil : words = []
  · subst hnil
    have hslots : grammar.slots = [] := List.eq_nil_of_length_eq_zero hlength.symm
    rw [hslots]
    exact readMarks_givens givens
  · exact readMarks_row_givens givens hnil hfill

end StubVector.Grammar
