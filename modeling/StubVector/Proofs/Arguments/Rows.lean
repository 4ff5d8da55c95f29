import StubVector.Proofs.Arguments.Given

/-!
# Options between words

The words before an option fill slots as far as they reach, and a slot that may stay empty stays
empty there if no word is left for it. So it matters where an option stands only if it stands
between the words for a slot that needs one and for a slot that does not.

* `Grammar.fill_nil_of_required`, `Grammar.fill_nil_of_optional`: slots for which no word is left.
* `Grammar.readMarks_row`: a word before other words goes to the first slot.
* `Grammar.readMarks_words_givens_of_no_slots`: words for which no slot is left.
-/

namespace StubVector.Grammar

variable {grammar : Grammar} {slot : Slot} {word other : WideText}

/-! ## Slots without a word -/

/-- A slot that needs a word waits for one. -/
theorem fill_nil_of_required (h : slot.optional = false) (slots : List Slot) :
    fill (slot :: slots) [] = ([], slot :: slots, []) := by
  simp [fill, takeShare?, h]

/-- A slot that may stay empty does so. -/
theorem fill_nil_of_optional (h : slot.optional = true) :
    fill [slot] [] = ([.slot slot none], [], []) := by
  simp [fill, takeShare?, h, wordOf]

/-! ## The first of several words -/

theorem takeShare?_word_word (slot : Slot) (word other : WideText) (row : List Mark) :
    takeShare? slot (.word word :: .word other :: row) =
      some ([.word word], .word other :: row) := by
  simp [takeShare?, List.span_eq_takeWhile_dropWhile]

theorem flush_word_word (h : IsWord word) (slot : Slot) (slots : List Slot) (row : List Mark)
    (next : List Slot → Reading) :
    flush (slot :: slots) (.word word :: .word other :: row) next =
      (flush slots (.word other :: row) next).after [.slot slot (some word)] := by
  simp only [flush, fill, takeShare?_word_word, Reading.after_after, List.filterMap_cons,
    argumentOf?, List.filterMap_nil, wordOf_singleton h]
  rfl

/-- A word before other words goes to the first slot. -/
theorem readMarks_row (h : IsWord word) (slot : Slot) (slots : List Slot) (other : WideText)
    (row rest : List Mark) :
    grammar.readMarks (slot :: slots) (.word word :: .word other :: row) rest =
      (grammar.readMarks slots (.word other :: row) rest).after [.slot slot (some word)] := by
  -- the row grows up to the next option, and is not empty there
  induction rest generalizing row with
  | nil =>
    rw [readMarks, readMarks, flush_word_word h]
  | cons mark rest ih =>
    cases mark with
    | word text =>
      rw [readMarks, readMarks, List.cons_append, List.cons_append, ih]
    | separator =>
      rw [readMarks, readMarks, List.cons_append, List.cons_append, ih]
    | unknown text =>
      rw [readMarks, readMarks]
      simp only [List.isEmpty_cons, Bool.false_eq_true, if_false]
      rw [flush_word_word h]
    | option option byLongName value =>
      rw [readMarks.eq_def, readMarks.eq_def]
      simp only [List.isEmpty_cons, Bool.false_eq_true, if_false]
      rw [flush_word_word h]

/-! ## Words that are left over -/

/-- Without slots, every word is one too many. -/
theorem readMarks_words_givens_of_no_slots (words : List WideText) (givens : List (Given grammar)) :
    grammar.readMarks [] [] (words.map .word ++ givens.flatMap (·.marks)) =
      { namings := givens.map (·.naming), ending := .complete [] words } := by
  by_cases hwords : words = []
  · subst hwords
    exact readMarks_givens givens
  · have hread : grammar.readMarks [] [] (words.map .word ++ givens.flatMap (·.marks)) =
        grammar.readMarks [] (words.map .word) (givens.flatMap (·.marks)) :=
      readMarks_words [] [] words _
    have hneedless : (words.map Mark.word).filterMap argumentOf? = words := by
      rw [List.filterMap_map]
      exact List.filterMap_some
    rw [hread, readMarks_row_givens givens hwords rfl, hneedless, List.nil_append]

end StubVector.Grammar
