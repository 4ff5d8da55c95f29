import Mathlib.Data.List.TakeDrop
import StubVector.Arguments

/-!
# What the separator does not take away

One separator is dropped from the arguments of a slot, so a slot could be filled and get no word.
That is so for slots that follow another one; the first slot, if it needs a word, always gets one.

* `Grammar.Separated`: no word before the separator looks like it, and only words stand behind it.
* `Grammar.separated_of_marks`: the marks of arguments are separated.
* `Grammar.ne_slot_none_of_mem_read`: **the word of the first slot** is there.
-/

namespace StubVector.Grammar

variable {grammar : Grammar} {arguments : List WideText} {argument text : WideText} {mark : Mark}
  {marks row : List Mark} {slot : Slot} {slots others : List Slot}

/-! ## Separated marks -/

/-- Whether no word before the separator looks like it, and only words stand behind it. -/
def Separated : List Mark → Prop
  | [] => True
  | .separator :: marks => ∀ mark ∈ marks, ∃ text, mark = .word text
  | .word text :: marks => text ≠ separator ∧ Separated marks
  | _ :: marks => Separated marks

/-- Before an argument that is no word, and is no separator, there is no separator. -/
theorem Separated.of_append (hmark : argumentOf? mark = none)
    (h : Separated (row ++ mark :: marks)) : Separated row ∧ Separated marks := by
  induction row with
  | nil =>
    cases mark with
    | word | separator => cases hmark
    | option | unknown => exact ⟨trivial, h⟩
  | cons first row ih =>
    cases first with
    | word text => exact ⟨⟨h.1, (ih h.2).1⟩, (ih h.2).2⟩
    | separator =>
      obtain ⟨text, rfl⟩ := h _ (List.mem_append_right _ List.mem_cons_self)
      cases hmark
    | option | unknown => exact ih h

/-- Whether an argument may be marked like this: not as the separator, and as no other word. -/
def Marks (argument : WideText) (mark : Mark) : Prop :=
  mark ≠ .separator ∧ ∀ text, mark = .word text → text = argument

theorem marks_of_classifyInexact (h : grammar.classifyInexact argument = .ok mark) :
    Marks argument mark := by
  rw [classifyInexact] at h
  split at h
  · next hexact =>
    obtain ⟨⟨name, value⟩, -, hnamed⟩ := Option.bind_eq_some_iff.mp hexact
    obtain ⟨option, -, rfl⟩ := Option.map_eq_some_iff.mp hnamed
    cases h
    exact ⟨by simp, by simp⟩
  · split at h
    · cases h
      exact ⟨by simp, by simp⟩
    · split at h <;> cases h <;> exact ⟨by simp, by simp⟩
    · cases h

theorem marks_of_classify (h : grammar.classify argument = .ok mark) : Marks argument mark := by
  unfold classify at h
  split at h
  · split at h
    · cases h
      exact ⟨by simp, by simp⟩
    · exact marks_of_classifyInexact h
  · cases h
    exact ⟨by simp, by simp⟩

/-- The marks of arguments are separated. -/
theorem separated_of_marks (h : grammar.marks arguments = .ok marks) : Separated marks := by
  induction arguments generalizing marks with
  | nil =>
    cases h
    trivial
  | cons argument arguments ih =>
    rw [Grammar.marks] at h
    split at h
    · cases h
      intro mark hmark
      obtain ⟨text, -, rfl⟩ := List.mem_map.mp hmark
      exact ⟨text, rfl⟩
    · next hseparator =>
      cases hmark : grammar.classify argument with
      | error fault => rw [hmark] at h; cases h
      | ok mark =>
        cases hrest : grammar.marks arguments with
        | error fault => rw [hmark, hrest] at h; cases h
        | ok rest =>
          rw [hmark, hrest] at h
          cases h
          obtain ⟨hne, hword⟩ := marks_of_classify hmark
          cases mark with
          | word text => exact ⟨hword text rfl ▸ hseparator, ih hrest⟩
          | separator => exact absurd rfl hne
          | option | unknown => exact (ih hrest : Separated rest)

/-! ## Filling slots -/

/-- A slot that needs a word gets one from a separated row. -/
theorem wordOf_share_ne_none {share rest : List Mark} (hslot : slot.optional = false)
    (hrow : Separated row) (h : takeShare? slot row = some (share, rest)) :
    wordOf (share.filterMap argumentOf?) ≠ none := by
  rw [takeShare?, List.span_eq_takeWhile_dropWhile] at h
  cases row with
  | nil => simp [hslot] at h
  | cons mark row =>
    cases mark with
    | word text =>
      obtain ⟨rfl, -⟩ : _ ∧ _ := by simpa using h
      simp [wordOf, argumentOf?, hrow.1]
    | separator =>
      cases row with
      | nil => simp [hslot] at h
      | cons mark row =>
        obtain ⟨text, rfl⟩ := hrow _ List.mem_cons_self
        obtain ⟨rfl, -⟩ : _ ∧ _ := by simpa using h
        simp [wordOf, argumentOf?]
    | option | unknown => simp [hslot] at h

/-- What is named by filling slots, and the slots that are left, are among them. -/
theorem fill_slots :
    (∀ naming ∈ (fill slots row).1, ∃ slot ∈ slots, ∃ word, naming = .slot slot word) ∧
      (fill slots row).2.1 <:+ slots := by
  induction slots generalizing row with
  | nil => simp [fill]
  | cons slot slots ih =>
    rw [fill]
    split
    · simp
    · next share rest _ =>
      obtain ⟨hnamed, hleft⟩ := @ih rest
      refine ⟨?_, hleft.trans (List.suffix_cons slot slots)⟩
      intro naming hnaming
      rcases List.mem_cons.mp hnaming with rfl | hnaming
      · exact ⟨slot, List.mem_cons_self, _, rfl⟩
      · obtain ⟨other, hother, word, rfl⟩ := hnamed naming hnaming
        exact ⟨other, List.mem_cons_of_mem _ hother, word, rfl⟩

/-- Filling from a separated row never fills the first slot without a word. -/
theorem ne_slot_none_of_mem_fill {naming : Naming} (hslot : slot.optional = false)
    (hothers : slot ∉ others) (hrow : Separated row) (hslots : slots <:+ slot :: others)
    (h : naming ∈ (fill slots row).1) : naming ≠ .slot slot none := by
  rintro rfl
  obtain ⟨named, hnamed, word, heq⟩ := fill_slots.1 _ h
  cases heq
  rcases List.suffix_cons_iff.mp hslots with rfl | hsuffix
  · rw [fill] at h
    split at h
    · cases h
    · next share rest hshare =>
      rcases List.mem_cons.mp h with h | h
      · exact wordOf_share_ne_none hslot hrow hshare (Naming.slot.inj h).2.symm
      · obtain ⟨other, hother, word, heq⟩ := fill_slots.1 _ h
        cases heq
        exact hothers hother
  · exact hothers (hsuffix.subset hnamed)

/-! ## Reading -/

@[simp] theorem Reading.namings_withNeedless (reading : Reading) :
    (reading.withNeedless arguments).namings = reading.namings := by
  rw [Reading.withNeedless]
  split <;> rfl

/-- What is named by a reading that fills slots first. -/
theorem mem_namings_flush {next : List Slot → Reading} {naming : Naming} :
    naming ∈ (flush slots row next).namings ↔
      naming ∈ (fill slots row).1 ∨ naming ∈ (next (fill slots row).2.1).namings := by
  simp [flush, Reading.after]

/-- Whether a reading never fills a slot without a word. -/
def Reading.Words (slot : Slot) (reading : Reading) : Prop :=
  ∀ naming ∈ reading.namings, naming ≠ .slot slot none

theorem Reading.words_stop (ending : Ending) : (stop ending).Words slot := by
  intro naming hnaming
  cases hnaming

/-- Options that are named before do not matter. -/
theorem Reading.Words.after {reading : Reading} {namings : List Naming} (h : reading.Words slot)
    (hnamings : ∀ naming ∈ namings, ∃ option value, naming = .option option value) :
    (reading.after namings).Words slot := by
  intro naming hnaming
  rcases List.mem_append.mp hnaming with hnaming | hnaming
  · obtain ⟨option, value, rfl⟩ := hnamings naming hnaming
    simp
  · exact h naming hnaming

theorem exists_of_mem_flags {options : List OptionSpec} {naming : Naming}
    (h : naming ∈ flags options) : ∃ option value, naming = .option option value := by
  obtain ⟨option, -, rfl⟩ := List.mem_map.mp h
  exact ⟨option, none, rfl⟩

theorem exists_of_mem_flags_concat {options : List OptionSpec} {last : OptionSpec}
    {value : Option WideText} {naming : Naming}
    (h : naming ∈ flags options ++ [.option last value]) :
    ∃ option value, naming = .option option value := by
  rcases List.mem_append.mp h with h | h
  · exact exists_of_mem_flags h
  · exact ⟨last, value, List.mem_singleton.mp h⟩

/-- Slots are filled from the row before an option, and the reading goes on with what is left. -/
theorem words_flush {next : List Slot → Reading} (hslot : slot.optional = false)
    (hothers : slot ∉ others) (hslots : slots <:+ slot :: others) (hrow : Separated row)
    (hnext : ∀ left, left <:+ slot :: others → (next left).Words slot) :
    (flush slots row next).Words slot := by
  intro naming hnaming
  rcases mem_namings_flush.mp hnaming with hnaming | hnaming
  · exact ne_slot_none_of_mem_fill hslot hothers hrow hslots hnaming
  · exact hnext _ (fill_slots.2.trans hslots) naming hnaming

/-- Before an option that follows another one, no slots are filled. -/
theorem words_next {next : List Slot → Reading} (hslot : slot.optional = false)
    (hothers : slot ∉ others) (hslots : slots <:+ slot :: others) (hrow : Separated row)
    (hnext : ∀ left, left <:+ slot :: others → (next left).Words slot) :
    (if row.isEmpty then next slots else flush slots row next).Words slot := by
  split
  · exact hnext slots hslots
  · exact words_flush hslot hothers hslots hrow hnext

/-- The induction is on the number of marks, as an option may take the next one with it. -/
theorem words_readMarks (hslot : slot.optional = false) (hothers : slot ∉ others)
    (hslots : slots <:+ slot :: others) (hmarks : Separated (row ++ marks)) :
    (grammar.readMarks slots row marks).Words slot := by
  induction hlength : marks.length using Nat.strongRecOn generalizing slots row marks with
  | _ length ih =>
    subst hlength
    cases marks with
    | nil =>
      rw [List.append_nil] at hmarks
      exact words_flush hslot hothers hslots hmarks fun left _ => Reading.words_stop _
    | cons mark marks =>
      have hstep : ∀ {marks'}, marks'.length < (mark :: marks).length → Separated marks' →
          ∀ left, left <:+ slot :: others → (grammar.readMarks left [] marks').Words slot :=
        fun hlt hrest left hleft => ih _ hlt hleft hrest rfl
      cases mark with
      | word | separator =>
        rw [readMarks]
        exact ih _ (Nat.lt_succ_self _) hslots (by simpa using hmarks) rfl
      | unknown text =>
        obtain ⟨hrow, hrest⟩ := hmarks.of_append rfl
        rw [readMarks]
        refine words_next hslot hothers hslots hrow fun left hleft naming hnaming => ?_
        rw [Reading.namings_withNeedless] at hnaming
        exact hstep (Nat.lt_succ_self _) hrest left hleft naming hnaming
      | option option byLongName value =>
        obtain ⟨hrow, hrest⟩ := hmarks.of_append rfl
        rw [readMarks.eq_def]
        refine words_next hslot hothers hslots hrow fun left hleft => ?_
        have hread := hstep (Nat.lt_succ_self _) hrest left hleft
        dsimp only
        split
        · exact Reading.words_stop _
        · exact hread.after fun naming => exists_of_mem_flags_concat
        · split
          · split
            · -- the value of the option is the next argument
              have hvalued := hstep (Nat.lt_succ_of_lt (Nat.lt_succ_self _)) hrest.2 left hleft
              exact hvalued.after fun naming => exists_of_mem_flags_concat
            · exact Reading.words_stop _
          · exact hread.after fun naming => exists_of_mem_flags

/-- **The word of the first slot.** However arguments are read, the first slot is not filled without
a word if it needs one. -/
theorem ne_slot_none_of_mem_read {naming : Naming} (hslots : grammar.slots = slot :: others)
    (hslot : slot.optional = false) (hothers : slot ∉ others)
    (h : naming ∈ (grammar.read arguments).namings) : naming ≠ .slot slot none := by
  rw [Grammar.read] at h
  split at h
  · cases h
  · next marks hmarks =>
    exact words_readMarks hslot hothers (hslots ▸ List.suffix_rfl)
      (separated_of_marks hmarks) naming h

end StubVector.Grammar
