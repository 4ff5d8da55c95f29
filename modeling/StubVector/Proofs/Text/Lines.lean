import StubVector.Text.Blank
import StubVector.Text.Lines

/-!
# Lines put together and cut again

A text is unbroken if it holds no line break. Unbroken lines, each followed by a line feed, are cut
again into the same lines (`splitLines_unlines`).
-/

namespace StubVector.Text

/-- The text holds no line break. -/
def Unbroken (text : Text) : Prop := ∀ c ∈ text, isLineBreak c = false

instance (text : Text) : Decidable (Unbroken text) :=
  List.decidableBAll (isLineBreak · = false) text

section Unbroken

variable {text more part : Text}

@[simp]
theorem unbroken_cons_iff {c : Char} :
    Unbroken (c :: text) ↔ isLineBreak c = false ∧ Unbroken text := by
  simp [Unbroken]

@[simp]
theorem unbroken_append_iff : Unbroken (text ++ more) ↔ Unbroken text ∧ Unbroken more := by
  simp only [Unbroken, List.mem_append, or_imp, forall_and]

theorem Unbroken.append (h : Unbroken text) (hm : Unbroken more) : Unbroken (text ++ more) :=
  unbroken_append_iff.mpr ⟨h, hm⟩

theorem Unbroken.mono (h : Unbroken text) (hsub : part ⊆ text) : Unbroken part :=
  fun c hc => h c (hsub hc)

/-- Every line break is a blank. -/
theorem isBlank_of_isLineBreak {c : Char} (h : isLineBreak c = true) : isBlank c = true := by
  simp only [isLineBreak, Bool.or_eq_true, Bool.and_eq_true, decide_eq_true_eq, beq_iff_eq] at h
  simp only [isBlank, Bool.or_eq_true, Bool.and_eq_true, decide_eq_true_eq, beq_iff_eq]
  omega

theorem isLineBreak_eq_false_of_visible {c : Char} (h : isBlank c = false) :
    isLineBreak c = false := by
  rw [Bool.eq_false_iff] at h ⊢
  exact mt isBlank_of_isLineBreak h

theorem unbroken_of_mem_splitLines {line : Text} (h : line ∈ splitLines text) : Unbroken line :=
  not_isLineBreak_of_mem_splitLines h

end Unbroken

/-- Where an empty line would end, an unbroken line in front of it ends. -/
theorem splitLines_append_of_eq_cons {line rest : Text} {lines : List Text} (hline : Unbroken line)
    (hrest : splitLines rest = [] :: lines) : splitLines (line ++ rest) = line :: lines := by
  induction line with
  | nil => exact hrest
  | cons c line ih =>
    obtain ⟨hc, hline⟩ := unbroken_cons_iff.mp hline
    have hne : c ≠ '\r' := by
      rintro rfl
      exact absurd hc (by decide)
    rw [List.cons_append, splitLines.eq_3 _ _ fun _ h _ => hne h]
    simp [hc, ih hline]

/-- An unbroken line ends at the line feed after it. -/
theorem splitLines_append_lineFeed {line : Text} (h : Unbroken line) (rest : Text) :
    splitLines (line ++ '\n' :: rest) = line :: splitLines rest :=
  splitLines_append_of_eq_cons h (by simp [splitLines, isLineBreak])

/-- Unbroken lines are cut at the line feeds after them. -/
theorem splitLines_unlines {lines : List Text} (h : ∀ line ∈ lines, Unbroken line) :
    splitLines (unlines lines) = lines := by
  induction lines with
  | nil => rfl
  | cons line lines ih =>
    have hline := h line List.mem_cons_self
    have hlines := ih fun other hother => h other (List.mem_cons_of_mem line hother)
    have heq : unlines (line :: lines) = line ++ '\n' :: unlines lines := by simp [unlines]
    rw [heq, splitLines_append_lineFeed hline, hlines]

end StubVector.Text
