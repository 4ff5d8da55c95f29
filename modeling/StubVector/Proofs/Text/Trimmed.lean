import Mathlib.Data.List.DropRight
import StubVector.Text.Blank

/-!
# Trimmed text

A text is trimmed if it neither starts nor ends with a blank. Trimming gives such a text
(`trimmed_trim`), and finds it again between blanks (`trim_between`).
-/

namespace StubVector.Text

/-- The text does not start with a blank. -/
def StartsVisible (text : Text) : Prop := ∀ c ∈ text.head?, isBlank c = false

instance (text : Text) : Decidable (StartsVisible text) :=
  Option.decidableForallMem text.head?

/-- The text does not end with a blank. -/
def EndsVisible (text : Text) : Prop := ∀ c ∈ text.getLast?, isBlank c = false

instance (text : Text) : Decidable (EndsVisible text) :=
  Option.decidableForallMem text.getLast?

/-- The text neither starts nor ends with a blank. -/
def Trimmed (text : Text) : Prop := StartsVisible text ∧ EndsVisible text

instance (text : Text) : Decidable (Trimmed text) :=
  inferInstanceAs (Decidable (StartsVisible text ∧ EndsVisible text))

/-- All characters of the text are blanks. -/
def Blanks (text : Text) : Prop := ∀ c ∈ text, isBlank c = true

section Ends

variable {text more part blanks : Text}

theorem startsVisible_nil : StartsVisible [] := by simp [StartsVisible]

theorem endsVisible_nil : EndsVisible [] := by simp [EndsVisible]

theorem startsVisible_cons_iff {c : Char} : StartsVisible (c :: text) ↔ isBlank c = false := by
  simp [StartsVisible]

theorem endsVisible_concat_iff {c : Char} : EndsVisible (text ++ [c]) ↔ isBlank c = false := by
  simp [EndsVisible]

theorem endsVisible_iff_reverse : EndsVisible text ↔ StartsVisible text.reverse := by
  simp [EndsVisible, StartsVisible]

theorem StartsVisible.append (h : StartsVisible text) (hne : text ≠ []) :
    StartsVisible (text ++ more) := by
  obtain ⟨c, rest, rfl⟩ := List.exists_cons_of_ne_nil hne
  exact h

/-- A beginning of a text starts as the text does. -/
theorem StartsVisible.of_isPrefix (h : StartsVisible text) (hp : part <+: text) :
    StartsVisible part := by
  obtain ⟨more, rfl⟩ := hp
  cases part with
  | nil => exact startsVisible_nil
  | cons c part => exact h

theorem blanks_nil : Blanks [] := by simp [Blanks]

theorem Blanks.append (h : Blanks blanks) (hm : Blanks more) : Blanks (blanks ++ more) := by
  intro c hc
  rcases List.mem_append.mp hc with hc | hc
  · exact h c hc
  · exact hm c hc

/-- A text that starts visibly and consists of blanks is empty. -/
theorem StartsVisible.eq_nil_of_blanks (h : StartsVisible text) (hb : Blanks text) : text = [] := by
  cases text with
  | nil => rfl
  | cons c text =>
    have hc := hb c List.mem_cons_self
    rw [startsVisible_cons_iff.mp h] at hc
    exact absurd hc (by decide)

end Ends

/-! ## Trimming one end -/

section OneEnd

variable {text blanks : Text}

theorem trimStart_of_startsVisible (h : StartsVisible text) : trimStart text = text := by
  cases text with
  | nil => rfl
  | cons c text => simp [trimStart, startsVisible_cons_iff.mp h]

theorem trimEnd_of_endsVisible (h : EndsVisible text) : trimEnd text = text := by
  have hr := trimStart_of_startsVisible (endsVisible_iff_reverse.mp h)
  rw [trimStart] at hr
  rw [trimEnd, hr, List.reverse_reverse]

theorem trimStart_blanks_append (h : Blanks blanks) : trimStart (blanks ++ text) = trimStart text :=
  List.dropWhile_append_of_pos h

theorem trimEnd_append_blanks (h : Blanks blanks) : trimEnd (text ++ blanks) = trimEnd text := by
  have hr : Blanks blanks.reverse := fun c hc => h c (List.mem_reverse.mp hc)
  have hdrop : trimStart (blanks.reverse ++ text.reverse) = trimStart text.reverse :=
    trimStart_blanks_append hr
  rw [trimStart, trimStart] at hdrop
  rw [trimEnd, List.reverse_append, hdrop, trimEnd]

theorem startsVisible_trimStart (text : Text) : StartsVisible (trimStart text) := by
  intro c hc
  have hne : trimStart text ≠ [] := by rintro h; simp [h] at hc
  have hnot := List.head_dropWhile_not isBlank hne
  rw [List.head?_eq_some_head hne] at hc
  cases hc
  exact hnot

theorem endsVisible_trimEnd (text : Text) : EndsVisible (trimEnd text) := by
  rw [endsVisible_iff_reverse, trimEnd, List.reverse_reverse]
  exact startsVisible_trimStart text.reverse

theorem trimEnd_isPrefix (text : Text) : trimEnd text <+: text :=
  List.rdropWhile_prefix isBlank text

/-- Trimming the end of a text that starts visibly leaves some of it. -/
theorem trimEnd_ne_nil (h : StartsVisible text) (hne : text ≠ []) : trimEnd text ≠ [] := by
  intro hnil
  obtain ⟨blanks, heq, hblanks⟩ := trimEnd_eq text
  rw [hnil, List.nil_append] at heq
  exact hne (h.eq_nil_of_blanks (heq ▸ hblanks))

end OneEnd

/-! ## Trimming both ends -/

section BothEnds

variable {text front back : Text}

theorem trimmed_trim (text : Text) : Trimmed (trim text) :=
  ⟨(startsVisible_trimStart text).of_isPrefix (trimEnd_isPrefix _), endsVisible_trimEnd _⟩

/-- Trimming finds a trimmed text between blanks. -/
theorem trim_between (hf : Blanks front) (h : Trimmed text) (hb : Blanks back) :
    trim (front ++ text ++ back) = text := by
  rw [trim, List.append_assoc, trimStart_blanks_append hf]
  cases text with
  | nil =>
    rw [List.nil_append, ← List.append_nil back, trimStart_blanks_append hb]
    rfl
  | cons c text =>
    rw [trimStart_of_startsVisible (h.1.append (List.cons_ne_nil c text)),
      trimEnd_append_blanks hb, trimEnd_of_endsVisible h.2]

/-- Trimming leaves nothing of blanks alone. -/
theorem trim_eq_nil_iff : trim text = [] ↔ Blanks text := by
  constructor
  · intro h
    obtain ⟨front, back, heq, hf, hb⟩ := trim_eq text
    rw [h, List.append_nil] at heq
    rw [heq]
    exact Blanks.append hf hb
  · intro h
    have := trim_between h ⟨startsVisible_nil, endsVisible_nil⟩ blanks_nil
    simpa using this

theorem mem_of_mem_trim {c : Char} (h : c ∈ trim text) : c ∈ text := by
  obtain ⟨front, back, heq, -, -⟩ := trim_eq text
  rw [heq]
  simp [h]

/-- Blanks in front of a text that starts visibly are what the text starts with. -/
theorem takeWhile_isBlank_append (hf : Blanks front) (h : StartsVisible text) :
    (front ++ text).takeWhile isBlank = front := by
  rw [List.takeWhile_append_of_pos hf]
  cases text with
  | nil => simp
  | cons c text => simp [startsVisible_cons_iff.mp h]

end BothEnds

end StubVector.Text
