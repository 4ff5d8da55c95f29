import Mathlib.Data.List.TakeWhile
import StubVector.Text.Wide

/-!
# Wide text and text

Wide text is a text exactly if it is given as one (`asText_eq_ok_iff`). Unifying newlines does not
change its lines (`splitLines_unifyNewlines`), and they are those of the text as which its code
points count (`splitLines_map_face`).
-/

namespace StubVector.WideText

variable {wide : WideText} {text : Text} {kept : CodePoint → Bool}

/-- Nothing is refused exactly if every code point is kept. -/
theorem firstRow?_eq_none_iff : firstRow? kept wide = none ↔ ∀ point ∈ wide, kept point = true := by
  rw [← List.dropWhile_eq_nil_iff, firstRow?]
  cases wide.dropWhile kept <;> simp

/-- Code points that are all characters are a text. -/
theorem ofText_filterMap_char? (h : ∀ point ∈ wide, point.char?.isSome = true) :
    ofText (wide.filterMap CodePoint.char?) = wide := by
  induction wide with
  | nil => rfl
  | cons point wide ih =>
    rw [List.forall_mem_cons] at h
    cases point with
    | char c => simpa [CodePoint.char?] using ih h.2
    | half offset => exact absurd h.1 (by simp [CodePoint.char?])

theorem asText_eq_ok_iff : asText wide = .ok text ↔ wide = ofText text := by
  constructor
  · intro h
    rw [asText] at h
    split at h
    · cases h
    · next hnone =>
      cases h
      exact (ofText_filterMap_char? (firstRow?_eq_none_iff.mp hnone)).symm
  · rintro rfl
    exact asText_ofText text

/-- Unifying newlines does not change the lines. -/
theorem splitLines_unifyNewlines (wide : WideText) :
    splitLines (unifyNewlines wide) = splitLines wide := by
  fun_induction unifyNewlines wide with
  | case1 => rfl
  | case2 rest ih => simp [splitLines, CodePoint.char?, Text.isLineBreak, ih]
  | case3 point rest hpair ih =>
    rw [splitLines.eq_3 point rest hpair]
    by_cases hpoint : point = .char '\r'
    · have hbreak : (CodePoint.char '\r').char?.any Text.isLineBreak = true := by decide
      rw [if_pos hpoint, hpoint, if_pos hbreak, ← ih]
      simp [splitLines, CodePoint.char?, Text.isLineBreak]
    · rw [if_neg hpoint, splitLines.eq_3 point _ fun _ h _ => hpoint h, ih]

/-- No other code points count as a carriage return and a line feed. -/
theorem not_pair_map_face {point : CodePoint} {rest : WideText}
    (h : ∀ after, point = .char '\r' → rest = .char '\n' :: after → False) :
    ∀ after, Letter.face point = '\r' → rest.map Letter.face = '\n' :: after → False := by
  intro after hpoint hrest
  obtain ⟨next, others, rfl, hnext, -⟩ := List.map_eq_cons_iff.mp hrest
  have hfirst : point = .char '\r' := Letter.eq_ofChar hpoint (by decide)
  have hsecond : next = .char '\n' := Letter.eq_ofChar hnext (by decide)
  exact h others hfirst (hsecond ▸ rfl)

/-- A code point ends a line exactly if the character as which it counts does. -/
theorem isLineBreak_face (point : CodePoint) :
    Text.isLineBreak (Letter.face point) = point.char?.any Text.isLineBreak := by
  cases point with
  | char c => rfl
  | half offset =>
    change Text.isLineBreak replacement = false
    decide

/-- Wide text is cut into lines like the text of the characters as which its code points count. -/
theorem splitLines_map_face (wide : WideText) :
    Text.splitLines (wide.map Letter.face) = (splitLines wide).map (List.map Letter.face) := by
  fun_induction splitLines wide with
  | case1 => rfl
  | case2 rest ih => exact congrArg ([] :: ·) ih
  | case3 point rest hpair hbreak ih =>
    rw [List.map_cons, Text.splitLines.eq_3 _ _ (not_pair_map_face hpair), isLineBreak_face,
      if_pos hbreak, ih]
    rfl
  | case4 point rest hpair hbreak hnil ih =>
    rw [List.map_cons, Text.splitLines.eq_3 _ _ (not_pair_map_face hpair), isLineBreak_face,
      if_neg hbreak, ih, hnil]
    rfl
  | case5 point rest hpair hbreak line lines hsplit ih =>
    rw [List.map_cons, Text.splitLines.eq_3 _ _ (not_pair_map_face hpair), isLineBreak_face,
      if_neg hbreak, ih, hsplit]
    rfl

end StubVector.WideText
