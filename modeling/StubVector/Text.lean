/-!
# Text

Text is the sequence of its code points. Positions, widths and cuts count code points.

* `Text.cutAt?`: the part before the first occurrence of a character, and the part after it.
* `Text.dropFront?` and `Text.dropBack?`: the rest of a text that starts, or ends, with a given
  part.
* `Text.occursIn`: whether a part occurs anywhere in a text.
-/

namespace StubVector

/-- Text, as the sequence of its code points. -/
abbrev Text := List Char

namespace Text

/-! ## Cutting

These hold for a row of anything that can be told apart, such as the code points of arguments. -/

section Cutting

variable {α : Type} [DecidableEq α]

/-- Cuts a text at the first `c`: the part before it and the part after it, if `c` occurs at all. -/
def cutAt? (c : α) : List α → Option (List α × List α)
  | [] => none
  | d :: rest =>
    if d = c then some ([], rest)
    else (cutAt? c rest).map fun (before, after) => (d :: before, after)

/-- What follows `part` in a text that starts with it. -/
def dropFront? : (part : List α) → List α → Option (List α)
  | [], text => some text
  | _ :: _, [] => none
  | p :: part, c :: text => if p = c then dropFront? part text else none

/-- What precedes `part` in a text that ends with it. -/
def dropBack? (part text : List α) : Option (List α) :=
  (dropFront? part.reverse text.reverse).map List.reverse

/-- Whether a text starts with `part`. -/
def startsWith (part text : List α) : Bool := (dropFront? part text).isSome

/-- Whether a text ends with `part`. -/
def endsWith (part text : List α) : Bool := (dropBack? part text).isSome

/-- Whether `part` occurs somewhere in a text. -/
def occursIn (part : List α) : List α → Bool
  | [] => startsWith part []
  | c :: text => startsWith part (c :: text) || occursIn part text

/-! Cutting and dropping lose nothing. -/

theorem cutAt?_eq_some {c : α} {text before after : List α}
    (h : cutAt? c text = some (before, after)) : text = before ++ c :: after ∧ c ∉ before := by
  induction text generalizing before after with
  | nil => simp [cutAt?] at h
  | cons d rest ih =>
    by_cases hd : d = c
    · simp only [cutAt?, hd, if_true, Option.some.injEq, Prod.mk.injEq] at h
      simp [← h.1, ← h.2, hd]
    · simp only [cutAt?, hd, if_false, Option.map_eq_some_iff, Prod.mk.injEq, Prod.exists] at h
      obtain ⟨b, a, hcut, rfl, rfl⟩ := h
      obtain ⟨rfl, hmem⟩ := ih hcut
      refine ⟨rfl, ?_⟩
      simp only [List.mem_cons, not_or]
      exact ⟨fun hc => hd hc.symm, hmem⟩

theorem cutAt?_append {c : α} {before : List α} (h : c ∉ before) (after : List α) :
    cutAt? c (before ++ c :: after) = some (before, after) := by
  induction before with
  | nil => simp [cutAt?]
  | cons d rest ih =>
    simp only [List.mem_cons, not_or] at h
    simp [cutAt?, Ne.symm h.1, ih h.2]

theorem dropFront?_eq_some_iff {part text rest : List α} :
    dropFront? part text = some rest ↔ text = part ++ rest := by
  induction part generalizing text with
  | nil => simp [dropFront?]
  | cons p part ih =>
    cases text with
    | nil => simp [dropFront?]
    | cons c text =>
      by_cases hp : p = c
      · simp [dropFront?, hp, ih]
      · simp [dropFront?, hp, Ne.symm hp]

theorem dropBack?_eq_some_iff {part text rest : List α} :
    dropBack? part text = some rest ↔ text = rest ++ part := by
  simp only [dropBack?, Option.map_eq_some_iff, dropFront?_eq_some_iff]
  constructor
  · rintro ⟨r, hr, rfl⟩
    rw [← List.reverse_reverse text, hr]
    simp
  · rintro rfl
    exact ⟨rest.reverse, by simp, by simp⟩

/-! What is looked for is found where it stands. -/

theorem startsWith_iff {part text : List α} : startsWith part text = true ↔ part <+: text := by
  rw [startsWith, Option.isSome_iff_exists]
  exact exists_congr fun rest => dropFront?_eq_some_iff.trans eq_comm

theorem occursIn_iff {part text : List α} : occursIn part text = true ↔ part <:+: text := by
  induction text with
  | nil => rw [occursIn, startsWith_iff, List.prefix_nil, List.infix_nil]
  | cons c text ih => rw [occursIn, Bool.or_eq_true, startsWith_iff, ih, List.infix_cons_iff]

end Cutting

/-! ## Filling up -/

/-- Pads a text on the left with `c` to at least `width` code points. -/
def padLeft (c : Char) (width : Nat) (text : Text) : Text :=
  List.replicate (width - text.length) c ++ text

/-- A number in lower-case hexadecimal digits, with zeros in front up to `width` digits. -/
def hexOf (width n : Nat) : Text := padLeft '0' width (Nat.toDigits 16 n)

end Text

end StubVector
