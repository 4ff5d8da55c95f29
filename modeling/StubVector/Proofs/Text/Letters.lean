import StubVector.Text.Blank
import StubVector.Text.Numeral

/-!
# Maps of letters

A map from one kind of letters to another that keeps the characters, and as which character each
letter counts, commutes with all that is done to a text: with cutting it at a character, dropping
parts, trimming, and reading numerals. Only the replacement character is not looked for, since other
letters count as it.

* `Letter.Keeps`: such maps.
* `Letter.Keeps.cutAt?_map`, `dropFront?_map`, `dropBack?_map`, `trim_map`, `readDecimal_map`: they
  commute with the operations on a text.
-/

namespace StubVector

open Text

namespace Letter

variable {α β : Type} [Letter α] [Letter β] {φ : α → β}

/-- Whether a map keeps the characters, and as which character a letter counts. -/
structure Keeps (φ : α → β) : Prop where
  map_ofChar : ∀ c, φ (ofChar c) = ofChar c
  face_map : ∀ a, face (φ a) = face a

/-- Characters are letters of any kind. -/
theorem keeps_ofChar : Keeps (ofChar : Char → α) where
  map_ofChar _ := rfl
  face_map c := face_ofChar c

/-- A letter may be taken for the character as which it counts. -/
theorem keeps_face : Keeps (face : α → Char) where
  map_ofChar c := face_ofChar c
  face_map _ := rfl

namespace Keeps

variable (h : Keeps φ)
include h

@[simp] theorem ofText_map (text : Text) : (ofText text : List α).map φ = ofText text := by
  rw [ofText_eq_map, ofText_eq_map, List.map_map]
  exact List.map_congr_left fun c _ => h.map_ofChar c

theorem replicate_map (count : Nat) (c : Char) :
    (List.replicate count (ofChar c : α)).map φ = List.replicate count (ofChar c) := by
  rw [List.map_replicate, h.map_ofChar]

/-- A letter is a character exactly if what it is mapped to is. -/
theorem map_eq_ofChar_iff {a : α} {c : Char} (hc : c ≠ replacement) :
    φ a = ofChar c ↔ a = ofChar c := by
  constructor
  · intro heq
    refine eq_ofChar ?_ hc
    rw [← h.face_map, heq, face_ofChar]
  · rintro rfl
    exact h.map_ofChar c

section Cutting

variable [DecidableEq α] [DecidableEq β]

theorem cutAt?_map {c : Char} (hc : c ≠ replacement) (text : List α) :
    cutAt? (ofChar c) (text.map φ) =
      (cutAt? (ofChar c) text).map fun (before, after) => (before.map φ, after.map φ) := by
  induction text with
  | nil => rfl
  | cons a rest ih =>
    rw [List.map_cons, cutAt?, cutAt?]
    by_cases ha : a = ofChar c
    · rw [if_pos ha, if_pos ((h.map_eq_ofChar_iff hc).mpr ha)]
      rfl
    · rw [if_neg ha, if_neg (mt (h.map_eq_ofChar_iff hc).mp ha), ih]
      cases cutAt? (ofChar c) rest <;> rfl

/-- So does dropping what a text starts with, letter by letter. -/
theorem dropFront?_map_ofChar {part : Text} (hpart : replacement ∉ part) (text : List α) :
    dropFront? (part.map ofChar) (text.map φ) =
      (dropFront? (part.map ofChar) text).map (List.map φ) := by
  induction part generalizing text with
  | nil => rfl
  | cons c part ih =>
    rw [List.mem_cons, not_or] at hpart
    cases text with
    | nil => rfl
    | cons a text =>
      have hc : (ofChar c = φ a) ↔ ofChar c = a := by
        rw [eq_comm, h.map_eq_ofChar_iff (Ne.symm hpart.1), eq_comm]
      simp only [List.map_cons, dropFront?, hc, ih hpart.2]
      split <;> rfl

theorem dropFront?_map {part : Text} (hpart : replacement ∉ part) (text : List α) :
    dropFront? (ofText part) (text.map φ) = (dropFront? (ofText part) text).map (List.map φ) := by
  rw [ofText_eq_map, ofText_eq_map, h.dropFront?_map_ofChar hpart]

theorem dropBack?_map {part : Text} (hpart : replacement ∉ part) (text : List α) :
    dropBack? (ofText part) (text.map φ) = (dropBack? (ofText part) text).map (List.map φ) := by
  have hreverse : replacement ∉ part.reverse := by rwa [List.mem_reverse]
  rw [dropBack?, dropBack?, ofText_eq_map, ofText_eq_map, ← List.map_reverse, ← List.map_reverse,
    ← List.map_reverse, h.dropFront?_map_ofChar hreverse, Option.map_map, Option.map_map]
  congr 1
  funext rest
  exact (List.map_reverse).symm

end Cutting

/-! ## Trimming -/

theorem trimStart_map (text : List α) : trimStart (text.map φ) = (trimStart text).map φ := by
  rw [trimStart, trimStart, List.dropWhile_map]
  congr 2
  funext a
  exact congrArg isBlank (h.face_map a)

theorem trimEnd_map (text : List α) : trimEnd (text.map φ) = (trimEnd text).map φ := by
  have hreverse := h.trimStart_map text.reverse
  rw [trimStart, trimStart] at hreverse
  rw [trimEnd, trimEnd, ← List.map_reverse, hreverse, List.map_reverse]

theorem trim_map (text : List α) : trim (text.map φ) = (trim text).map φ := by
  rw [trim, trim, h.trimStart_map, h.trimEnd_map]

/-! ## Numerals and columns -/

theorem isDecimal_map (text : List α) : isDecimal (text.map φ) = isDecimal text := by
  rw [isDecimal, isDecimal, List.isEmpty_map, List.all_map]
  congr 2
  funext a
  exact congrArg Char.isDigit (h.face_map a)

theorem readDecimal_map (digits : List α) : readDecimal (digits.map φ) = readDecimal digits := by
  rw [readDecimal, readDecimal, List.foldl_map]
  simp only [h.face_map]

theorem padRight_map (width : Nat) (text : List α) :
    padRight width (text.map φ) = (padRight width text).map φ := by
  rw [padRight, padRight, List.map_append, h.replicate_map, List.length_map]

theorem unlines_map (lines : List (List α)) :
    unlines (lines.map (List.map φ)) = (unlines lines).map φ := by
  induction lines with
  | nil => rfl
  | cons line lines ih =>
    rw [unlines] at ih
    simp [unlines, h.map_ofChar, ih]

end Keeps

end Letter

end StubVector
