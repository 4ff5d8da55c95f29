import StubVector.Text.Units

/-!
# Letters

What a text may consist of. Characters are letters, and in wide text so are halves of pairs. A
header is read and text is generated from it in the same way whatever the letters are: they are
compared with characters, and a letter that is no character counts as the replacement character.

* `Letter`: what is asked of a kind of letters; `Char` is one.
* `Text.unlines`, `Text.padRight`: rows of letters with characters between or behind them.
-/

namespace StubVector

/-- What is shown of, and counts for, a letter that is no character. -/
def replacement : Char := '\uFFFD'

/-- A kind of letters: the characters, and possibly others. -/
class Letter (α : Type) where
  /-- The letter that a character is. -/
  ofChar : Char → α
  /-- A text of characters as a row of letters. -/
  ofText : Text → List α
  /-- The character as which a letter counts. -/
  face : α → Char
  /-- The sixteen-bit units of a letter. -/
  units : α → List Nat
  ofText_eq_map : ∀ text, ofText text = text.map ofChar
  face_ofChar : ∀ c, face (ofChar c) = c
  eq_ofChar : ∀ {a c}, face a = c → c ≠ replacement → a = ofChar c

namespace Letter

instance : Letter Char where
  ofChar := id
  ofText := id
  face := id
  units := Text.unitsOf
  ofText_eq_map text := (List.map_id text).symm
  face_ofChar _ := rfl
  eq_ofChar h _ := h

@[simp] theorem ofChar_char (c : Char) : (ofChar c : Char) = c := rfl

@[simp] theorem ofText_char (text : Text) : (ofText text : List Char) = text := rfl

@[simp] theorem face_char (c : Char) : face c = c := rfl

@[simp] theorem units_char (c : Char) : units c = Text.unitsOf c := rfl

end Letter

namespace Text

variable {α : Type} [Letter α]

/-- Every line followed by a line feed. -/
def unlines (lines : List (List α)) : List α :=
  lines.flatMap fun line => line ++ [Letter.ofChar '\n']

/-- Pads a text on the right with spaces to at least `width` letters. -/
def padRight (width : Nat) (text : List α) : List α :=
  text ++ List.replicate (width - text.length) (Letter.ofChar ' ')

end Text

end StubVector
