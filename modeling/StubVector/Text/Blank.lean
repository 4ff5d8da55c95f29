import StubVector.Text.Letter

/-!
# Blank characters

The characters that trimming removes: the white space of Unicode together with the four separator
controls U+001C to U+001F. Of these only the space U+0020 separates the fields of a definition line.

* `trim_eq`: trimming removes blanks at both ends and nothing else.
-/

namespace StubVector.Text

/-- Whether trimming removes the character. -/
def isBlank (c : Char) : Bool :=
  let n := c.toNat
  (9 ≤ n && n ≤ 13) || (0x1C ≤ n && n ≤ 0x20) || n == 0x85 || n == 0xA0 || n == 0x1680 ||
    (0x2000 ≤ n && n ≤ 0x200A) || n == 0x2028 || n == 0x2029 || n == 0x202F || n == 0x205F ||
    n == 0x3000

section Trimming

variable {α : Type} [Letter α]

/-- The text without the blanks it starts with. -/
def trimStart (text : List α) : List α := text.dropWhile fun a => isBlank (Letter.face a)

/-- The text without the blanks it ends with. -/
def trimEnd (text : List α) : List α :=
  (text.reverse.dropWhile fun a => isBlank (Letter.face a)).reverse

/-- The text without the blanks at both ends. -/
def trim (text : List α) : List α := trimEnd (trimStart text)

/-- A text is what trimming its start leaves, after blanks. -/
theorem trimStart_eq (text : List α) :
    ∃ blanks : List α, text = blanks ++ trimStart text ∧
      ∀ a ∈ blanks, isBlank (Letter.face a) = true := by
  have hblank : (text.takeWhile fun a => isBlank (Letter.face a)).all
      (fun a => isBlank (Letter.face a)) = true := List.all_takeWhile
  exact ⟨_, List.takeWhile_append_dropWhile.symm, List.all_eq_true.mp hblank⟩

/-- A text is what trimming its end leaves, before blanks. -/
theorem trimEnd_eq (text : List α) :
    ∃ blanks : List α, text = trimEnd text ++ blanks ∧
      ∀ a ∈ blanks, isBlank (Letter.face a) = true := by
  obtain ⟨blanks, heq, hblank⟩ := trimStart_eq text.reverse
  refine ⟨blanks.reverse, ?_, fun a ha => hblank a (List.mem_reverse.mp ha)⟩
  simpa [trimEnd, trimStart] using congrArg List.reverse heq

/-- A text is its trimmed form between blanks. -/
theorem trim_eq (text : List α) :
    ∃ front back : List α, text = front ++ trim text ++ back ∧
      (∀ a ∈ front, isBlank (Letter.face a) = true) ∧
      ∀ a ∈ back, isBlank (Letter.face a) = true := by
  obtain ⟨front, hfront, hf⟩ := trimStart_eq text
  obtain ⟨back, hback, hb⟩ := trimEnd_eq (trimStart text)
  exact ⟨front, back, by rw [trim, List.append_assoc, ← hback, ← hfront], hf, hb⟩

end Trimming

end StubVector.Text
