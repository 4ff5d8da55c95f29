import StubVector.Text

/-!
# Lines

A text is cut into lines at ten line breaks and at the pair of a carriage return and a line feed,
which counts as one. The last line needs no terminator, and a final terminator starts no new line.

* `splitLines`: the lines of a text, without their terminators.
* `unifyNewlines`: the text with every carriage return, alone or before a line feed, read as a line
  feed, as a text file is read.
-/

namespace StubVector.Text

/-- Whether the character ends a line. -/
def isLineBreak (c : Char) : Bool :=
  let n := c.toNat
  (10 ≤ n && n ≤ 13) || (0x1C ≤ n && n ≤ 0x1E) || n == 0x85 || n == 0x2028 || n == 0x2029

/-- The lines of a text, without their terminators. -/
def splitLines : Text → List Text
  | [] => []
  | '\r' :: '\n' :: rest => [] :: splitLines rest
  | c :: rest =>
    if isLineBreak c then [] :: splitLines rest
    else
      match splitLines rest with
      | [] => [[c]]
      | line :: lines => (c :: line) :: lines

/-- Reads every carriage return, with a line feed after it or without, as one line feed. -/
def unifyNewlines : Text → Text
  | [] => []
  | '\r' :: '\n' :: rest => '\n' :: unifyNewlines rest
  | c :: rest => (if c = '\r' then '\n' else c) :: unifyNewlines rest

/-- No line holds a line break. -/
theorem not_isLineBreak_of_mem_splitLines {text line : Text} (h : line ∈ splitLines text) :
    ∀ c ∈ line, isLineBreak c = false := by
  fun_induction splitLines text generalizing line with
  | case1 => simp at h
  | case2 rest ih =>
    rcases List.mem_cons.mp h with rfl | h
    · simp
    · exact ih h
  | case3 c rest hpair hbreak ih =>
    rcases List.mem_cons.mp h with rfl | h
    · simp
    · exact ih h
  | case4 c rest hpair hbreak hnil ih =>
    simp only [List.mem_singleton] at h
    subst h
    simpa using hbreak
  | case5 c rest hpair hbreak first lines hsplit ih =>
    rw [hsplit] at ih
    rcases List.mem_cons.mp h with rfl | h
    · have := ih List.mem_cons_self
      simp_all
    · exact ih (List.mem_cons_of_mem _ h)

end StubVector.Text
