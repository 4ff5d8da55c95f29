import StubVector.Definition.Header
import StubVector.Proofs.Text.Lines

/-!
# Terminated lines

A text is written from lines by putting one of eleven terminators behind each of them; a last line
that is not empty may stand without one. Cutting the text gives the lines back exactly if no lone
carriage return stands directly before a line feed, since the two would be read as one terminator.
So it does not matter to a header how its lines are terminated.

* `Terminator.text`: the terminators as text, which are the line breaks and one pair.
* `Unambiguous`: no lone carriage return stands directly before a line feed.
* `splitLines_writtenText_iff`: **when the lines of a text are the lines it was written from**.
* `Header.parseText_writtenText`: **line ends do not matter to a header**.
-/

namespace StubVector

namespace Text

/-- What ends a line. -/
inductive Terminator where
  | lineFeed
  | carriageReturn
  /-- A carriage return and a line feed. -/
  | pair
  | lineTabulation
  | formFeed
  | fileSeparator
  | groupSeparator
  | recordSeparator
  | nextLine
  | lineSeparator
  | paragraphSeparator
  deriving DecidableEq, Repr

/-- A terminator as it stands in a text. -/
def Terminator.text : Terminator → Text
  | lineFeed => ['\n']
  | carriageReturn => ['\r']
  | pair => ['\r', '\n']
  | lineTabulation => [Char.ofNat 0x0B]
  | formFeed => [Char.ofNat 0x0C]
  | fileSeparator => [Char.ofNat 0x1C]
  | groupSeparator => [Char.ofNat 0x1D]
  | recordSeparator => [Char.ofNat 0x1E]
  | nextLine => [Char.ofNat 0x85]
  | lineSeparator => [Char.ofNat 0x2028]
  | paragraphSeparator => [Char.ofNat 0x2029]

/-- A line and what ends it. -/
structure TerminatedLine where
  line : Text
  terminator : Terminator
  deriving DecidableEq, Repr

/-- Terminated lines one after the other, and `last`, which no terminator follows. -/
def writtenText (terminated : List TerminatedLine) (last : Text) : Text :=
  (terminated.flatMap fun entry => entry.line ++ entry.terminator.text) ++ last

/-- The lines that a text is written from. What no terminator follows is a line unless it is empty.
-/
def writtenLines (terminated : List TerminatedLine) (last : Text) : List Text :=
  terminated.map (·.line) ++ if last = [] then [] else [last]

/-- No lone carriage return stands directly before a line feed. -/
def Unambiguous (terminated : List TerminatedLine) (last : Text) : Prop :=
  ∀ front line rest, terminated = front ++ ⟨line, .carriageReturn⟩ :: rest →
    (writtenText rest last).head? ≠ some '\n'

variable {entry : TerminatedLine} {terminated : List TerminatedLine} {line last rest : Text}

/-! ## Terminators -/

/-- Apart from the pair, every terminator is a line break. -/
theorem exists_break_of_ne_pair {terminator : Terminator} (h : terminator ≠ .pair) :
    ∃ c, terminator.text = [c] ∧ isLineBreak c = true ∧
      (c = '\r' → terminator = .carriageReturn) := by
  cases terminator with
  | pair => exact absurd rfl h
  | lineFeed | carriageReturn | lineTabulation | formFeed | fileSeparator | groupSeparator
  | recordSeparator | nextLine | lineSeparator | paragraphSeparator =>
    exact ⟨_, rfl, by decide, by decide⟩

/-- A line break ends an empty line, unless it is the first half of the pair. -/
theorem splitLines_break_cons {c : Char} (hbreak : isLineBreak c = true)
    (hpair : c = '\r' → rest.head? ≠ some '\n') :
    splitLines (c :: rest) = [] :: splitLines rest := by
  rw [splitLines.eq_3 c rest, if_pos hbreak]
  rintro after hc rfl
  exact hpair hc rfl

/-- A terminator ends an empty line, unless a line feed makes it the first half of the pair. -/
theorem splitLines_terminator_append {terminator : Terminator}
    (h : terminator = .carriageReturn → rest.head? ≠ some '\n') :
    splitLines (terminator.text ++ rest) = [] :: splitLines rest := by
  by_cases hpair : terminator = .pair
  · subst hpair
    simp [Terminator.text, splitLines]
  · obtain ⟨c, htext, hbreak, hreturn⟩ := exists_break_of_ne_pair hpair
    rw [htext, List.singleton_append]
    exact splitLines_break_cons hbreak fun hc => h (hreturn hc)

/-! ## Lines written and cut again -/

/-- An unbroken text is a single line, unless it is empty. -/
theorem splitLines_of_unbroken (h : Unbroken last) :
    splitLines last = if last = [] then [] else [last] := by
  induction last with
  | nil => rfl
  | cons c last ih =>
    obtain ⟨hc, hlast⟩ := unbroken_cons_iff.mp h
    have hne : c ≠ '\r' := by
      rintro rfl
      exact absurd hc (by decide)
    rw [splitLines.eq_3 _ _ fun _ h _ => hne h, ih hlast]
    by_cases hnil : last = [] <;> simp [hc, hnil]

/-! ## Whole texts -/

theorem writtenText_cons (entry : TerminatedLine) (terminated : List TerminatedLine)
    (last : Text) : writtenText (entry :: terminated) last =
      entry.line ++ (entry.terminator.text ++ writtenText terminated last) := by
  simp [writtenText]

theorem writtenLines_cons (entry : TerminatedLine) (terminated : List TerminatedLine)
    (last : Text) :
    writtenLines (entry :: terminated) last = entry.line :: writtenLines terminated last := rfl

/-- The terminator of the first line and what follows it are read as one. -/
def Merges (entry : TerminatedLine) (terminated : List TerminatedLine) (last : Text) : Prop :=
  entry.terminator = .carriageReturn ∧ (writtenText terminated last).head? = some '\n'

instance (entry : TerminatedLine) (terminated : List TerminatedLine) (last : Text) :
    Decidable (Merges entry terminated last) := inferInstanceAs (Decidable (_ ∧ _))

theorem unambiguous_nil : Unambiguous [] last := by
  intro front line rest heq
  simp at heq

theorem unambiguous_cons_iff : Unambiguous (entry :: terminated) last ↔
    ¬ Merges entry terminated last ∧ Unambiguous terminated last := by
  constructor
  · intro h
    refine ⟨?_, fun front line rest heq => ?_⟩
    · rintro ⟨hreturn, hfeed⟩
      exact h [] entry.line terminated (by rw [← hreturn]; rfl) hfeed
    · exact h (entry :: front) line rest (by rw [heq]; rfl)
  · rintro ⟨hfirst, hrest⟩ front line rest heq hfeed
    cases front with
    | nil =>
      obtain ⟨rfl, rfl⟩ := List.cons.inj heq
      exact hfirst ⟨rfl, hfeed⟩
    | cons other front => exact hrest front line rest (List.cons.inj heq).2 hfeed

instance decidableUnambiguous (last : Text) :
    (terminated : List TerminatedLine) → Decidable (Unambiguous terminated last)
  | [] => isTrue unambiguous_nil
  | _ :: terminated =>
    have := decidableUnambiguous last terminated
    decidable_of_iff _ unambiguous_cons_iff.symm

/-- A first line is read apart from the others. -/
theorem splitLines_writtenText_cons (hline : Unbroken entry.line)
    (h : ¬ Merges entry terminated last) :
    splitLines (writtenText (entry :: terminated) last) =
      entry.line :: splitLines (writtenText terminated last) := by
  rw [writtenText_cons]
  refine splitLines_append_of_eq_cons hline (splitLines_terminator_append fun hreturn hfeed => ?_)
  exact h ⟨hreturn, hfeed⟩

/-- A first line whose terminator merges takes the empty line after it along. -/
theorem exists_splitLines_of_merges (hline : Unbroken entry.line)
    (h : Merges entry terminated last) :
    ∃ others, splitLines (writtenText (entry :: terminated) last) = entry.line :: others ∧
      splitLines (writtenText terminated last) = [] :: others := by
  obtain ⟨hreturn, hfeed⟩ := h
  obtain ⟨rest, hrest⟩ := List.head?_eq_some_iff.mp hfeed
  refine ⟨splitLines rest, ?_, ?_⟩
  · rw [writtenText_cons, hreturn, hrest]
    exact splitLines_append_of_eq_cons hline rfl
  · rw [hrest, splitLines_break_cons (by decide) fun hc => absurd hc (by decide)]

/-- No text has more lines than it was written from. -/
theorem length_splitLines_writtenText_le (hlines : ∀ entry ∈ terminated, Unbroken entry.line)
    (hlast : Unbroken last) :
    (splitLines (writtenText terminated last)).length ≤ (writtenLines terminated last).length := by
  induction terminated with
  | nil => exact Nat.le_of_eq (congrArg List.length (splitLines_of_unbroken hlast))
  | cons entry terminated ih =>
    rw [List.forall_mem_cons] at hlines
    have hle := ih hlines.2
    rw [writtenLines_cons, List.length_cons]
    by_cases hmerges : Merges entry terminated last
    · obtain ⟨others, hcut, hothers⟩ := exists_splitLines_of_merges hlines.1 hmerges
      rw [hothers, List.length_cons] at hle
      rw [hcut, List.length_cons]
      omega
    · rw [splitLines_writtenText_cons hlines.1 hmerges, List.length_cons]
      omega

/-- **Cutting undoes writing.** The lines of a text are the lines that it was written from exactly
if no lone carriage return stands directly before a line feed. -/
theorem splitLines_writtenText_iff (hlines : ∀ entry ∈ terminated, Unbroken entry.line)
    (hlast : Unbroken last) :
    splitLines (writtenText terminated last) = writtenLines terminated last ↔
      Unambiguous terminated last := by
  induction terminated with
  | nil => exact iff_of_true (splitLines_of_unbroken hlast) unambiguous_nil
  | cons entry terminated ih =>
    rw [List.forall_mem_cons] at hlines
    rw [unambiguous_cons_iff, ← ih hlines.2, writtenLines_cons]
    by_cases hmerges : Merges entry terminated last
    · -- the empty line between the two halves of the pair is lost, and nothing makes up for it
      obtain ⟨others, hcut, hothers⟩ := exists_splitLines_of_merges hlines.1 hmerges
      have hle := length_splitLines_writtenText_le hlines.2 hlast
      rw [hothers, List.length_cons] at hle
      simp only [hcut, List.cons.injEq, true_and, hmerges, not_true_eq_false, false_and, iff_false]
      rintro rfl
      omega
    · rw [splitLines_writtenText_cons hlines.1 hmerges]
      simp [hmerges]

end Text

/-! ## Headers -/

namespace Header

open Text

/-- **Line ends do not matter to a header.** A text that is written from unbroken lines, each with
any of the terminators behind it, and none necessarily behind a last line that is not empty, is read
as these lines are: it gives the same definitions, with the same line numbers and source texts, or
the same failure. Only a lone carriage return directly before a line feed would be misread. -/
theorem parseText_writtenText (terminated : List TerminatedLine) (last : Text)
    (hlines : ∀ entry ∈ terminated, Unbroken entry.line) (hlast : Unbroken last) :
    (Unambiguous terminated last → ∀ path,
      parseText path (writtenText terminated last) =
        parseLines path (writtenLines terminated last)) ∧
    (splitLines (writtenText terminated last) = writtenLines terminated last ↔
      Unambiguous terminated last) := by
  have hiff := splitLines_writtenText_iff hlines hlast
  refine ⟨fun h path => ?_, hiff⟩
  rw [parseText, hiff.mpr h]

/-- Three terminators, and a faulty last line without one: its failure names the fourth line. -/
theorem parseText_writtenText_fourth_line :
    parseText [] (writtenText [⟨"#define ZIS_STUB_A 1 /* f */".toList, .carriageReturn⟩,
      ⟨[], .pair⟩, ⟨['x'], .nextLine⟩] "#define ZIS_STUB_B".toList) =
        .error (.faulty .badDefine ⟨[], 4, "#define ZIS_STUB_B".toList⟩) := by
  have hread := (parseText_writtenText
    [⟨"#define ZIS_STUB_A 1 /* f */".toList, .carriageReturn⟩, ⟨[], .pair⟩, ⟨['x'], .nextLine⟩]
    "#define ZIS_STUB_B".toList (by decide) (by decide)).1 (by decide) []
  exact hread.trans rfl

end Header

end StubVector
