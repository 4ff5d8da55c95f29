import StubVector.Pipeline
import StubVector.Proofs.Definition.RoundTrip

/-!
# The stages of a run

A run reads and expands line by line. It succeeds exactly if all lines can be read and all
definitions on them be expanded, and then delivers what the two stages deliver one after the other
(`Pipeline.run_eq_ok_iff`, `generate_eq_ok_iff`). Where it is refused, init statements are so for
what the header is (`generate_init_eq_error_iff`).
-/

namespace StubVector

variable {α : Type}

namespace Pipeline

variable {β : Type} (pipeline : Pipeline β α)

theorem expandAll_cons_eq_ok_iff {definition : Definition α} {definitions : List (Definition α)}
    {out : List β} :
    pipeline.expandAll (definition :: definitions) = .ok out ↔
      ∃ pieces rest, pipeline.expand definition = .ok pieces ∧
        pipeline.expandAll definitions = .ok rest ∧ out = pieces ++ rest := by
  rw [expandAll]
  cases pipeline.expand definition with
  | error failure => simp
  | ok pieces => cases pipeline.expandAll definitions <;> simp [Except.map, eq_comm]

/-- Definitions in two parts are expanded one part after the other. -/
theorem expandAll_append_eq_ok_iff {front back : List (Definition α)} {out : List β} :
    pipeline.expandAll (front ++ back) = .ok out ↔
      ∃ first second, pipeline.expandAll front = .ok first ∧
        pipeline.expandAll back = .ok second ∧ out = first ++ second := by
  induction front generalizing out with
  | nil => simp [expandAll]
  | cons definition front ih =>
    rw [List.cons_append, expandAll_cons_eq_ok_iff]
    constructor
    · rintro ⟨pieces, rest, hpieces, hrest, rfl⟩
      obtain ⟨first, second, hfirst, hsecond, rfl⟩ := ih.mp hrest
      refine ⟨pieces ++ first, second, ?_, hsecond, (List.append_assoc ..).symm⟩
      exact pipeline.expandAll_cons_eq_ok_iff.mpr ⟨pieces, first, hpieces, hfirst, rfl⟩
    · rintro ⟨first, second, hfirst, hsecond, rfl⟩
      obtain ⟨pieces, rest, hpieces, hrest, rfl⟩ := pipeline.expandAll_cons_eq_ok_iff.mp hfirst
      exact ⟨pieces, rest ++ second, hpieces, ih.mpr ⟨rest, second, hrest, hsecond, rfl⟩,
        List.append_assoc ..⟩

variable [DecidableEq α] [Letter α]

theorem expandLinesAfter_cons_eq_ok_iff {path line : List α} {before : Nat} {lines : List (List α)}
    {out : List β} :
    pipeline.expandLinesAfter path before (line :: lines) = .ok out ↔
      ∃ found first second, Line.parse line (Header.sourceLine path before line) = .ok found ∧
        pipeline.expandAll found.toList = .ok first ∧
        pipeline.expandLinesAfter path (before + 1) lines = .ok second ∧ out = first ++ second := by
  rw [expandLinesAfter]
  cases Line.parse line (Header.sourceLine path before line) with
  | error failure => simp
  | ok found =>
    cases hfirst : pipeline.expandAll found.toList with
    | error failure => simp [hfirst]
    | ok first =>
      cases pipeline.expandLinesAfter path (before + 1) lines <;>
        simp [hfirst, Except.map, eq_comm]

/-- Expanding line by line gives what reading all lines and then expanding gives. -/
theorem expandLinesAfter_eq_ok_iff {path : List α} {before : Nat} {lines : List (List α)}
    {out : List β} :
    pipeline.expandLinesAfter path before lines = .ok out ↔
      ∃ definitions, Header.parseLinesAfter path before lines = .ok definitions ∧
        pipeline.expandAll definitions = .ok out := by
  induction lines generalizing before out with
  | nil =>
    constructor
    · intro h
      exact ⟨[], rfl, h⟩
    · rintro ⟨definitions, hread, hexpand⟩
      cases hread
      exact hexpand
  | cons line lines ih =>
    rw [expandLinesAfter_cons_eq_ok_iff]
    constructor
    · rintro ⟨found, first, second, hfound, hfirst, hsecond, rfl⟩
      obtain ⟨rest, hrest, hexpand⟩ := ih.mp hsecond
      exact ⟨found.toList ++ rest,
        Header.parseLinesAfter_cons_eq_ok_iff.mpr ⟨found, rest, hfound, hrest, rfl⟩,
        pipeline.expandAll_append_eq_ok_iff.mpr ⟨first, second, hfirst, hexpand, rfl⟩⟩
    · rintro ⟨definitions, hread, hexpand⟩
      obtain ⟨found, rest, hfound, hrest, rfl⟩ := Header.parseLinesAfter_cons_eq_ok_iff.mp hread
      obtain ⟨first, second, hfirst, hsecond, rfl⟩ :=
        pipeline.expandAll_append_eq_ok_iff.mp hexpand
      exact ⟨found, first, second, hfound, hfirst, ih.mpr ⟨rest, hrest, hsecond⟩, rfl⟩

/-- **A run is reading, then emitting.** -/
theorem run_eq_ok_iff {path : List α} {lines : List (List α)} {out : List β} :
    pipeline.run path lines = .ok out ↔
      ∃ definitions, Header.parseLines path lines = .ok definitions ∧
        pipeline.emit definitions = .ok out := by
  unfold run emit enclose Header.parseLines
  cases pipeline.opening with
  | error failure => simp
  | ok opening =>
    constructor
    · intro h
      cases hexpand : pipeline.expandLinesAfter path 0 lines with
      | error failure => rw [hexpand] at h; cases h
      | ok pieces =>
        obtain ⟨definitions, hread, hall⟩ := pipeline.expandLinesAfter_eq_ok_iff.mp hexpand
        refine ⟨definitions, hread, ?_⟩
        rw [hexpand] at h
        rw [hall]
        exact h
    · rintro ⟨definitions, hread, h⟩
      cases hall : pipeline.expandAll definitions with
      | error failure => rw [hall] at h; cases h
      | ok pieces =>
        rw [pipeline.expandLinesAfter_eq_ok_iff.mpr ⟨definitions, hread, hall⟩]
        rw [hall] at h
        exact h

end Pipeline

/-- **Generating is reading, then emitting.** The generated text is the emitted lines, each followed
by a line feed. -/
theorem generate_eq_ok_iff [DecidableEq α] [Letter α] {path text : List α} {lines : List (List α)}
    {kind mode : Selector} :
    generate path lines kind mode = .ok text ↔
      ∃ definitions out, Header.parseLines path lines = .ok definitions ∧
        emitLines definitions kind mode = .ok out ∧ text = Text.unlines out := by
  unfold generate emitLines
  cases Pipeline.ofKind (α := α) kind mode with
  | error failure => simp [Except.bind, Except.map]
  | ok pipeline =>
    simp only [Except.bind]
    constructor
    · intro h
      cases hrun : pipeline.run path lines with
      | error failure => rw [hrun] at h; cases h
      | ok out =>
        obtain ⟨definitions, hread, hemit⟩ := pipeline.run_eq_ok_iff.mp hrun
        rw [hrun] at h
        cases h
        exact ⟨definitions, out, hread, hemit, rfl⟩
    · rintro ⟨definitions, out, hread, hemit, rfl⟩
      rw [pipeline.run_eq_ok_iff.mpr ⟨definitions, hread, hemit⟩]
      rfl

section Init

variable [DecidableEq α] [Letter α]

/-- Every definition that is read becomes an init statement. -/
theorem expandLinesAfter_init (path : List α) (before : Nat) (lines : List (List α)) :
    Pipeline.init.expandLinesAfter path before lines =
      (Header.parseLinesAfter path before lines).map (List.map Fragment.initLine) := by
  induction lines generalizing before with
  | nil => rfl
  | cons line lines ih =>
    rw [Pipeline.expandLinesAfter, Header.parseLinesAfter]
    cases Line.parse line (Header.sourceLine path before line) with
    | error failure => rfl
    | ok found =>
      have hfound : Pipeline.init.expandAll found.toList =
          .ok (found.toList.map Fragment.initLine) := by
        cases found <;> rfl
      simp only [hfound]
      rw [ih]
      cases Header.parseLinesAfter path (before + 1) lines <;> simp [Except.map]

/-- Init statements are refused exactly if the header cannot be read, and for the same. -/
theorem generate_init_eq_error_iff {path : List α} {lines : List (List α)} {mode : Selector}
    {failure : Failure α} :
    generate path lines (.kind .init) mode = .error failure ↔
      Header.parseLines path lines = .error failure := by
  have hrun : generate path lines (.kind .init) mode =
      (Pipeline.init.run path lines).map Text.unlines := rfl
  rw [hrun, Pipeline.run, expandLinesAfter_init, Header.parseLines]
  cases Header.parseLinesAfter path 0 lines <;> simp [Pipeline.enclose, Pipeline.init, Except.map]

end Init

end StubVector
