import StubVector.Proofs.Definition.Rejection
import StubVector.Proofs.Fragment.Routine

/-!
# The first offence

A line offends if it cannot be read, or if the definition on it is out of reach of what is
generated. Errors arise while lines are read and while definitions are expanded, and both happen
line by line, so that the first line that offends decides the failure of a run.

* `Offence reach source failure`: the line `source` offends with `failure`; `reach` tells which
  definitions are in reach.
* `FirstOffence reach sources n failure`: so does the line after `n` others, and none of these does.
* `Pipeline.Serves`: a pipeline expands the definitions in reach and refuses the others.
* `expandLinesAfter_eq_error_iff`: such a pipeline fails exactly with the first offence.
* `serves_definitions`, `serves_init`, `serves_routines`: what the pipelines of the generator serve.
-/

namespace StubVector

open Fragment

/-! ## Lines with their places -/

namespace Header

/-- Lines that follow `before` lines of the same file, each with its place. -/
def sourceLinesAfter (path : Text) (before : Nat) (lines : List Text) : List SourceLine :=
  lines.mapIdx fun i line => sourceLine path (before + i) line

/-- The lines of a header, each with its place. -/
def sourceLines (path : Text) (lines : List Text) : List SourceLine := sourceLinesAfter path 0 lines

theorem sourceLinesAfter_cons (path : Text) (before : Nat) (line : Text) (lines : List Text) :
    sourceLinesAfter path before (line :: lines) =
      sourceLine path before line :: sourceLinesAfter path (before + 1) lines := by
  simp [sourceLinesAfter, Nat.add_assoc, Nat.add_comm 1]

theorem getElem?_sourceLines_eq_some_iff {path : Text} {lines : List Text} {n : Nat}
    {source : SourceLine} : (sourceLines path lines)[n]? = some source ↔
      ∃ line, lines[n]? = some line ∧ source = { path, lineNumber := n + 1, text := line } := by
  simp only [sourceLines, sourceLinesAfter, sourceLine, List.getElem?_mapIdx,
    Option.map_eq_some_iff, Nat.zero_add]
  exact exists_congr fun line => and_congr_right fun _ => eq_comm

end Header

/-! ## Offences -/

/-- Why a line offends. -/
inductive Offence (reach : Definition → Prop) (source : SourceLine) : Failure → Prop where
  /-- The line cannot be read. -/
  | unreadable {failure : Failure} (h : Line.parse source.text source = .error failure) :
    Offence reach source failure
  /-- The definition on the line is out of reach. -/
  | outOfReach {definition : Definition}
    (h : Line.parse source.text source = .ok (some definition)) (hreach : ¬ reach definition) :
    Offence reach source (.faulty .indexOutOfRange source)

/-- The line does not offend. -/
def Clean (reach : Definition → Prop) (source : SourceLine) : Prop :=
  ∀ failure, ¬ Offence reach source failure

/-- The line after the first `n` offends, and none of these does. -/
structure FirstOffence (reach : Definition → Prop) (sources : List SourceLine) (n : Nat)
    (failure : Failure) : Prop where
  offence : ∃ source, sources[n]? = some source ∧ Offence reach source failure
  clean_before : ∀ m < n, ∀ source, sources[m]? = some source → Clean reach source

section Offences

variable {reach other : Definition → Prop} {source : SourceLine} {sources : List SourceLine}
  {n : Nat} {failure : Failure}

theorem firstOffence_cons_zero_iff :
    FirstOffence reach (source :: sources) 0 failure ↔ Offence reach source failure := by
  constructor
  · rintro ⟨⟨first, hfirst, hoffence⟩, -⟩
    cases hfirst
    exact hoffence
  · intro h
    exact ⟨⟨source, rfl, h⟩, fun m hm => absurd hm (Nat.not_lt_zero m)⟩

theorem firstOffence_cons_succ_iff :
    FirstOffence reach (source :: sources) (n + 1) failure ↔
      Clean reach source ∧ FirstOffence reach sources n failure := by
  constructor
  · rintro ⟨⟨found, hfound, hoffence⟩, hclean⟩
    refine ⟨hclean 0 n.succ_pos source rfl, ⟨found, by simpa using hfound, hoffence⟩, ?_⟩
    intro m hm earlier hearlier
    exact hclean (m + 1) (Nat.succ_lt_succ hm) earlier (by simpa using hearlier)
  · rintro ⟨hfirst, ⟨found, hfound, hoffence⟩, hclean⟩
    refine ⟨⟨found, by simpa using hfound, hoffence⟩, ?_⟩
    intro m hm earlier hearlier
    cases m with
    | zero =>
      cases hearlier
      exact hfirst
    | succ m => exact hclean m (Nat.lt_of_succ_lt_succ hm) earlier (by simpa using hearlier)

/-- Where a line offends, some line up to it is the first that does. -/
theorem exists_firstOffence_le (h : sources[n]? = some source)
    (hoffence : Offence reach source failure) :
    ∃ m ≤ n, ∃ first, FirstOffence reach sources m first := by
  induction n using Nat.strongRecOn generalizing source failure with
  | ind n ih =>
    by_cases hclean : ∀ m < n, ∀ source, sources[m]? = some source → Clean reach source
    · exact ⟨n, Nat.le_refl n, failure, ⟨source, h, hoffence⟩, hclean⟩
    · simp only [Clean, not_forall, not_not] at hclean
      obtain ⟨m, hm, earlier, hearlier, fault, hfault⟩ := hclean
      obtain ⟨k, hk, first, hfirst⟩ := ih m hm hearlier hfault
      exact ⟨k, hk.trans hm.le, first, hfirst⟩

/-- With less in reach, every line that offends still does. -/
theorem Offence.exists_of_imp (h : Offence reach source failure)
    (himp : ∀ definition, other definition → reach definition) :
    ∃ fault, Offence other source fault := by
  cases h with
  | unreadable h => exact ⟨failure, .unreadable h⟩
  | outOfReach h hreach => exact ⟨_, .outOfReach h fun hother => hreach (himp _ hother)⟩

theorem offence_iff_of_unreadable {refused : Failure}
    (h : Line.parse source.text source = .error refused) :
    Offence reach source failure ↔ failure = refused := by
  constructor
  · rintro (hread | ⟨hread, -⟩) <;> rw [h] at hread <;> cases hread
    rfl
  · rintro rfl
    exact .unreadable h

theorem not_offence_of_none (h : Line.parse source.text source = .ok none) (failure : Failure) :
    ¬ Offence reach source failure := by
  rintro (hread | ⟨hread, -⟩) <;> rw [h] at hread <;> cases hread

theorem offence_iff_of_some {definition : Definition}
    (h : Line.parse source.text source = .ok (some definition)) :
    Offence reach source failure ↔
      ¬ reach definition ∧ failure = .faulty .indexOutOfRange source := by
  constructor
  · rintro (hread | ⟨hread, hreach⟩) <;> rw [h] at hread <;> cases hread
    exact ⟨hreach, rfl⟩
  · rintro ⟨hreach, rfl⟩
    exact .outOfReach h hreach

/-- A failure that is located is so at the line that offends. -/
theorem Offence.source_eq {fault : Fault} {place : SourceLine}
    (h : Offence reach source (.faulty fault place)) : place = source := by
  cases h with
  | unreadable h =>
    rcases Line.parse_eq_error h with ⟨_, hfault, -⟩ | ⟨_, hcount, -⟩
    · cases hfault
      rfl
    · cases hcount
  | outOfReach => rfl

theorem firstOffence_sourceLines {path : Text} {lines : List Text}
    (h : FirstOffence reach (Header.sourceLines path lines) n failure) :
    ∃ line, lines[n]? = some line ∧
      Offence reach { path, lineNumber := n + 1, text := line } failure := by
  obtain ⟨source, hsource, hoffence⟩ := h.offence
  obtain ⟨line, hline, rfl⟩ := Header.getElem?_sourceLines_eq_some_iff.mp hsource
  exact ⟨line, hline, hoffence⟩

end Offences

/-! ## Runs -/

namespace Pipeline

/-- The pipeline expands the definitions in reach and refuses the others. -/
structure Serves {β : Type} (pipeline : Pipeline β) (reach : Definition → Prop) : Prop where
  exists_pieces : ∀ definition, reach definition → ∃ pieces, pipeline.expand definition = .ok pieces
  refuses : ∀ definition, ¬ reach definition →
    pipeline.expand definition = .error (.faulty .indexOutOfRange (place definition))

section Serving

variable {β : Type} {pipeline : Pipeline β} {reach : Definition → Prop}

/-- The pieces of the definition on a line, none for a line without one. -/
def expandLine (pipeline : Pipeline β) (source : SourceLine) : Except Failure (List β) :=
  match Line.parse source.text source with
  | .error failure => .error failure
  | .ok found => pipeline.expandAll found.toList

theorem expandLine_eq_error_iff (h : pipeline.Serves reach) {source : SourceLine}
    {failure : Failure} :
    pipeline.expandLine source = .error failure ↔ Offence reach source failure := by
  unfold expandLine
  cases hparse : Line.parse source.text source with
  | error refused => rw [offence_iff_of_unreadable hparse, Except.error.injEq, eq_comm]
  | ok found =>
    cases found with
    | none =>
      rw [iff_false_right (not_offence_of_none hparse failure)]
      rintro ⟨⟩
    | some definition =>
      have hplace : place definition = source := by
        rw [place, Line.source_of_parse hparse, Option.getD_some]
      rw [offence_iff_of_some hparse]
      by_cases hreach : reach definition
      · obtain ⟨pieces, hpieces⟩ := h.exists_pieces definition hreach
        simp [expandAll, hpieces, hreach, Except.map]
      · simp [expandAll, h.refuses definition hreach, hplace, hreach, eq_comm]

theorem clean_of_expandLine_eq_ok (h : pipeline.Serves reach) {source : SourceLine}
    {pieces : List β} (hline : pipeline.expandLine source = .ok pieces) : Clean reach source := by
  intro failure hoffence
  rw [(expandLine_eq_error_iff h).mpr hoffence] at hline
  cases hline

theorem expandLinesAfter_cons (pipeline : Pipeline β) (path : Text) (before : Nat) (line : Text)
    (lines : List Text) :
    pipeline.expandLinesAfter path before (line :: lines) =
      (pipeline.expandLine (Header.sourceLine path before line)).bind fun pieces =>
        (pipeline.expandLinesAfter path (before + 1) lines).map (pieces ++ ·) := by
  have htext : (Header.sourceLine path before line).text = line := rfl
  rw [expandLinesAfter, expandLine, htext]
  cases Line.parse line (Header.sourceLine path before line) with
  | error failure => rfl
  | ok found => cases hall : pipeline.expandAll found.toList <;> simp only [Except.bind, hall]

/-- **The first offence decides.** Expanding line by line fails exactly with the first offence. -/
theorem expandLinesAfter_eq_error_iff (h : pipeline.Serves reach) {path : Text} {before : Nat}
    {lines : List Text} {failure : Failure} :
    pipeline.expandLinesAfter path before lines = .error failure ↔
      ∃ n, FirstOffence reach (Header.sourceLinesAfter path before lines) n failure := by
  induction lines generalizing before with
  | nil =>
    constructor
    · rintro ⟨⟩
    · rintro ⟨n, ⟨source, hsource, -⟩, -⟩
      simp [Header.sourceLinesAfter] at hsource
  | cons line lines ih =>
    rw [expandLinesAfter_cons, Header.sourceLinesAfter_cons]
    cases hline : pipeline.expandLine (Header.sourceLine path before line) with
    | error refused =>
      have hoffence := (expandLine_eq_error_iff h).mp hline
      constructor
      · rintro ⟨⟩
        exact ⟨0, firstOffence_cons_zero_iff.mpr hoffence⟩
      · rintro ⟨n, hn⟩
        cases n with
        | zero =>
          have hfirst := (expandLine_eq_error_iff h).mpr (firstOffence_cons_zero_iff.mp hn)
          exact hline.symm.trans hfirst
        | succ n => exact absurd hoffence ((firstOffence_cons_succ_iff.mp hn).1 refused)
    | ok pieces =>
      have hclean := clean_of_expandLine_eq_ok h hline
      have hmap : ∀ rest : Except Failure (List β),
          (Except.ok pieces).bind (fun pieces => rest.map (pieces ++ ·)) = .error failure ↔
            rest = .error failure := by
        intro rest
        cases rest <;> simp [Except.bind, Except.map]
      rw [hmap, ih]
      constructor
      · rintro ⟨n, hn⟩
        exact ⟨n + 1, firstOffence_cons_succ_iff.mpr ⟨hclean, hn⟩⟩
      · rintro ⟨n, hn⟩
        cases n with
        | zero => exact absurd (firstOffence_cons_zero_iff.mp hn) (hclean failure)
        | succ n => exact ⟨n, (firstOffence_cons_succ_iff.mp hn).2⟩

/-- A run with an opening fails exactly with the first offence. -/
theorem run_eq_error_iff (h : pipeline.Serves reach) {opening : List β}
    (hopening : pipeline.opening = .ok opening) {path : Text} {lines : List Text}
    {failure : Failure} :
    pipeline.run path lines = .error failure ↔
      ∃ n, FirstOffence reach (Header.sourceLines path lines) n failure := by
  rw [Header.sourceLines, ← expandLinesAfter_eq_error_iff h]
  unfold run enclose
  rw [hopening]
  cases pipeline.expandLinesAfter path 0 lines <;> simp [Except.map]

/-- A run with an opening succeeds exactly if no line offends. -/
theorem exists_run_eq_ok_iff (h : pipeline.Serves reach) {opening : List β}
    (hopening : pipeline.opening = .ok opening) {path : Text} {lines : List Text} :
    (∃ out, pipeline.run path lines = .ok out) ↔
      ∀ source ∈ Header.sourceLines path lines, Clean reach source := by
  constructor
  · rintro ⟨out, hout⟩ source hsource failure hoffence
    obtain ⟨n, hn⟩ := List.getElem?_of_mem hsource
    obtain ⟨m, -, first, hfirst⟩ := exists_firstOffence_le hn hoffence
    rw [(run_eq_error_iff h hopening).mpr ⟨m, hfirst⟩] at hout
    cases hout
  · intro hclean
    cases hrun : pipeline.run path lines with
    | ok out => exact ⟨out, rfl⟩
    | error failure =>
      obtain ⟨n, hn⟩ := (run_eq_error_iff h hopening).mp hrun
      obtain ⟨source, hsource, hoffence⟩ := hn.offence
      exact absurd hoffence (hclean source (List.mem_of_getElem? hsource) failure)

end Serving

end Pipeline

/-! ## The pipelines of the generator -/

/-- Every definition is in reach. -/
def Anywhere (_ : Definition) : Prop := True

theorem serves_definitions : Pipeline.definitions.Serves Anywhere where
  exists_pieces definition _ := ⟨[definition], rfl⟩
  refuses _ hnot := absurd trivial hnot

theorem serves_init : Pipeline.init.Serves Anywhere where
  exists_pieces definition _ := ⟨[initLine definition], rfl⟩
  refuses _ hnot := absurd trivial hnot

/-- The slot of an index up to 65535 is in reach of a load instruction. -/
theorem offset_le_maxOffset_iff {index : Int} :
    index * pointerSize ≤ maxOffset ↔ index ≤ 65535 := by
  simp only [pointerSize, maxOffset]
  omega

theorem serves_routines (mode : DispatchMode) :
    (Pipeline.routines mode).Serves fun definition => definition.index ≤ 65535 where
  exists_pieces definition hreach :=
    ⟨_, trampoline_eq_ok_iff.mpr ⟨offset_le_maxOffset_iff.mpr hreach, rfl⟩⟩
  refuses definition hnot := by
    have hbeyond : maxOffset < definition.index * pointerSize :=
      Int.not_le.mp (mt offset_le_maxOffset_iff.mp hnot)
    simp [Pipeline.routines, trampoline, slotOffset, hbeyond, Except.map]

/-- The definitions that are in reach for an output kind. -/
def OutputKind.Reaches : OutputKind → Definition → Prop
  | .asm, definition => definition.index ≤ 65535
  | .init, definition => Anywhere definition

/-- The selectors name an output kind and, if it is stub routines, a dispatch mode. -/
structure Selector.Known (kind mode : Selector) (output : OutputKind) : Prop where
  kind : kind.kind? = some output
  mode : output = .asm → ∃ member, mode.mode? = some member

/-- The lines before the first piece of a definition. -/
def OutputKind.opening : OutputKind → List Text
  | .asm => asmOpening
  | .init => []

/-- The lines after the last piece of a definition. -/
def OutputKind.closing : OutputKind → List Text
  | .asm => asmClosing
  | .init => []

namespace Selector.Known

variable {kind mode : Selector} {output : OutputKind}

/-- Known selectors choose the pipeline that the members they name choose. -/
theorem exists_ofKind_eq {α : Type} [Letter α] (h : Selector.Known kind mode output) :
    ∃ member, Pipeline.ofKind (α := α) kind mode =
      Pipeline.ofKind (.kind output) (.mode member) := by
  cases output with
  | asm =>
    obtain ⟨member, hmember⟩ := h.mode rfl
    have hmode : resolveMode (α := α) mode = .ok member := by rw [resolveMode, hmember]
    refine ⟨member, ?_⟩
    rw [Pipeline.ofKind, h.kind]
    change Except.ok (Pipeline.asm mode) = Except.ok (Pipeline.routines member)
    rw [Pipeline.asm, hmode]
  | init =>
    refine ⟨.r12, ?_⟩
    rw [Pipeline.ofKind, h.kind]
    rfl

/-- The pipeline of known selectors serves what is in reach of the output kind. -/
theorem exists_pipeline (h : Selector.Known kind mode output) :
    ∃ pipeline, Pipeline.ofKind kind mode = .ok pipeline ∧
      pipeline.opening = .ok output.opening ∧ pipeline.closing = output.closing ∧
      pipeline.Serves output.Reaches := by
  obtain ⟨member, hmember⟩ := h.exists_ofKind_eq (α := Char)
  rw [hmember]
  cases output with
  | asm => exact ⟨Pipeline.routines member, rfl, rfl, rfl, serves_routines member⟩
  | init => exact ⟨Pipeline.init, rfl, rfl, rfl, serves_init⟩

end Selector.Known

end StubVector
