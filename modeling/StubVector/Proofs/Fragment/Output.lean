import Mathlib.Algebra.Ring.Nat
import Mathlib.Data.List.Forall2
import StubVector.Proofs.Fragment.Routine
import StubVector.Proofs.Pipeline.Offence

/-!
# The lines of generated text

The lines of a generated text are the emitted lines, and none of them is empty. The init statements
are one line for each line with a definition; a listing has as many lines as its routines have
between its opening and its closing lines.

* `emitLines_eq_ok_iff`: what is emitted for an output kind.
* `Header.stubLines`: the lines of a header with a definition, each with its place.
* `Fragment.routineLength`: the number of lines of a routine.
* `Fragment.declaresAlias`: whether a line declares a name behind its label.
* `generated_lines`: **generated text has exactly the intended lines**.
-/

namespace StubVector

open Text

/-! ## Lines with a definition -/

namespace Header

variable {path : Text} {before : Nat} {lines : List Text} {definitions : List Definition}

/-- The lines with a definition among lines that follow `before` lines of the same file. -/
def stubLinesAfter (path : Text) (before : Nat) (lines : List Text) : List SourceLine :=
  (sourceLinesAfter path before lines).filter (Line.isDefinition ·.text)

/-- The lines of a header with a definition, each with its place. -/
def stubLines (path : Text) (lines : List Text) : List SourceLine := stubLinesAfter path 0 lines

theorem stubLinesAfter_cons (path : Text) (before : Nat) (line : Text) (lines : List Text) :
    stubLinesAfter path before (line :: lines) =
      (if Line.isDefinition line then [sourceLine path before line] else []) ++
        stubLinesAfter path (before + 1) lines := by
  have htext : (sourceLine path before line).text = line := rfl
  rw [stubLinesAfter, sourceLinesAfter_cons, List.filter_cons, htext]
  split <;> rfl

/-- There is a definition for each line with a definition, in order. -/
theorem forall₂_stubLinesAfter (h : parseLinesAfter path before lines = .ok definitions) :
    List.Forall₂ (fun source definition => Line.parse source.text source = .ok (some definition))
      (stubLinesAfter path before lines) definitions := by
  induction lines generalizing before definitions with
  | nil =>
    cases h
    exact .nil
  | cons line lines ih =>
    obtain ⟨found, rest, hfound, hrest, rfl⟩ := parseLinesAfter_cons_eq_ok_iff.mp h
    rw [stubLinesAfter_cons]
    cases found with
    | none =>
      have hnot : ¬ Line.isDefinition line = true :=
        mt Line.isDefinition_iff.mp (Line.parse_eq_none_iff.mp hfound)
      rw [if_neg hnot]
      exact ih hrest
    | some definition =>
      have hmarker : Line.isDefinition line = true := by
        obtain ⟨after, hline, -⟩ := Line.parse_eq_some_iff.mp hfound
        exact Line.isDefinition_iff.mpr ⟨after, hline.symm⟩
      rw [if_pos hmarker]
      exact .cons hfound (ih hrest)

end Header

/-! ## The lines of a routine -/

namespace Fragment

variable {mode : DispatchMode} {definition : Definition} {definitions : List Definition}
  {symbol instruction line : Text}

/-- The number of lines of a routine. -/
def routineLength : DispatchMode → Definition → Nat
  | .r12, definition => 6 + if definition.isMapped then 0 else 1
  | .zvte, definition => 9 + if definition.isMapped then 0 else 1

/-- Whether a line declares a name behind its label. -/
def declaresAlias (line : Text) : Bool := startsWith " ALIAS C'".toList (line.drop labelWidth)

theorem length_aliasLines (definition : Definition) :
    (aliasLines definition).length = if definition.isMapped then 0 else 1 := by
  rw [aliasLines_eq]
  split <;> rfl

theorem length_routineLines (mode : DispatchMode) (definition : Definition) :
    (routineLines mode definition).length = routineLength mode definition := by
  have hlength : (routineLines mode definition).length =
      (dispatchLines definition.symbol mode).length + 3 + (aliasLines definition).length := by
    simp only [routineLines, routineBody, List.length_cons, List.length_append, List.length_nil]
    omega
  rw [hlength, length_aliasLines]
  cases mode <;> rfl

/-! Only the alias line declares a name. -/

/-- A line with a label declares a name if its instruction does. -/
theorem declaresAlias_labelled (symbol instruction : Text) :
    declaresAlias (labelled symbol instruction) = startsWith "ALIAS C'".toList instruction := by
  rw [declaresAlias, drop_labelled]
  rfl

/-- So does a line without a label. -/
theorem declaresAlias_unlabelled (instruction : Text) :
    declaresAlias (unlabelled instruction) = startsWith "ALIAS C'".toList instruction := rfl

theorem startsWith_alias_of_mem_dispatch (mode : DispatchMode) :
    ∀ instruction ∈ dispatch mode, startsWith "ALIAS C'".toList instruction = false := by
  cases mode <;> decide +kernel

theorem declaresAlias_of_mem_dispatchLines (h : line ∈ dispatchLines symbol mode) :
    declaresAlias line = false := by
  unfold dispatchLines at h
  split at h
  · cases h
  · next first rest hdispatch =>
    have hnone := startsWith_alias_of_mem_dispatch mode
    rw [hdispatch, List.forall_mem_cons] at hnone
    rcases List.mem_cons.mp h with rfl | h
    · rw [declaresAlias_labelled, Letter.ofText_char, hnone.1]
    · obtain ⟨instruction, hmem, rfl⟩ := List.mem_map.mp h
      rw [declaresAlias_unlabelled, Letter.ofText_char, hnone.2 instruction hmem]

/-- The alias lines of a routine are those of its definition. -/
theorem filter_declaresAlias_routineLines (mode : DispatchMode) (definition : Definition) :
    (routineLines mode definition).filter declaresAlias = aliasLines definition := by
  have hdispatch : (dispatchLines definition.symbol mode).filter declaresAlias = [] :=
    List.filter_eq_nil_iff.mpr fun line hline => by
      simp [declaresAlias_of_mem_dispatchLines hline]
  have halias : (aliasLines definition).filter declaresAlias = aliasLines definition := by
    rw [aliasLines_eq]
    split
    · rfl
    · rw [List.filter_singleton, declaresAlias_labelled]
      rfl
  have hentry : declaresAlias (entryLine definition.symbol) = false := rfl
  have hload : ∀ offset, declaresAlias (loadLine definition.symbol offset) = false := fun _ => rfl
  have hbranch : declaresAlias branchLine = false := rfl
  simp [routineLines, routineBody, hentry, hload, hbranch, hdispatch, halias]

/-- A listing declares a name for each function that is not mapped. -/
theorem countP_declaresAlias_listing (mode : DispatchMode) (definitions : List Definition) :
    (listing mode definitions).countP declaresAlias = definitions.countP (!·.isMapped) := by
  have hopening : asmOpening.countP declaresAlias = 0 := by decide +kernel
  have hclosing : asmClosing.countP declaresAlias = 0 := by decide +kernel
  rw [listing, List.countP_append, List.countP_append, hopening, hclosing, Nat.zero_add,
    Nat.add_zero]
  induction definitions with
  | nil => rfl
  | cons definition definitions ih =>
    rw [List.flatMap_cons, List.countP_append, ih, List.countP_eq_length_filter,
      filter_declaresAlias_routineLines, length_aliasLines, List.countP_cons, Nat.add_comm]
    cases definition.isMapped <;> rfl

theorem length_listing (mode : DispatchMode) (definitions : List Definition) :
    (listing mode definitions).length = 8 + 3 + (definitions.map (routineLength mode)).sum := by
  have hopening : asmOpening.length = 8 := rfl
  have hclosing : asmClosing.length = 3 := rfl
  rw [listing, List.length_append, List.length_append, hopening, hclosing, List.length_flatMap,
    List.map_congr_left fun definition _ => length_routineLines mode definition]
  omega

/-! ## No line is empty -/

theorem initLine_ne_nil (definition : Definition) : initLine definition ≠ [] := nofun

theorem labelled_ne_nil (symbol instruction : Text) : labelled symbol instruction ≠ [] := by
  simp [labelled]

theorem unlabelled_ne_nil (instruction : Text) : unlabelled instruction ≠ [] := nofun

theorem ne_nil_of_mem_routineLines (h : line ∈ routineLines mode definition) : line ≠ [] := by
  rw [routineLines, List.mem_cons, List.mem_append, List.mem_singleton] at h
  rcases h with rfl | h | rfl
  · exact unlabelled_ne_nil _
  · rcases mem_routineBody_cases h with rfl | ⟨instruction, -, rfl | rfl⟩ | rfl
    · exact labelled_ne_nil _ _
    · exact labelled_ne_nil _ _
    · exact unlabelled_ne_nil _
    · exact unlabelled_ne_nil _
  · exact unlabelled_ne_nil _

theorem ne_nil_of_mem_listing (h : line ∈ listing mode definitions) : line ≠ [] := by
  have hopening : ∀ line ∈ asmOpening, line ≠ [] := by decide +kernel
  have hclosing : ∀ line ∈ asmClosing, line ≠ [] := by decide +kernel
  simp only [listing, List.mem_append, List.mem_flatMap] at h
  rcases h with (h | ⟨definition, -, h⟩) | h
  · exact hopening line h
  · exact ne_nil_of_mem_routineLines h
  · exact hclosing line h

end Fragment

/-! ## What is emitted -/

open Fragment

section Emitted

variable {definitions : List Definition} {kind mode : Selector} {lines : List Text}

/-- What is emitted for an output kind: init statements, or the listing for a dispatch mode. -/
theorem emitLines_eq_ok_iff :
    emitLines definitions kind mode = .ok lines ↔
      (kind.kind? = some .init ∧ lines = definitions.map initLine) ∨
      (kind.kind? = some .asm ∧ ∃ member, mode.mode? = some member ∧
        (∀ definition ∈ definitions, definition.index * pointerSize ≤ maxOffset) ∧
        lines = listing member definitions) := by
  have hmembers : ∀ output member, Pipeline.ofKind (α := Char) kind mode =
      Pipeline.ofKind (.kind output) (.mode member) →
        emitLines definitions kind mode = emitLines definitions (.kind output) (.mode member) := by
    intro output member h
    rw [emitLines, h, emitLines]
  cases hkind : kind.kind? with
  | none => simp [emitLines, Pipeline.ofKind, hkind, Except.bind]
  | some output =>
    cases output with
    | init =>
      have hinit : Pipeline.ofKind (α := Char) kind mode =
          Pipeline.ofKind (.kind .init) (.mode .r12) := by
        rw [Pipeline.ofKind, hkind]
        rfl
      rw [hmembers _ _ hinit, emitLines_init]
      simp [eq_comm]
    | asm =>
      cases hmode : mode.mode? with
      | none =>
        simp [emitLines, Pipeline.ofKind, hkind, Pipeline.asm, resolveMode, hmode, Except.bind,
          Pipeline.emit, Pipeline.enclose, Pipeline.failing]
      | some member =>
        have hasm : Pipeline.ofKind (α := Char) kind mode =
            Pipeline.ofKind (.kind .asm) (.mode member) := by
          rw [Pipeline.ofKind, hkind]
          change Except.ok (Pipeline.asm mode) = Except.ok (Pipeline.routines member)
          rw [Pipeline.asm, resolveMode, hmode]
        rw [hmembers _ _ hasm, emitLines_asm_eq_ok_iff]
        simp

/-- No emitted line is empty, and none holds a line break if no symbol and no name does. -/
theorem intact_of_mem_emitLines (h : emitLines definitions kind mode = .ok lines)
    (hdefinitions : ∀ definition ∈ definitions, definition.WellFormed) :
    ∀ line ∈ lines, line ≠ [] ∧ Unbroken line := by
  intro line hline
  rcases emitLines_eq_ok_iff.mp h with ⟨-, rfl⟩ | ⟨-, member, -, -, rfl⟩
  · obtain ⟨definition, hmem, rfl⟩ := List.mem_map.mp hline
    exact ⟨initLine_ne_nil definition, unbroken_initLine (hdefinitions definition hmem)⟩
  · exact ⟨ne_nil_of_mem_listing hline, unbroken_of_mem_listing hdefinitions hline⟩

end Emitted

/-- Lines that are each followed by a line feed end with one. -/
theorem Text.getLast?_unlines {lines : List Text} (h : unlines lines ≠ []) :
    (unlines lines).getLast? = some '\n' := by
  rcases List.eq_nil_or_concat lines with rfl | ⟨front, line, rfl⟩
  · exact absurd rfl h
  · rw [unlines, List.concat_eq_append, List.flatMap_append, List.flatMap_singleton,
      ← List.append_assoc, List.getLast?_concat, Letter.ofChar_char]

/-! ## What is generated -/

/-- A routine as it stands in a listing: what is emitted for its definition, with as many lines as
it should have, of which only the alias line declares a name. -/
structure Fragment.IsRoutine (mode : DispatchMode) (definition : Definition)
    (lines : List Text) : Prop where
  emitted : trampoline mode definition = .ok lines
  length_eq : lines.length = routineLength mode definition
  aliases : lines.filter declaresAlias =
    if definition.isMapped then []
    else [labelled definition.symbol ("ALIAS C'".toList ++ definition.functionName ++ ['\''])]

theorem Fragment.isRoutine_routineLines {mode : DispatchMode} {definition : Definition}
    (h : definition.index * pointerSize ≤ maxOffset) :
    IsRoutine mode definition (routineLines mode definition) where
  emitted := trampoline_eq_ok_iff.mpr ⟨h, rfl⟩
  length_eq := length_routineLines mode definition
  aliases := filter_declaresAlias_routineLines mode definition

/-- **Generated text has exactly the intended lines.** They are the emitted lines of the definitions
of the header; none is empty, none holds a line break, and the text ends with a line feed unless it
is empty. There is a definition for each line of the header with the marker, in order. Init
statements are one line for each of them. A listing is the routines of the definitions between eight
lines and three, and declares a name for each function that is not mapped. -/
theorem generated_lines {path text out : Text} {kind mode : Selector}
    (h : generate path (splitLines text) kind mode = .ok out) :
    ∃ definitions lines,
      Header.parseText path text = .ok definitions ∧
      emitLines definitions kind mode = .ok lines ∧
      splitLines out = lines ∧
      (∀ line ∈ lines, line ≠ [] ∧ Unbroken line) ∧
      (out ≠ [] → out.getLast? = some '\n') ∧
      List.Forall₂
        (fun source definition => Line.parse source.text source = .ok (some definition))
        (Header.stubLines path (splitLines text)) definitions ∧
      (kind.kind? = some .init →
        lines.length = (Header.stubLines path (splitLines text)).length) ∧
      (kind.kind? = some .asm → ∃ member routines, mode.mode? = some member ∧
        lines = asmOpening ++ routines.flatten ++ asmClosing ∧
        List.Forall₂ (IsRoutine member) definitions routines ∧
        lines.length = 8 + 3 + (definitions.map (routineLength member)).sum ∧
        lines.countP declaresAlias = definitions.countP (!·.isMapped)) := by
  obtain ⟨definitions, lines, hread, hemit, rfl⟩ := generate_eq_ok_iff.mp h
  have hintact := intact_of_mem_emitLines hemit (Header.wellFormed_of_parseText hread)
  have hstubs := Header.forall₂_stubLinesAfter hread
  refine ⟨definitions, lines, hread, hemit,
    splitLines_unlines fun line hline => (hintact line hline).2, hintact, getLast?_unlines, hstubs,
    fun hinit => ?_, fun hasm => ?_⟩
  · rcases emitLines_eq_ok_iff.mp hemit with ⟨-, rfl⟩ | ⟨hasm, -⟩
    · rw [List.length_map]
      exact hstubs.length_eq.symm
    · rw [hinit] at hasm
      cases hasm
  · rcases emitLines_eq_ok_iff.mp hemit with ⟨hinit, -⟩ | ⟨-, member, hmember, hreach, rfl⟩
    · rw [hasm] at hinit
      cases hinit
    · refine ⟨member, definitions.map (routineLines member), hmember, ?_, ?_,
        length_listing member definitions, countP_declaresAlias_listing member definitions⟩
      · rw [listing, List.flatMap_def]
      · rw [List.forall₂_map_right_iff, List.forall₂_same]
        exact fun definition hmem => isRoutine_routineLines (hreach definition hmem)

/-- Two definitions, one of them mapped, on lines that do not end with a line feed. -/
theorem generated_lines_two_routines :
    ∃ out, generate [] (splitLines
        "#define ZIS_STUB_A 1 /* f */\u0085#define ZIS_STUB_B 2 /* g mapped */\r".toList)
        (.kind .asm) (.mode .zvte) = .ok out ∧
      (splitLines out).length = 8 + 3 + ((9 + 1) + 9) := by
  have hread : Header.parseText []
      "#define ZIS_STUB_A 1 /* f */\u0085#define ZIS_STUB_B 2 /* g mapped */\r".toList = .ok
      [⟨['A'], 1, ['f'], false, some ⟨[], 1, "#define ZIS_STUB_A 1 /* f */".toList⟩⟩,
        ⟨['B'], 2, ['g'], true, some ⟨[], 2, "#define ZIS_STUB_B 2 /* g mapped */".toList⟩⟩] := by
    decide +kernel
  have hgenerate := generate_eq_ok_iff.mpr ⟨_, _, hread,
    (@emitLines_asm_eq_ok_iff .zvte _ _).mpr ⟨by decide, rfl⟩, rfl⟩
  obtain ⟨definitions, lines, hparse, -, hlines, -, -, -, -, hasm⟩ := generated_lines hgenerate
  obtain ⟨member, routines, hmember, -, -, hlength, -⟩ := hasm rfl
  obtain rfl := Except.ok.inj (hread.symm.trans hparse)
  cases hmember
  exact ⟨_, hgenerate, hlines ▸ hlength⟩

end StubVector
