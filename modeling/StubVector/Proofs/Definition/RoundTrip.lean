import StubVector.Definition.Header
import StubVector.Proofs.Definition.Grammar
import StubVector.Proofs.Text.Lines

/-!
# Headers written and read back

A definition is legible (`Definition.Legible`) if some line can stand for it, and well formed
(`Definition.WellFormed`) if that line holds no line break. Rendering well-formed definitions, one a
line, and reading the text gives the same definitions, and only well-formed definitions are ever
read from a text (`parseText_render_roundTrip`).

* `Definition.Legible.parts`: the parts of the rendered line.
* `legible_of_parse`: what is read from a line is legible.
* `parseLinesAfter_render`: the round trip, for lines that stand behind others.
-/

namespace StubVector

open Text

/-- A definition that a line can stand for. -/
structure Definition.Legible (definition : Definition) : Prop where
  symbol_ne_nil : definition.symbol ≠ []
  space_not_mem_symbol : ' ' ∉ definition.symbol
  index_nonneg : 0 ≤ definition.index
  index_lt : definition.index < 10 ^ 4300
  functionName_ne_nil : definition.functionName ≠ []
  trimmed_functionName : Trimmed definition.functionName
  /-- The name of a function that is not mapped does not read as if it were. -/
  unmarked : definition.isMapped = false → ¬ Line.mappedMark <:+ definition.functionName

/-- A definition that a line without line breaks can stand for. -/
structure Definition.WellFormed (definition : Definition) : Prop
    extends Definition.Legible definition where
  unbroken_symbol : Unbroken definition.symbol
  unbroken_functionName : Unbroken definition.functionName

/-- The definition without its place. -/
def Definition.withoutSource (definition : Definition) : Definition :=
  { definition with source := none }

namespace Definition.Legible

variable {definition : Definition}

/-- The name and the mark of a mapped function. -/
def markedName (definition : Definition) : Text :=
  definition.functionName ++ if definition.isMapped then Line.mappedMark else []

theorem trimmed_markedName (h : definition.Legible) : Trimmed (markedName definition) := by
  unfold markedName
  split
  · refine ⟨h.trimmed_functionName.1.append h.functionName_ne_nil, ?_⟩
    have hmark : Line.mappedMark = " mappe".toList ++ ['d'] := by decide
    rw [hmark, ← List.append_assoc, endsVisible_concat_iff]
    decide
  · rw [List.append_nil]
    exact h.trimmed_functionName

theorem splitMapped_markedName (h : definition.Legible) :
    Line.splitMapped (markedName definition) = (definition.functionName, definition.isMapped) := by
  unfold markedName
  split
  · rename_i hmapped
    rw [Line.splitMapped_append_mappedMark, trimEnd_of_endsVisible h.trimmed_functionName.2,
      hmapped]
  · rename_i hmapped
    rw [Bool.not_eq_true] at hmapped
    rw [List.append_nil, Line.splitMapped_of_not_suffix (h.unmarked hmapped), hmapped]

/-- The parts of the line of a legible definition. -/
def parts (h : definition.Legible) : Line.Parts where
  symbol := definition.symbol
  gapBeforeIndex := []
  digits := decimalNat definition.index.natAbs
  gapBeforeComment := []
  body := ' ' :: (markedName definition ++ [' '])
  gapAtEnd := []
  symbol_ne_nil := h.symbol_ne_nil
  space_not_mem_symbol := h.space_not_mem_symbol
  blanks_beforeIndex := blanks_nil
  digits_ne_nil := decimalNat_ne_nil _
  isDigit_of_mem _ hc := isDigit_of_mem_decimalNat hc
  length_digits_le := length_decimalNat_natAbs_le (by decide) h.index_nonneg h.index_lt
  blanks_beforeComment := blanks_nil
  exists_visible := by
    obtain ⟨c, rest, hname⟩ := List.exists_cons_of_ne_nil h.functionName_ne_nil
    have hvisible : isBlank c = false := h.trimmed_functionName.1 c (by simp [hname])
    exact ⟨c, by simp [markedName, hname], hvisible⟩
  blanks_atEnd := blanks_nil

theorem line_parts (h : definition.Legible) : h.parts.line = Line.render definition := by
  have hindex : ¬ definition.index < 0 := Int.not_lt.mpr h.index_nonneg
  simp [Line.Parts.line, parts, Line.render, markedName, decimal, hindex]

theorem content_parts (h : definition.Legible) : h.parts.content = markedName definition := by
  have hspace : Blanks [' '] := by simp [Blanks]; decide
  exact trim_between hspace h.trimmed_markedName hspace

/-- Reading the line of a legible definition gives the definition. -/
theorem parse_render (h : definition.Legible) (source : SourceLine) :
    Line.parse (Line.render definition) source =
      .ok (some { definition with source := some source }) := by
  have hindex : (definition.index.natAbs : Int) = definition.index :=
    Int.natAbs_of_nonneg h.index_nonneg
  rw [← h.line_parts, Line.Parts.parse_line, Line.Parts.definition, h.content_parts,
    h.splitMapped_markedName]
  simp [parts, hindex]

end Definition.Legible

theorem Definition.WellFormed.unbroken_render {definition : Definition}
    (h : definition.WellFormed) : Unbroken (Line.render definition) := by
  have hdigits : Unbroken (decimalNat definition.index.natAbs) := fun c hc =>
    isLineBreak_eq_false_of_visible (isBlank_eq_false_of_isDigit (isDigit_of_mem_decimalNat hc))
  have hmark : Unbroken (if definition.isMapped then Line.mappedMark else []) := by
    split <;> decide
  have hmarker : Unbroken Line.marker := by decide
  have hindex : ¬ definition.index < 0 := Int.not_lt.mpr h.index_nonneg
  simp only [Line.render, decimal, hindex, if_false, unbroken_append_iff]
  exact ⟨⟨⟨⟨⟨⟨⟨hmarker, h.unbroken_symbol⟩, by decide⟩, hdigits⟩, by decide⟩,
    h.unbroken_functionName⟩, hmark⟩, by decide⟩

/-! ## What is read -/

namespace Line.Parts

variable (parts : Parts)

theorem symbol_subset_line : parts.symbol ⊆ parts.line := by
  intro c hc
  simp [line, hc]

theorem content_subset_line : parts.content ⊆ parts.line := by
  intro c hc
  simp [line, mem_of_mem_trim hc]

theorem functionName_subset_content (source : SourceLine) :
    (parts.definition source).functionName ⊆ parts.content := by
  rcases splitMapped_cases parts.content with ⟨name, hcontent, hsplit⟩ | ⟨-, hsplit⟩
  · rw [definition, hsplit, hcontent]
    exact List.Subset.trans (trimEnd_isPrefix name).subset (List.subset_append_left name mappedMark)
  · rw [definition, hsplit]
    exact List.Subset.refl parts.content

/-- What is left of a trimmed content without the mark of a mapped function is trimmed again. -/
theorem trimmed_functionName (source : SourceLine) :
    Trimmed (parts.definition source).functionName := by
  have htrimmed : Trimmed parts.content := trimmed_trim parts.body
  rcases splitMapped_cases parts.content with ⟨name, hcontent, hsplit⟩ | ⟨-, hsplit⟩
  · rw [hcontent] at htrimmed
    rw [definition, hsplit]
    have hstart := htrimmed.1.of_isPrefix (List.prefix_append name mappedMark)
    exact ⟨hstart.of_isPrefix (trimEnd_isPrefix name), endsVisible_trimEnd name⟩
  · rw [definition, hsplit]
    exact htrimmed

theorem legible_definition (source : SourceLine) : (parts.definition source).Legible where
  symbol_ne_nil := parts.symbol_ne_nil
  space_not_mem_symbol := parts.space_not_mem_symbol
  index_nonneg := Int.natCast_nonneg _
  index_lt := readDecimal_lt_pow parts.isDigit_of_mem parts.length_digits_le
  functionName_ne_nil := splitMapped_fst_ne_nil (trimmed_trim _) parts.content_ne_nil
  trimmed_functionName := parts.trimmed_functionName source
  unmarked := by
    intro hmapped hmark
    have hdescribes := parts.describes_definition source
    rw [hdescribes.functionName_unmapped hmapped] at hmark
    rw [hdescribes.isMapped.mpr hmark] at hmapped
    cases hmapped

theorem wellFormed_definition (source : SourceLine) (h : Unbroken parts.line) :
    (parts.definition source).WellFormed where
  toLegible := parts.legible_definition source
  unbroken_symbol := h.mono parts.symbol_subset_line
  unbroken_functionName := h.mono
    (List.Subset.trans (parts.functionName_subset_content source) parts.content_subset_line)

end Line.Parts

section Read

variable {line : Text} {source : SourceLine} {definition : Definition}

/-- What is read from a line is the definition of its parts. -/
theorem exists_parts_definition (h : Line.parse line source = .ok (some definition)) :
    ∃ parts : Line.Parts, parts.line = line ∧ definition = parts.definition source := by
  obtain ⟨parts, rfl⟩ := Line.exists_parts_of_parse h
  rw [parts.parse_line source] at h
  cases h
  exact ⟨parts, rfl, rfl⟩

/-- A definition on a line is legible. -/
theorem legible_of_parse (h : Line.parse line source = .ok (some definition)) :
    definition.Legible := by
  obtain ⟨parts, -, rfl⟩ := exists_parts_definition h
  exact parts.legible_definition source

/-- A definition on an unbroken line is well formed. -/
theorem wellFormed_of_parse (hline : Unbroken line)
    (h : Line.parse line source = .ok (some definition)) : definition.WellFormed := by
  obtain ⟨parts, rfl, rfl⟩ := exists_parts_definition h
  exact parts.wellFormed_definition source hline

end Read

/-! ## Whole headers -/

namespace Header

theorem parseLinesAfter_cons_eq_ok_iff {α : Type} [DecidableEq α] [Letter α] {path line : List α}
    {before : Nat} {lines : List (List α)} {definitions : List (Definition α)} :
    parseLinesAfter path before (line :: lines) = .ok definitions ↔
      ∃ found rest, Line.parse line (sourceLine path before line) = .ok found ∧
        parseLinesAfter path (before + 1) lines = .ok rest ∧
        definitions = found.toList ++ rest := by
  rw [parseLinesAfter]
  cases Line.parse line (sourceLine path before line) with
  | error failure => simp
  | ok found =>
    cases parseLinesAfter path (before + 1) lines <;> simp [Except.map, eq_comm]

/-- Every definition of a header stands on one of its lines. -/
theorem exists_line_of_mem {path : Text} {before : Nat} {lines : List Text}
    {definitions : List Definition} (h : parseLinesAfter path before lines = .ok definitions)
    {definition : Definition} (hmem : definition ∈ definitions) :
    ∃ line ∈ lines, ∃ source, Line.parse line source = .ok (some definition) := by
  induction lines generalizing before definitions with
  | nil =>
    cases h
    simp at hmem
  | cons line lines ih =>
    obtain ⟨found, rest, hfound, hrest, rfl⟩ := parseLinesAfter_cons_eq_ok_iff.mp h
    rcases List.mem_append.mp hmem with hmem | hmem
    · rw [Option.mem_toList] at hmem
      exact ⟨line, List.mem_cons_self, _, hmem ▸ hfound⟩
    · obtain ⟨other, hother, hparse⟩ := ih hrest hmem
      exact ⟨other, List.mem_cons_of_mem line hother, hparse⟩

theorem legible_of_mem {path : Text} {lines : List Text} {definitions : List Definition}
    (h : parseLines path lines = .ok definitions) :
    ∀ definition ∈ definitions, definition.Legible := by
  intro definition hmem
  obtain ⟨line, -, source, hparse⟩ := exists_line_of_mem h hmem
  exact legible_of_parse hparse

/-- **Image.** The definitions on unbroken lines are well formed. -/
theorem wellFormed_of_mem {path : Text} {lines : List Text} {definitions : List Definition}
    (hlines : ∀ line ∈ lines, Unbroken line) (h : parseLines path lines = .ok definitions) :
    ∀ definition ∈ definitions, definition.WellFormed := by
  intro definition hmem
  obtain ⟨line, hline, source, hparse⟩ := exists_line_of_mem h hmem
  exact wellFormed_of_parse (hlines line hline) hparse

/-- **Round trip.** The lines of legible definitions give the definitions again, each with its own
line as its source. -/
theorem parseLinesAfter_render (path : Text) {definitions : List Definition}
    (h : ∀ definition ∈ definitions, definition.Legible) (before : Nat) :
    parseLinesAfter path before (definitions.map Line.render) =
      .ok (definitions.mapIdx fun i definition =>
        { definition with source := some (sourceLine path (before + i) (Line.render definition)) })
    := by
  induction definitions generalizing before with
  | nil => rfl
  | cons definition definitions ih =>
    have hfirst := (h definition List.mem_cons_self).parse_render
    have hrest := ih (fun other hother => h other (List.mem_cons_of_mem definition hother))
      (before + 1)
    rw [List.map_cons, List.mapIdx_cons]
    refine parseLinesAfter_cons_eq_ok_iff.mpr ⟨_, _, hfirst _, hrest, ?_⟩
    simp [Nat.add_assoc, Nat.add_comm 1]

theorem parseText_render (path : Text) {definitions : List Definition}
    (h : ∀ definition ∈ definitions, definition.WellFormed) :
    parseText path (unlines (definitions.map Line.render)) =
      .ok (definitions.mapIdx fun i definition =>
        { definition with source := some (sourceLine path i (Line.render definition)) }) := by
  have hlines : ∀ line ∈ definitions.map Line.render, Unbroken line := by
    intro line hline
    obtain ⟨definition, hmem, rfl⟩ := List.mem_map.mp hline
    exact (h definition hmem).unbroken_render
  have hlegible : ∀ definition ∈ definitions, definition.Legible :=
    fun definition hmem => (h definition hmem).toLegible
  rw [parseText, splitLines_unlines hlines, parseLines, parseLinesAfter_render path hlegible]
  simp

theorem wellFormed_of_parseText {path text : Text} {definitions : List Definition}
    (h : parseText path text = .ok definitions) :
    ∀ definition ∈ definitions, definition.WellFormed :=
  wellFormed_of_mem (fun _ hline => unbroken_of_mem_splitLines hline) h

/-- **Headers written and read back.** Well-formed definitions, rendered one a line, are read back
in order, each with the number and the text of its line. Only well-formed definitions are ever read,
so that rendering what was read and reading it again changes nothing but the sources. -/
theorem parseText_render_roundTrip :
    (∀ (path : Text) (definitions : List Definition),
      (∀ definition ∈ definitions, definition.WellFormed) →
      parseText path (unlines (definitions.map Line.render)) =
        .ok (definitions.mapIdx fun i definition =>
          { definition with
            source := some { path, lineNumber := i + 1, text := Line.render definition } })) ∧
    (∀ (path text : Text) (definitions : List Definition),
      parseText path text = .ok definitions →
      ∀ definition ∈ definitions, definition.WellFormed) ∧
    ∀ (path path' text : Text) (definitions : List Definition),
      parseText path text = .ok definitions →
      ∃ again, parseText path' (unlines (definitions.map Line.render)) = .ok again ∧
        again.map Definition.withoutSource = definitions.map Definition.withoutSource := by
  refine ⟨fun path definitions h => parseText_render path h,
    fun path text definitions h => wellFormed_of_parseText h, ?_⟩
  intro path path' text definitions h
  refine ⟨_, parseText_render path' (wellFormed_of_parseText h), ?_⟩
  apply List.ext_getElem
  · simp
  · intro i hi _
    simp [Definition.withoutSource]

/-- Blanks in a symbol, comment marks in names, and names that end like the mark survive. -/
theorem parseText_render_roundTrip_marks_inside :
    parseText [] (unlines ([⟨"A\t/*".toList, 0, "mapped".toList, false, none⟩,
      ⟨['B'], 12, "x*/ mapped".toList, true, none⟩].map Line.render)) = .ok [
        ⟨"A\t/*".toList, 0, "mapped".toList, false,
          some ⟨[], 1, "#define ZIS_STUB_A\t/* 0 /* mapped */".toList⟩⟩,
        ⟨['B'], 12, "x*/ mapped".toList, true,
          some ⟨[], 2, "#define ZIS_STUB_B 12 /* x*/ mapped mapped */".toList⟩⟩] := by
  have hzero : (readDecimal ['0'] : Int) < 10 ^ 4300 :=
    readDecimal_lt_pow (isDecimal_iff.mp rfl).2 (by decide)
  have htwelve : (readDecimal ['1', '2'] : Int) < 10 ^ 4300 :=
    readDecimal_lt_pow (isDecimal_iff.mp rfl).2 (by decide)
  refine parseText_render_roundTrip.1 [] [_, _] (List.forall_mem_cons.mpr
    ⟨⟨⟨?_, ?_, ?_, hzero, ?_, ?_, fun _ => ?_⟩, ?_, ?_⟩, List.forall_mem_singleton.mpr
      ⟨⟨?_, ?_, ?_, htwelve, ?_, ?_, fun h => absurd h (by decide)⟩, ?_, ?_⟩⟩) <;> decide

end Header

end StubVector
