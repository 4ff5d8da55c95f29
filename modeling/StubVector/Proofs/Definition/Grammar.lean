import StubVector.Definition.Line
import StubVector.Proofs.Text.Numeral
import StubVector.Proofs.Text.Trimmed

/-!
# The grammar of definition lines

`Line.Parts` are the parts of a definition line, and `Parts.line` is the line that they make up.
Reading accepts exactly these lines (`parse_accepts_exactly_parts`):

* **Completeness** (`parse_line`): reading the line of some parts gives the definition of the parts.
* **Soundness** (`exists_parts_of_parse`): a line on which a definition is read has parts.
* **Uniqueness** (`line_injective`): a line determines its parts. The comment is found from both
  ends, so that comment marks inside it cannot be mistaken for its own.
-/

namespace StubVector.Line

open Text

/-- The parts of a definition line. -/
structure Parts where
  symbol : Text
  gapBeforeIndex : Text
  digits : Text
  gapBeforeComment : Text
  /-- What stands between the comment marks. -/
  body : Text
  gapAtEnd : Text
  symbol_ne_nil : symbol ≠ []
  space_not_mem_symbol : ' ' ∉ symbol
  blanks_beforeIndex : Blanks gapBeforeIndex
  digits_ne_nil : digits ≠ []
  isDigit_of_mem : ∀ c ∈ digits, c.isDigit = true
  length_digits_le : digits.length ≤ 4300
  blanks_beforeComment : Blanks gapBeforeComment
  exists_visible : ∃ c ∈ body, isBlank c = false
  blanks_atEnd : Blanks gapAtEnd

/-! ## The steps of reading -/

theorem readIndex_eq_ok_iff {digits : Text} {index : Int} :
    readIndex digits = .ok index ↔
      digits.length ≤ maxNumeralDigits ∧ index = readDecimal digits := by
  unfold readIndex
  split <;> simp <;> omega

theorem parseIndex_eq_ok_iff {field : Text} {source : SourceLine} {index : Int} :
    parseIndex field source = .ok index ↔
      (field ≠ [] ∧ (∀ c ∈ field, c.isDigit = true) ∧ field.length ≤ maxNumeralDigits) ∧
        index = readDecimal field := by
  unfold parseIndex
  by_cases h : isDecimal field = true
  · simp only [h, Bool.not_true, Bool.false_eq_true, if_false, readIndex_eq_ok_iff]
    have := isDecimal_iff.mp h
    tauto
  · have hnot := mt isDecimal_iff.mpr h
    simp only [Bool.not_eq_true] at h
    simp only [h, Bool.not_false, if_true, reduceCtorEq, false_iff]
    tauto

theorem commentBody?_eq_some_iff {comment content : Text} :
    commentBody? comment = some content ↔
      ∃ body, comment = "/*".toList ++ body ++ "*/".toList ∧ content = trim body := by
  simp only [commentBody?, Option.map_eq_some_iff, Option.bind_eq_some_iff, dropFront?_eq_some_iff,
    dropBack?_eq_some_iff]
  constructor
  · rintro ⟨body, ⟨rest, rfl, rfl⟩, rfl⟩
    exact ⟨body, by simp, rfl⟩
  · rintro ⟨body, rfl, rfl⟩
    exact ⟨body, ⟨body ++ "*/".toList, by simp, rfl⟩, rfl⟩

theorem splitMapped_append_mappedMark (name : Text) :
    splitMapped (name ++ mappedMark) = (trimEnd name, true) := by
  rw [splitMapped, Letter.ofText_char, dropBack?_eq_some_iff.mpr rfl]

theorem splitMapped_of_not_suffix {content : Text} (h : ¬ mappedMark <:+ content) :
    splitMapped content = (content, false) := by
  have hnone : dropBack? mappedMark content = none := by
    rw [Option.eq_none_iff_forall_not_mem]
    intro name hname
    exact h ⟨name, (dropBack?_eq_some_iff.mp hname).symm⟩
  rw [splitMapped, Letter.ofText_char, hnone]

/-- A content is a name with the mark of a mapped function, or the name of one that is not. -/
theorem splitMapped_cases (content : Text) :
    (∃ name, content = name ++ mappedMark ∧ splitMapped content = (trimEnd name, true)) ∨
      (¬ mappedMark <:+ content ∧ splitMapped content = (content, false)) := by
  by_cases h : mappedMark <:+ content
  · obtain ⟨name, rfl⟩ := h
    exact .inl ⟨name, rfl, splitMapped_append_mappedMark name⟩
  · exact .inr ⟨h, splitMapped_of_not_suffix h⟩

/-- The mark of a mapped function starts with a blank, so that a trimmed text is more than the mark
and its name is not empty. -/
theorem splitMapped_fst_ne_nil {content : Text} (h : Trimmed content) (hne : content ≠ []) :
    (splitMapped content).1 ≠ [] := by
  rcases splitMapped_cases content with ⟨name, rfl, hsplit⟩ | ⟨-, hsplit⟩
  · rw [hsplit]
    have hname : name ≠ [] := by
      rintro rfl
      exact absurd (startsVisible_cons_iff.mp h.1) (by decide)
    exact trimEnd_ne_nil (h.1.of_isPrefix (List.prefix_append name mappedMark)) hname
  · rw [hsplit]
    exact hne

/-- What reading a definition after the marker found on the way. -/
theorem parseAfterMarker_eq_ok_iff {rest : Text} {source : SourceLine} {definition : Definition} :
    parseAfterMarker rest source = .ok definition ↔
      ∃ symbol afterSymbol digits afterIndex index content,
        cutAt? ' ' rest = some (symbol, afterSymbol) ∧ symbol ≠ [] ∧
        cutAt? ' ' (trim afterSymbol) = some (digits, afterIndex) ∧
        parseIndex digits source = .ok index ∧
        commentBody? (trim afterIndex) = some content ∧
        (splitMapped content).1 ≠ [] ∧
        definition = {
          symbol, index, functionName := (splitMapped content).1,
          isMapped := (splitMapped content).2, source := some source } := by
  constructor
  · intro h
    unfold parseAfterMarker at h
    split at h
    · cases h
    rename_i symbol afterSymbol hsymbol
    split at h
    · cases h
    rename_i hne
    split at h
    · cases h
    rename_i digits afterIndex hdigits
    split at h
    · cases h
    rename_i index hindex
    split at h
    · cases h
    rename_i content hcontent
    simp only at h
    split at h
    · cases h
    rename_i hname
    cases h
    exact ⟨symbol, afterSymbol, digits, afterIndex, index, content, hsymbol, by simpa using hne,
      hdigits, hindex, hcontent, by simpa using hname, rfl⟩
  · rintro ⟨symbol, afterSymbol, digits, afterIndex, index, content, hsymbol, hne, hdigits, hindex,
      hcontent, hname, rfl⟩
    have hne' : symbol.isEmpty = false := by simpa using hne
    have hname' : (splitMapped content).1.isEmpty = false := by simpa using hname
    simp [parseAfterMarker, hsymbol, hne', hdigits, hindex, hcontent, hname']

theorem isDefinition_iff {line : Text} : isDefinition line = true ↔ marker <+: line := by
  rw [isDefinition, startsWith, Option.isSome_iff_exists]
  exact exists_congr fun rest => dropFront?_eq_some_iff.trans eq_comm

/-- A line without the marker is no definition, and every other line has to be one. -/
theorem parse_eq_none_iff {line : Text} {source : SourceLine} :
    parse line source = .ok none ↔ ¬ marker <+: line := by
  rw [parse, Letter.ofText_char]
  split
  · rename_i hnone
    refine ⟨fun _ ⟨rest, hrest⟩ => ?_, fun _ => rfl⟩
    rw [dropFront?_eq_some_iff.mpr hrest.symm] at hnone
    cases hnone
  · rename_i rest hrest
    have hprefix : marker <+: line := ⟨rest, (dropFront?_eq_some_iff.mp hrest).symm⟩
    cases parseAfterMarker rest source <;> simp [Except.map, hprefix]

/-- A line without the marker is skipped. -/
theorem parse_of_isDefinition_eq_false {line : Text} (h : isDefinition line = false)
    (source : SourceLine) : parse line source = .ok none :=
  parse_eq_none_iff.mpr fun hmarker => Bool.false_ne_true (h ▸ isDefinition_iff.mpr hmarker)

theorem parse_eq_some_iff {line : Text} {source : SourceLine} {definition : Definition} :
    parse line source = .ok (some definition) ↔
      ∃ rest, line = marker ++ rest ∧ parseAfterMarker rest source = .ok definition := by
  rw [parse, Letter.ofText_char]
  constructor
  · intro h
    split at h
    · cases h
    · rename_i rest hrest
      refine ⟨rest, dropFront?_eq_some_iff.mp hrest, ?_⟩
      cases hafter : parseAfterMarker rest source with
      | error failure => rw [hafter] at h; cases h
      | ok found => rw [hafter] at h; cases h; rfl
  · rintro ⟨rest, rfl, hafter⟩
    rw [dropFront?_eq_some_iff.mpr rfl]
    simp [hafter, Except.map]

/-! ## Lines and their parts -/

namespace Parts

/-- The comment, with its marks. -/
def comment (parts : Parts) : Text := "/*".toList ++ parts.body ++ "*/".toList

/-- What stands between the blanks after the symbol. -/
def core (parts : Parts) : Text :=
  parts.digits ++ ' ' :: (parts.gapBeforeComment ++ parts.comment)

/-- The line that the parts make up. -/
def line (parts : Parts) : Text :=
  marker ++ parts.symbol ++ [' '] ++ parts.gapBeforeIndex ++ parts.digits ++ [' '] ++
    parts.gapBeforeComment ++ "/*".toList ++ parts.body ++ "*/".toList ++ parts.gapAtEnd

/-- The body of the comment without the blanks at its ends. -/
def content (parts : Parts) : Text := trim parts.body

/-- The definition is the one that the parts stand for. -/
structure Describes (parts : Parts) (definition : Definition) : Prop where
  symbol : definition.symbol = parts.symbol
  index : definition.index = Nat.ofDigitChars 10 parts.digits 0
  isMapped : definition.isMapped = true ↔ mappedMark <:+ parts.content
  functionName_unmapped : definition.isMapped = false → definition.functionName = parts.content
  functionName_mapped : ∀ name, parts.content = name ++ mappedMark →
    definition.functionName = trimEnd name

variable (parts : Parts)

theorem line_eq : parts.line =
    marker ++ (parts.symbol ++ ' ' :: (parts.gapBeforeIndex ++ parts.core ++ parts.gapAtEnd)) := by
  simp [line, core, comment]

theorem trimmed_comment : Trimmed parts.comment := by
  refine ⟨startsVisible_cons_iff.mpr (by decide), ?_⟩
  have heq : parts.comment = ("/*".toList ++ parts.body ++ ['*']) ++ ['/'] := by simp [comment]
  rw [heq, endsVisible_concat_iff]
  decide

theorem trimmed_core : Trimmed parts.core := by
  constructor
  · obtain ⟨c, rest, heq⟩ := List.exists_cons_of_ne_nil parts.digits_ne_nil
    rw [core, heq, List.cons_append, startsVisible_cons_iff]
    exact isBlank_eq_false_of_isDigit (parts.isDigit_of_mem c (heq ▸ List.mem_cons_self))
  · have heq : parts.core = (parts.digits ++ ' ' ::
        (parts.gapBeforeComment ++ "/*".toList ++ parts.body ++ ['*'])) ++ ['/'] := by
      simp [core, comment]
    rw [heq, endsVisible_concat_iff]
    decide

theorem trim_afterSymbol :
    trim (parts.gapBeforeIndex ++ parts.core ++ parts.gapAtEnd) = parts.core :=
  trim_between parts.blanks_beforeIndex parts.trimmed_core parts.blanks_atEnd

theorem takeWhile_isBlank_afterSymbol :
    (parts.gapBeforeIndex ++ parts.core ++ parts.gapAtEnd).takeWhile isBlank =
      parts.gapBeforeIndex := by
  have hvisible : StartsVisible (parts.core ++ parts.gapAtEnd) :=
    parts.trimmed_core.1.append (by simp [core])
  rw [List.append_assoc, takeWhile_isBlank_append parts.blanks_beforeIndex hvisible]

theorem trim_afterIndex : trim (parts.gapBeforeComment ++ parts.comment) = parts.comment := by
  simpa using trim_between parts.blanks_beforeComment parts.trimmed_comment blanks_nil

theorem space_not_mem_digits : ' ' ∉ parts.digits := by
  intro h
  exact absurd (parts.isDigit_of_mem ' ' h) (by decide)

theorem content_ne_nil : parts.content ≠ [] := by
  intro h
  obtain ⟨c, hc, hvisible⟩ := parts.exists_visible
  rw [trim_eq_nil_iff.mp h c hc] at hvisible
  cases hvisible

/-- The definition that the parts stand for, as it is read. -/
def definition (source : SourceLine) : Definition where
  symbol := parts.symbol
  index := readDecimal parts.digits
  functionName := (splitMapped parts.content).1
  isMapped := (splitMapped parts.content).2
  source := some source

theorem describes_definition (source : SourceLine) :
    parts.Describes (parts.definition source) := by
  rcases splitMapped_cases parts.content with ⟨name, hcontent, hsplit⟩ | ⟨hmark, hsplit⟩
  · refine ⟨rfl, rfl, ?_, fun h => ?_, fun other hother => ?_⟩
    · exact ⟨fun _ => ⟨name, hcontent.symm⟩, fun _ => by rw [definition, hsplit]⟩
    · rw [definition, hsplit] at h
      cases h
    · rw [definition, hsplit, List.append_cancel_right (hcontent.symm.trans hother)]
  · refine ⟨rfl, rfl, ?_, fun _ => ?_, fun name hname => ?_⟩
    · simp [definition, hsplit, hmark]
    · rw [definition, hsplit]
    · exact absurd ⟨name, hname.symm⟩ hmark

/-- **Completeness.** Reading the line of the parts gives their definition. -/
theorem parse_line (source : SourceLine) :
    parse parts.line source = .ok (some (parts.definition source)) := by
  refine parse_eq_some_iff.mpr ⟨_, parts.line_eq, parseAfterMarker_eq_ok_iff.mpr ?_⟩
  refine ⟨parts.symbol, _, parts.digits, parts.gapBeforeComment ++ parts.comment,
    readDecimal parts.digits, parts.content, cutAt?_append parts.space_not_mem_symbol _,
    parts.symbol_ne_nil, ?_, ?_, ?_, ?_, rfl⟩
  · rw [trim_afterSymbol]
    exact cutAt?_append parts.space_not_mem_digits _
  · exact parseIndex_eq_ok_iff.mpr
      ⟨⟨parts.digits_ne_nil, parts.isDigit_of_mem, parts.length_digits_le⟩, rfl⟩
  · rw [trim_afterIndex]
    exact commentBody?_eq_some_iff.mpr ⟨parts.body, rfl, rfl⟩
  · exact splitMapped_fst_ne_nil (trimmed_trim _) parts.content_ne_nil

/-- **Uniqueness.** A line determines its parts. -/
theorem line_injective : Function.Injective line := by
  intro p q h
  rw [line_eq, line_eq, List.append_cancel_left_eq] at h
  have hsymbol := cutAt?_append p.space_not_mem_symbol (p.gapBeforeIndex ++ p.core ++ p.gapAtEnd)
  rw [h, cutAt?_append q.space_not_mem_symbol, Option.some.injEq, Prod.mk.injEq] at hsymbol
  obtain ⟨hsymbol, hafter⟩ := hsymbol
  have hcore : p.core = q.core := by rw [← p.trim_afterSymbol, ← hafter, q.trim_afterSymbol]
  have hfront : p.gapBeforeIndex = q.gapBeforeIndex := by
    rw [← p.takeWhile_isBlank_afterSymbol, ← hafter, q.takeWhile_isBlank_afterSymbol]
  have hback : p.gapAtEnd = q.gapAtEnd := by
    rw [hcore, hfront] at hafter
    exact (List.append_cancel_left hafter).symm
  have hdigits := cutAt?_append p.space_not_mem_digits (p.gapBeforeComment ++ p.comment)
  rw [← core, hcore, core, cutAt?_append q.space_not_mem_digits, Option.some.injEq,
    Prod.mk.injEq] at hdigits
  obtain ⟨hdigits, hrest⟩ := hdigits
  have hcomment : p.comment = q.comment := by
    rw [← p.trim_afterIndex, ← hrest, q.trim_afterIndex]
  have hmiddle : p.gapBeforeComment = q.gapBeforeComment := by
    rw [hcomment] at hrest
    exact (List.append_cancel_right hrest).symm
  have hbody : p.body = q.body := by simpa [comment] using hcomment
  cases p
  cases q
  simp_all

end Parts

/-- **Soundness.** A line on which a definition is read has parts. -/
theorem exists_parts_of_parse {line : Text} {source : SourceLine} {definition : Definition}
    (h : parse line source = .ok (some definition)) : ∃ parts : Parts, parts.line = line := by
  obtain ⟨rest, rfl, hrest⟩ := parse_eq_some_iff.mp h
  obtain ⟨symbol, afterSymbol, digits, afterIndex, index, content, hsymbol, hne, hdigits, hindex,
    hcontent, hname, -⟩ := parseAfterMarker_eq_ok_iff.mp hrest
  obtain ⟨rfl, hspace⟩ := cutAt?_eq_some hsymbol
  obtain ⟨hcore, -⟩ := cutAt?_eq_some hdigits
  obtain ⟨⟨hdigitsNe, hall, hlength⟩, -⟩ := parseIndex_eq_ok_iff.mp hindex
  obtain ⟨body, hcomment, rfl⟩ := commentBody?_eq_some_iff.mp hcontent
  obtain ⟨front, back, hafterSymbol, hfront, hback⟩ := trim_eq afterSymbol
  obtain ⟨front', back', hafterIndex, hfront', hback'⟩ := trim_eq afterIndex
  -- a body of blanks would leave no name
  have hvisible : ∃ c ∈ body, isBlank c = false := by
    by_contra hnone
    push Not at hnone
    have hblanks : Blanks body := fun c hc => by simpa using hnone c hc
    rw [trim_eq_nil_iff.mpr hblanks] at hname
    exact hname rfl
  -- the comment ends in a mark, so that all blanks after it are those at the end of the line
  refine ⟨⟨symbol, front, digits, front', body, back' ++ back, hne, hspace, hfront, hdigitsNe,
    hall, hlength, hfront', hvisible, Blanks.append hback' hback⟩, ?_⟩
  rw [hafterSymbol, hcore, hafterIndex, hcomment]
  simp [Parts.line]

/-- **Reading accepts exactly the grammar.** A line without the marker is no definition. A
definition is read exactly from a line that has parts; the line determines them, and they determine
the definition. -/
theorem parse_accepts_exactly_parts (line : Text) (source : SourceLine) :
    (parse line source = .ok none ↔ ¬ marker <+: line) ∧
    ((∃ definition, parse line source = .ok (some definition)) ↔
      ∃ parts : Parts, parts.line = line) ∧
    (∀ parts other : Parts, parts.line = line → other.line = line → parts = other) ∧
    ∀ (definition : Definition) (parts : Parts), parse line source = .ok (some definition) →
      parts.line = line → parts.Describes definition ∧ definition.source = some source := by
  refine ⟨parse_eq_none_iff, ⟨?_, ?_⟩, ?_, ?_⟩
  · rintro ⟨definition, h⟩
    exact exists_parts_of_parse h
  · rintro ⟨parts, rfl⟩
    exact ⟨_, parts.parse_line source⟩
  · rintro parts other rfl hother
    exact Parts.line_injective hother.symm
  · rintro definition parts h rfl
    rw [parts.parse_line source] at h
    cases h
    exact ⟨parts.describes_definition source, rfl⟩

/-- Comment marks inside a comment are part of it. -/
theorem parse_accepts_exactly_parts_marks_inside :
    ∃ parts : Parts, parts.line = "#define ZIS_STUB_F 07 /*/ */ mapped */ ".toList ∧
      parts.Describes ⟨['F'], 7, "/ */".toList, true, some ⟨[], 1, []⟩⟩ := by
  have hread : parse "#define ZIS_STUB_F 07 /*/ */ mapped */ ".toList ⟨[], 1, []⟩ =
      .ok (some ⟨['F'], 7, "/ */".toList, true, some ⟨[], 1, []⟩⟩) := by rfl
  obtain ⟨-, hparts, -, hdescribes⟩ :=
    parse_accepts_exactly_parts "#define ZIS_STUB_F 07 /*/ */ mapped */ ".toList ⟨[], 1, []⟩
  obtain ⟨parts, hline⟩ := hparts.mp ⟨_, hread⟩
  exact ⟨parts, hline, (hdescribes _ parts hread hline).1⟩

end StubVector.Line
