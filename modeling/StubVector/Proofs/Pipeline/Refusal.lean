import StubVector.Proofs.Pipeline.Offence

/-!
# What is refused, and for what

* `Header.malformed_located_or_oversized`: a header is refused for its first line that cannot be
  read, at the place of that line or for an oversized index.
* `Header.not_forall_located`: an oversized index is indeed refused without a place.
* `generate_reports_first_offence`: generating fails with the first offence, unless the output kind
  or the dispatch mode is unknown.
-/

namespace StubVector

open Fragment

/-! ## Reading a header -/

namespace Header

/-- Reading is the run that delivers the definitions themselves. -/
theorem expandLinesAfter_definitions (path : Text) (before : Nat) (lines : List Text) :
    Pipeline.definitions.expandLinesAfter path before lines =
      parseLinesAfter path before lines := by
  induction lines generalizing before with
  | nil => rfl
  | cons line lines ih =>
    have hfound : ∀ found : Option Definition,
        Pipeline.definitions.expandAll found.toList = .ok found.toList := by
      intro found
      cases found <;> rfl
    rw [Pipeline.expandLinesAfter, parseLinesAfter, ih]
    cases Line.parse line (sourceLine path before line) with
    | error failure => rfl
    | ok found => simp only [hfound]

theorem parseLines_eq_error_iff {path : Text} {lines : List Text} {failure : Failure} :
    parseLines path lines = .error failure ↔
      ∃ n, FirstOffence Anywhere (sourceLines path lines) n failure := by
  rw [parseLines, ← expandLinesAfter_definitions,
    Pipeline.expandLinesAfter_eq_error_iff serves_definitions, sourceLines]

/-- **Located or oversized.** A line with the marker is read or refused at its place unless its
index has more digits than are read, and then it is refused for that. With no more digits, every
line that has the parts of a definition line is read, and its index is the value of the digits. What
a header is refused for is the first line that cannot be read. -/
theorem malformed_located_or_oversized (line : Text) (source : SourceLine) (path : Text)
    (lines : List Text) :
    (Line.marker <+: line →
      (((∃ definition, Line.parse line source = .ok (some definition)) ∨
        ∃ fault, Line.parse line source = .error (.faulty fault source)) ↔
        ∀ count, ¬ Line.IndexOversized line count)) ∧
    (∀ count, Line.IndexOversized line count →
      Line.parse line source = .error (.oversizedIndex count)) ∧
    (∀ parts : Line.Parts, ∃ definition, Line.parse parts.line source = .ok (some definition) ∧
      definition.index = Nat.ofDigitChars 10 parts.digits 0) ∧
    ∀ failure, parseLines path lines = .error failure → ∃ (n : Nat) (line : Text),
      FirstOffence Anywhere (sourceLines path lines) n failure ∧ lines[n]? = some line ∧
      ((∃ fault, failure = .faulty fault { path, lineNumber := n + 1, text := line }) ∨
        ∃ count, failure = .oversizedIndex count ∧ Line.IndexOversized line count) := by
  refine ⟨fun hmarker => Line.located_iff hmarker source,
    fun count => Line.parse_eq_oversizedIndex_iff.mpr,
    fun parts => ⟨_, parts.parse_line source, rfl⟩, fun failure hfail => ?_⟩
  obtain ⟨n, hfirst⟩ := parseLines_eq_error_iff.mp hfail
  obtain ⟨line, hline, hoffence⟩ := firstOffence_sourceLines hfirst
  refine ⟨n, line, hfirst, hline, ?_⟩
  cases hoffence with
  | unreadable hread =>
    rcases Line.parse_eq_error hread with ⟨fault, rfl, -⟩ | hoversized
    · exact .inl ⟨fault, rfl⟩
    · exact .inr hoversized
  | outOfReach _ hnot => exact absurd trivial hnot

/-- A line without an index is refused at its place, and so is a header for it. -/
theorem malformed_located_or_oversized_no_index :
    (∀ count, ¬ Line.IndexOversized "#define ZIS_STUB_FOO".toList count) ∧
      ∃ (n : Nat) (line : Text), FirstOffence Anywhere
        (sourceLines "h".toList [[], "#define ZIS_STUB_FOO".toList]) n
        (.faulty .badDefine ⟨"h".toList, 2, "#define ZIS_STUB_FOO".toList⟩) ∧
        [[], "#define ZIS_STUB_FOO".toList][n]? = some line := by
  obtain ⟨hlocated, -, -, hheader⟩ := malformed_located_or_oversized "#define ZIS_STUB_FOO".toList
    (Line.placeless "#define ZIS_STUB_FOO".toList) "h".toList [[], "#define ZIS_STUB_FOO".toList]
  obtain ⟨n, line, hfirst, hline, -⟩ := hheader _ (by rfl)
  exact ⟨(hlocated (by decide)).mp (.inr ⟨.badDefine, by rfl⟩), n, line, hfirst, hline⟩

/-- The line of a definition whose index is written with these digits. -/
def lineOfDigits (digits : Text) : Text :=
  Line.marker ++ ['D'] ++ [' '] ++ [] ++ digits ++ [' '] ++ "/* d */".toList

theorem indexOversized_lineOfDigits {digits : Text} (hdigits : ∀ c ∈ digits, c.isDigit = true)
    (hlong : 4300 < digits.length) : Line.IndexOversized (lineOfDigits digits) digits.length :=
  ⟨['D'], [], digits, "/* d */".toList, rfl, by decide, by decide, Text.blanks_nil, hdigits, rfl,
    hlong, '/', by decide, by decide⟩

/-- Not every line with the marker is read or refused at its place: not that of 4301 digits. -/
theorem not_forall_located : ¬ ∀ (line : Text) (source : SourceLine), Line.marker <+: line →
    (∃ definition, Line.parse line source = .ok (some definition)) ∨
      ∃ fault, Line.parse line source = .error (.faulty fault source) := by
  intro h
  obtain ⟨digits, hdigits, hlength⟩ :
      ∃ digits : Text, (∀ c ∈ digits, c.isDigit = true) ∧ digits.length = 4301 := by
    refine ⟨List.replicate 4301 '9', fun c hc => ?_, List.length_replicate⟩
    rw [List.eq_of_mem_replicate hc]
    decide
  have hmarker : Line.marker <+: lineOfDigits digits := by
    unfold lineOfDigits
    simp only [List.append_assoc]
    exact List.prefix_append _ _
  have hparse : Line.parse (lineOfDigits digits) (Line.placeless (lineOfDigits digits)) =
      .error (.oversizedIndex digits.length) :=
    Line.parse_eq_oversizedIndex_iff.mpr (indexOversized_lineOfDigits hdigits (by omega))
  rcases h (lineOfDigits digits) (Line.placeless (lineOfDigits digits)) hmarker with
    ⟨definition, hread⟩ | ⟨fault, hread⟩ <;> rw [hparse] at hread <;> cases hread

end Header

/-! ## Generating -/

section Generate

variable {path : Text} {lines : List Text} {kind mode : Selector} {output : OutputKind}
  {failure : Failure}

theorem generate_eq_of_ofKind {pipeline : Pipeline Text}
    (h : Pipeline.ofKind kind mode = .ok pipeline) :
    generate path lines kind mode = (pipeline.run path lines).map Text.unlines := by
  rw [generate, h]
  rfl

theorem generate_of_unknown_kind (h : kind.kind? = none) :
    generate path lines kind mode = .error (.unknownKind kind) := by
  simp [generate, Pipeline.ofKind, h, Except.bind, Except.map]

theorem generate_of_unknown_mode (h : kind.kind? = some .asm) (hmode : mode.mode? = none) :
    generate path lines kind mode = .error (.unknownMode mode) := by
  simp [generate, Pipeline.ofKind, h, Pipeline.asm, resolveMode, hmode, Pipeline.failing,
    Pipeline.run, Pipeline.enclose, Except.bind, Except.map]

theorem generate_eq_error_iff (h : Selector.Known kind mode output) :
    generate path lines kind mode = .error failure ↔
      ∃ n, FirstOffence output.Reaches (Header.sourceLines path lines) n failure := by
  obtain ⟨pipeline, hpipeline, hopening, -, hserves⟩ := h.exists_pipeline
  rw [generate_eq_of_ofKind hpipeline, ← Pipeline.run_eq_error_iff hserves hopening]
  cases pipeline.run path lines <;> simp [Except.map]

theorem exists_generate_eq_ok_iff (h : Selector.Known kind mode output) :
    (∃ text, generate path lines kind mode = .ok text) ↔
      ∀ source ∈ Header.sourceLines path lines, Clean output.Reaches source := by
  obtain ⟨pipeline, hpipeline, hopening, -, hserves⟩ := h.exists_pipeline
  rw [generate_eq_of_ofKind hpipeline, ← Pipeline.exists_run_eq_ok_iff hserves hopening]
  cases pipeline.run path lines <;> simp [Except.map]

/-- Generating succeeds exactly if the header can be read and its definitions are in reach. -/
theorem exists_generate_eq_ok_iff_reaches (h : Selector.Known kind mode output) :
    (∃ text, generate path lines kind mode = .ok text) ↔
      ∃ definitions, Header.parseLines path lines = .ok definitions ∧
        ∀ definition ∈ definitions, output.Reaches definition := by
  obtain ⟨member, hmember⟩ := h.exists_ofKind_eq (α := Char)
  have hgenerate : generate path lines kind mode =
      generate path lines (.kind output) (.mode member) := by
    rw [generate, hmember, generate]
  simp only [hgenerate, generate_eq_ok_iff]
  cases output with
  | asm =>
    simp only [emitLines_asm_eq_ok_iff, offset_le_maxOffset_iff]
    constructor
    · rintro ⟨text, definitions, out, hread, ⟨hreach, rfl⟩, -⟩
      exact ⟨definitions, hread, hreach⟩
    · rintro ⟨definitions, hread, hreach⟩
      exact ⟨_, definitions, _, hread, ⟨hreach, rfl⟩, rfl⟩
  | init =>
    simp only [emitLines_init]
    constructor
    · rintro ⟨text, definitions, out, hread, -, -⟩
      exact ⟨definitions, hread, fun _ _ => trivial⟩
    · rintro ⟨definitions, hread, -⟩
      exact ⟨_, definitions, _, hread, rfl, rfl⟩

/-- **The first offence is reported, and nothing else.** An unknown output kind is reported whatever
the lines and the mode are, and for stub routines an unknown mode whatever the lines are. Otherwise
generating succeeds exactly if no line offends, and fails with the failure of the first line that
does. A fault has the path, the number and the text of that line, and a definition that is read but
out of reach is such a fault. So stub routines can be generated exactly if init statements can and
all indices are in reach, and where init statements fail, they fail no later. -/
theorem generate_reports_first_offence (path : Text) (lines : List Text) :
    (∀ kind mode : Selector, kind.kind? = none →
      generate path lines kind mode = .error (.unknownKind kind) ∧
        (Failure.unknownKind kind).message = "unknown output kind ".toList ++ kind.describe) ∧
    (∀ kind mode : Selector, kind.kind? = some .asm → mode.mode? = none →
      generate path lines kind mode = .error (.unknownMode mode) ∧
        (Failure.unknownMode mode).message = "unknown dispatch mode ".toList ++ mode.describe) ∧
    (∀ kind mode output, Selector.Known kind mode output →
      ((∃ text, generate path lines kind mode = .ok text) ↔
        ∀ source ∈ Header.sourceLines path lines, Clean output.Reaches source) ∧
      ∀ failure, generate path lines kind mode = .error failure ↔
        ∃ n, FirstOffence output.Reaches (Header.sourceLines path lines) n failure) ∧
    (∀ reach n fault source,
      FirstOffence reach (Header.sourceLines path lines) n (.faulty fault source) →
        ∃ line, lines[n]? = some line ∧ source = { path, lineNumber := n + 1, text := line }) ∧
    (∀ reach n failure source definition,
      FirstOffence reach (Header.sourceLines path lines) n failure →
        (Header.sourceLines path lines)[n]? = some source →
        Line.parse source.text source = .ok (some definition) →
        failure = .faulty .indexOutOfRange source ∧
          Fault.message .indexOutOfRange = "stub index out of range".toList) ∧
    (∀ kind mode kind' mode', Selector.Known kind mode .init → Selector.Known kind' mode' .asm →
      ((∃ text, generate path lines kind' mode' = .ok text) ↔
        (∃ text, generate path lines kind mode = .ok text) ∧
          ∀ definitions, Header.parseLines path lines = .ok definitions →
            ∀ definition ∈ definitions, definition.index ≤ 65535) ∧
      ∀ n failure, FirstOffence OutputKind.init.Reaches (Header.sourceLines path lines) n failure →
        ∃ m ≤ n, ∃ other, generate path lines kind' mode' = .error other ∧
          FirstOffence OutputKind.asm.Reaches (Header.sourceLines path lines) m other) := by
  refine ⟨fun kind mode h => ⟨generate_of_unknown_kind h, rfl⟩,
    fun kind mode h hmode => ⟨generate_of_unknown_mode h hmode, rfl⟩,
    fun kind mode output h => ⟨exists_generate_eq_ok_iff h, fun failure =>
      generate_eq_error_iff h⟩, ?_, ?_, fun kind mode kind' mode' hinit hasm => ⟨?_, ?_⟩⟩
  · -- a fault stands at the line that offends
    intro reach n fault source hfirst
    obtain ⟨line, hline, hoffence⟩ := firstOffence_sourceLines hfirst
    exact ⟨line, hline, hoffence.source_eq⟩
  · intro reach n failure source definition hfirst hsource hread
    obtain ⟨found, hfound, hoffence⟩ := hfirst.offence
    rw [hsource] at hfound
    cases hfound
    exact ⟨((offence_iff_of_some hread).mp hoffence).2, rfl⟩
  · rw [exists_generate_eq_ok_iff_reaches hasm, exists_generate_eq_ok_iff_reaches hinit]
    constructor
    · rintro ⟨definitions, hread, hreach⟩
      refine ⟨⟨definitions, hread, fun _ _ => trivial⟩, fun others hothers => ?_⟩
      rw [hread] at hothers
      cases hothers
      exact hreach
    · rintro ⟨⟨definitions, hread, -⟩, hreach⟩
      exact ⟨definitions, hread, hreach definitions hread⟩
  · -- a line that cannot be read offends against every reach
    intro n failure hfirst
    obtain ⟨source, hsource, hoffence⟩ := hfirst.offence
    have hasmOffence : ∃ fault, Offence OutputKind.asm.Reaches source fault :=
      hoffence.exists_of_imp fun _ _ => trivial
    obtain ⟨fault, hfault⟩ := hasmOffence
    obtain ⟨m, hm, other, hother⟩ := exists_firstOffence_le hsource hfault
    exact ⟨m, hm, other, (generate_eq_error_iff hasm).mpr ⟨m, hother⟩, hother⟩

/-- The second line is out of reach for stub routines, and the third one cannot be read at all. -/
theorem generate_reports_first_offence_two_offences :
    generate "h".toList
        ["".toList, "#define ZIS_STUB_A 65536 /* f */".toList, "#define ZIS_STUB_B".toList]
        (.kind .asm) (.mode .zvte) =
      .error (.faulty .indexOutOfRange
        ⟨"h".toList, 2, "#define ZIS_STUB_A 65536 /* f */".toList⟩) ∧
    generate "h".toList
        ["".toList, "#define ZIS_STUB_A 65536 /* f */".toList, "#define ZIS_STUB_B".toList]
        (.kind .init) (.mode .zvte) =
      .error (.faulty .badDefine ⟨"h".toList, 3, "#define ZIS_STUB_B".toList⟩) := by
  obtain ⟨-, -, hknown, -⟩ := generate_reports_first_offence "h".toList
    ["".toList, "#define ZIS_STUB_A 65536 /* f */".toList, "#define ZIS_STUB_B".toList]
  have hblank : ∀ reach source, source = Header.sourceLine "h".toList 0 "".toList →
      Clean reach source := by
    rintro reach source rfl
    exact not_offence_of_none rfl
  have hread : Line.parse "#define ZIS_STUB_A 65536 /* f */".toList
      ⟨"h".toList, 2, "#define ZIS_STUB_A 65536 /* f */".toList⟩ =
      .ok (some ⟨['A'], 65536, ['f'], false,
        some ⟨"h".toList, 2, "#define ZIS_STUB_A 65536 /* f */".toList⟩⟩) := by rfl
  constructor
  · refine ((hknown (.kind .asm) (.mode .zvte) .asm ⟨rfl, fun _ => ⟨.zvte, rfl⟩⟩).2 _).mpr
      ⟨1, ⟨_, rfl, .outOfReach hread (by simp [OutputKind.Reaches])⟩, ?_⟩
    rintro m hm source hsource
    obtain rfl : m = 0 := by omega
    exact hblank _ source (Option.some.inj hsource).symm
  · refine ((hknown (.kind .init) (.mode .zvte) .init ⟨rfl, by simp⟩).2 _).mpr
      ⟨2, ⟨_, rfl, .unreadable (by rfl)⟩, ?_⟩
    rintro m hm source hsource
    obtain rfl | rfl : m = 0 ∨ m = 1 := by omega
    · exact hblank _ source (Option.some.inj hsource).symm
    · cases hsource
      intro failure hoffence
      exact ((offence_iff_of_some hread).mp hoffence).1 trivial

end Generate

end StubVector
