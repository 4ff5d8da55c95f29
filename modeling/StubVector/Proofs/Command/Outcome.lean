import StubVector.Command
import StubVector.Proofs.Arguments.Separator
import StubVector.Proofs.Charset.Utf8
import StubVector.Proofs.FileTree.Writing
import StubVector.Proofs.Text.Wide

/-!
# How a run of the command ends

A run fails in one of the stages that come before anything is printed or written, the last of which
is to open the output. So a run that does not succeed leaves nothing behind. Only a generated text
with halves of pairs, which no file can store, is found out when the output is already empty.

* `Request.Generates`: the generated text for a request.
* `Request.Fails`: the stages in which a request fails, and the error of each.
* `Request.Empties`: where a request fails later, with its output emptied.
* `Command.carryOut_answer_of_fails`: a request that fails is reported, and nothing else happens.
* `Command.run_all_or_nothing`: **all or nothing**.
-/

namespace StubVector

namespace Request

variable {host : Host} {charsets : Charsets} {request : Request} {files after : FileTree}
  {error : Error} {path : Path} {lines : List WideText} {text : WideText} {halves : HalfRow}

/-- Whether the header of a request stands at the path and has these lines. -/
def Reads (request : Request) (charsets : Charsets) (files : FileTree) (path : Path)
    (lines : List WideText) : Prop :=
  request.path? = some path ∧ ∃ charset, request.charset = some charset ∧
    HeaderFile.readLines charsets files path charset = .ok lines

/-- Whether the text is what a request asks for. -/
def Asks (request : Request) (charsets : Charsets) (files : FileTree) (text : WideText) : Prop :=
  ∃ path lines, request.Reads charsets files path lines ∧ request.textOf path lines = .ok text

/-- Whether the text is what is generated for a request. -/
def Generates (request : Request) (charsets : Charsets) (files : FileTree) (text : WideText) :
    Prop :=
  ∃ path charset, request.path? = some path ∧ request.charset = some charset ∧
    HeaderFile.generate charsets files path (.kind request.kind) (.mode request.mode) charset =
      .ok text

/-- The stages in which a request fails, and the error of each. -/
inductive Fails (request : Request) (host : Host) (files : FileTree) : Error → Prop
  /-- The header has no path. -/
  | pathless (hpath : request.path? = none) : Fails request host files .textlessPath
  /-- The charset has no name. -/
  | nameless {path : Path} (hpath : request.path? = some path) (hcharset : request.charset = none) :
      Fails request host files (.header .namelessCharset)
  /-- The header cannot be opened, or not be decoded. -/
  | unreadable {path : Path} {charset : WideText} {cause : HeaderError}
      (hpath : request.path? = some path) (hcharset : request.charset = some charset)
      (hread : HeaderFile.readLines host.charsets files path charset = .error cause) :
      Fails request host files (.header cause)
  /-- The definitions cannot be read, or no text can be made of them. -/
  | refused {path : Path} {lines : List WideText} {cause : Failure CodePoint}
      (hlines : request.Reads host.charsets files path lines)
      (htext : request.textOf path lines = .error cause) : Fails request host files (.failure cause)
  /-- The console refuses the text. -/
  | unprintable {text : WideText} {halves : HalfRow} (htext : request.Asks host.charsets files text)
      (hprint : request.deliver text = .print text)
      (hhalves : host.console.refused? text = some halves) :
      Fails request host files (.unprintable halves)
  /-- The output cannot be opened. -/
  | unwritable {output : WideText} {text : WideText} {cause : FileError}
      (hprints : request.printsDefinitions = false) (houtput : request.output = some output)
      (hne : output ≠ []) (htext : request.Generates host.charsets files text)
      (hopen : files.write (Path.ofText output) [] = .error cause) :
      Fails request host files (.file cause)

/-- Whether the generated text of a request cannot be stored for these halves of pairs, and these
files are left, in which the output is empty. -/
inductive Empties (request : Request) (charsets : Charsets) (files : FileTree) :
    HalfRow → FileTree → Prop
  | intro {output text : WideText} {halves : HalfRow} {after : FileTree}
      (hprints : request.printsDefinitions = false) (houtput : request.output = some output)
      (hne : output ≠ []) (htext : request.Generates charsets files text)
      (hhalves : text.asText = .error halves)
      (hopen : files.write (Path.ofText output) [] = .ok after) :
      Empties request charsets files halves after

/-! ## What lies behind an answer -/

theorem linesOf_read_eq_ok_iff (hpath : request.path? = some path) :
    request.linesOf charsets path (files.read path) = .ok lines ↔
      request.Reads charsets files path lines := by
  rw [linesOf, Reads]
  cases request.charset with
  | none => simp
  | some charset =>
    change Except.mapError _ (HeaderFile.readLines charsets files path charset) = _ ↔ _
    cases hread : HeaderFile.readLines charsets files path charset <;>
      simp [Except.mapError, hpath, hread]

theorem fails_of_linesOf_read (hpath : request.path? = some path)
    (h : request.linesOf host.charsets path (files.read path) = .error error) :
    request.Fails host files error := by
  rw [linesOf] at h
  split at h
  · next hcharset =>
    cases h
    exact .nameless hpath hcharset
  · next charset hcharset =>
    change Except.mapError _ (HeaderFile.readLines host.charsets files path charset) = _ at h
    cases hread : HeaderFile.readLines host.charsets files path charset with
    | error cause =>
      rw [hread] at h
      cases h
      exact .unreadable hpath hcharset hread
    | ok lines => rw [hread] at h; cases h

/-- Unless definitions are printed, the text that is asked for is a generated one. -/
theorem textOf_eq_generate (hprints : request.printsDefinitions = false) (path : Path)
    (lines : List WideText) : request.textOf path lines =
      generate path.toText lines (.kind request.kind) (.mode request.mode) := by
  simp [textOf, hprints]

theorem generates_iff (hprints : request.printsDefinitions = false) :
    request.Generates charsets files text ↔ request.Asks charsets files text := by
  simp only [Asks, textOf_eq_generate hprints]
  constructor
  · rintro ⟨path, charset, hpath, hcharset, h⟩
    rw [HeaderFile.generate] at h
    cases hread : HeaderFile.readLines charsets files path charset with
    | error cause => rw [hread] at h; cases h
    | ok lines =>
      simp only [hread] at h
      refine ⟨path, lines, ⟨hpath, charset, hcharset, hread⟩, ?_⟩
      cases htext : generate path.toText lines (.kind request.kind) (.mode request.mode) <;>
        rw [htext] at h <;> cases h
      rfl
  · rintro ⟨path, lines, ⟨hpath, charset, hcharset, hread⟩, htext⟩
    refine ⟨path, charset, hpath, hcharset, ?_⟩
    simp only [HeaderFile.generate, hread, htext]
    rfl

theorem deliver_of_output {output : WideText} (hprints : request.printsDefinitions = false)
    (houtput : request.output = some output) (hne : output ≠ []) :
    request.deliver text = .write (Path.ofText output) text := by
  obtain ⟨point, output, rfl⟩ := List.exists_cons_of_ne_nil hne
  rw [deliver, houtput, hprints]
  rfl

/-- Where a text goes. -/
theorem deliver_cases (request : Request) (text : WideText) :
    request.deliver text = .print text ∨
      ∃ output, request.printsDefinitions = false ∧ request.output = some output ∧ output ≠ [] ∧
        request.deliver text = .write (Path.ofText output) text := by
  rw [deliver]
  split
  · next point output houtput =>
    cases hprints : request.printsDefinitions with
    | true => exact .inl rfl
    | false => exact .inr ⟨_, rfl, houtput, List.cons_ne_nil point output, rfl⟩
  · exact .inl rfl

theorem answer_of_reads (h : request.Reads charsets files path lines) :
    request.answer charsets files.read =
      match request.textOf path lines with
      | .error cause => .report (.failure cause)
      | .ok text => request.deliver text := by
  have hlines := (linesOf_read_eq_ok_iff h.1).mpr h
  cases htext : request.textOf path lines <;> simp [answer, h.1, hlines, htext]

/-- A text that is asked for is delivered. -/
theorem answer_of_asks (h : request.Asks charsets files text) :
    request.answer charsets files.read = request.deliver text := by
  obtain ⟨path, lines, hreads, htext⟩ := h
  rw [answer_of_reads hreads, htext]

/-- A request is answered as soon as a stage fails, and else with the text that it asks for. -/
theorem answer_cases (request : Request) (host : Host) (files : FileTree) :
    (∃ error, request.Fails host files error ∧
      request.answer host.charsets files.read = .report error) ∨
      ∃ text, request.Asks host.charsets files text ∧
        request.answer host.charsets files.read = request.deliver text := by
  cases hpath : request.path? with
  | none => exact .inl ⟨_, .pathless hpath, by rw [answer, hpath]⟩
  | some path =>
    cases hlines : request.linesOf host.charsets path (files.read path) with
    | error error =>
      exact .inl ⟨error, fails_of_linesOf_read hpath hlines, by simp [answer, hpath, hlines]⟩
    | ok lines =>
      have hreads := (linesOf_read_eq_ok_iff hpath).mp hlines
      cases htext : request.textOf path lines with
      | error cause =>
        exact .inl ⟨_, .refused hreads htext, by rw [answer_of_reads hreads, htext]⟩
      | ok text =>
        have hasks : request.Asks host.charsets files text := ⟨path, lines, hreads, htext⟩
        exact .inr ⟨text, hasks, answer_of_asks hasks⟩

end Request

namespace Command

variable {host : Host} {console : Console} {request : Request} {files after : FileTree}
  {error : Error} {path : Path} {halves : HalfRow}

/-! ## Writing an output -/

/-- An output that cannot be opened is not written. -/
theorem carryOut_write_of_refused {cause : FileError} (h : files.write path [] = .error cause)
    (text : WideText) :
    carryOut console files (.write path text) =
      { exitCode := 1, stderr := report (.file cause), files } := by
  rw [carryOut, FileTree.writeText]
  cases text.asText with
  | ok stored => simp only [FileTree.write_eq_error_of_write h]
  | error halves => simp only [h]

/-- A text with halves of pairs leaves an empty output. -/
theorem carryOut_write_of_halves {text : WideText} (hhalves : text.asText = .error halves)
    (hopen : files.write path [] = .ok after) :
    carryOut console files (.write path text) =
      { exitCode := 1, stderr := report (.file (.unencodable halves)), files := after } := by
  simp only [carryOut, FileTree.writeText, hhalves, hopen]

/-- Any other text is written. -/
theorem carryOut_write_ofText {text : Text} {opened : FileTree}
    (hopen : files.write path [] = .ok opened) :
    ∃ after, files.write path (Utf8.encode text) = .ok after ∧
      carryOut console files (.write path (.ofText text)) = { exitCode := 0, files := after } := by
  obtain ⟨after, hwrite⟩ := FileTree.exists_write_eq_ok_of_write hopen (Utf8.encode text)
  refine ⟨after, hwrite, ?_⟩
  simp only [carryOut, FileTree.writeText, WideText.asText_ofText, hwrite]

/-- A request fails and is reported, or leaves its output empty, or its text is printed, or written
to the output. -/
theorem carryOut_answer_cases (request : Request) (host : Host) (files : FileTree) :
    (∃ error, request.Fails host files error ∧
      carryOut host.console files (request.answer host.charsets files.read) =
        { exitCode := 1, stderr := report error, files }) ∨
    (∃ halves after, request.Empties host.charsets files halves after ∧
      carryOut host.console files (request.answer host.charsets files.read) =
        { exitCode := 1, stderr := report (.file (.unencodable halves)), files := after }) ∨
    (∃ text, request.Asks host.charsets files text ∧
      carryOut host.console files (request.answer host.charsets files.read) =
        { exitCode := 0, stdout := text, files }) ∨
    ∃ output text after, request.output = some output ∧
      request.Generates host.charsets files (.ofText text) ∧
      files.write (Path.ofText output) (Utf8.encode text) = .ok after ∧
      carryOut host.console files (request.answer host.charsets files.read) =
        { exitCode := 0, files := after } := by
  rcases request.answer_cases host files with ⟨error, hfails, hanswer⟩ | ⟨text, hasks, hanswer⟩
  · exact .inl ⟨error, hfails, by rw [hanswer, carryOut]⟩
  · rcases request.deliver_cases text with hprint | ⟨output, hprints, houtput, hne, hwrites⟩
    · rw [hanswer, hprint, carryOut]
      cases hrefused : host.console.refused? text with
      | none => exact .inr (.inr (.inl ⟨text, hasks, rfl⟩))
      | some halves => exact .inl ⟨_, .unprintable hasks hprint hrefused, rfl⟩
    · have hgenerates := (Request.generates_iff hprints).mpr hasks
      rw [hanswer, hwrites]
      cases hopen : files.write (Path.ofText output) [] with
      | error cause =>
        exact .inl ⟨_, .unwritable hprints houtput hne hgenerates hopen,
          carryOut_write_of_refused hopen text⟩
      | ok opened =>
        cases hhalves : text.asText with
        | error halves =>
          exact .inr (.inl ⟨halves, opened, .intro hprints houtput hne hgenerates hhalves hopen,
            carryOut_write_of_halves hhalves hopen⟩)
        | ok stored =>
          rw [WideText.asText_eq_ok_iff] at hhalves
          subst hhalves
          obtain ⟨after, hwrite, houtcome⟩ := carryOut_write_ofText hopen
          exact .inr (.inr (.inr ⟨output, stored, after, houtput, hgenerates, hwrite, houtcome⟩))

/-- A request that fails is reported, and nothing else happens. -/
theorem carryOut_answer_of_fails (h : request.Fails host files error) :
    carryOut host.console files (request.answer host.charsets files.read) =
      { exitCode := 1, stderr := report error, files } := by
  cases h with
  | pathless hpath => rw [Request.answer, hpath, carryOut]
  | nameless hpath hcharset => simp [Request.answer, hpath, Request.linesOf, hcharset, carryOut]
  | unreadable hpath hcharset hread =>
    rw [HeaderFile.readLines] at hread
    simp [Request.answer, hpath, Request.linesOf, hcharset, hread, Except.mapError, carryOut]
  | refused hlines htext => rw [Request.answer_of_reads hlines, htext, carryOut]
  | unprintable htext hprint hhalves =>
    rw [Request.answer_of_asks htext, hprint]
    simp only [carryOut, hhalves]
  | unwritable hprints houtput hne htext hopen =>
    rw [Request.answer_of_asks ((Request.generates_iff hprints).mp htext),
      Request.deliver_of_output hprints houtput hne, carryOut_write_of_refused hopen]

/-- Whether no halves of pairs are in the text that is written to an output for the arguments. -/
def WritesText (charsets : Charsets) (files : FileTree) (arguments : List WideText) : Prop :=
  ∀ request text path, requestOf arguments = .ok request → request.Generates charsets files text →
    request.deliver text = .write path text → ∃ stored, text = .ofText stored

/-- A text with halves of pairs is no such text. -/
theorem WritesText.not_empties {arguments : List WideText}
    (h : WritesText host.charsets files arguments) (hrequest : requestOf arguments = .ok request) :
    ¬ request.Empties host.charsets files halves after := by
  rintro ⟨hprints, houtput, hne, htext, hhalves, -⟩
  obtain ⟨stored, rfl⟩ := h _ _ _ hrequest htext (Request.deliver_of_output hprints houtput hne)
  simp at hhalves

/-- **All or nothing.** The word of the output kind is never left out, and a run ends with one of
three exit codes. A run that does not succeed prints nothing to its output and leaves all files, if
no text with halves of pairs is written, and one that fails reports the error of the stage that
failed. A run that succeeds reports nothing; either it leaves all files, or it prints nothing and
writes the whole generated text, in UTF-8, to the path that is named for the output. -/
theorem run_all_or_nothing (host : Host) (files : FileTree) (arguments : List WideText) :
    (∀ naming ∈ (grammar.read arguments).namings, naming ≠ .slot kindSlot none) ∧
    (run host files arguments).exitCode ∈ [0, 1, 2] ∧
    ((run host files arguments).exitCode ≠ 0 → (run host files arguments).stdout = [] ∧
      (WritesText host.charsets files arguments → (run host files arguments).files = files)) ∧
    ((run host files arguments).exitCode = 1 → ∃ request error,
      requestOf arguments = .ok request ∧
        (request.Fails host files error ∨ ∃ halves, error = .file (.unencodable halves) ∧
          request.Empties host.charsets files halves (run host files arguments).files) ∧
        (run host files arguments).stderr = "stubgen: ".toList ++ error.message ++ ['\n']) ∧
    ((run host files arguments).exitCode = 0 → (run host files arguments).stderr = [] ∧
      ((run host files arguments).files = files ∨
        (run host files arguments).stdout = [] ∧ ∃ request output text,
          requestOf arguments = .ok request ∧ request.output = some output ∧
          request.Generates host.charsets files (.ofText text) ∧
          files.Writes (run host files arguments).files (Path.ofText output)
            (text.flatMap String.utf8EncodeChar))) := by
  refine ⟨fun naming h => Grammar.ne_slot_none_of_mem_read rfl rfl (by decide) h, ?_⟩
  cases hrequest : requestOf arguments with
  | error halt =>
    have hrun : run host files arguments = program.halt files halt := by rw [run, hrequest]
    rw [hrun]
    cases halt <;> simp [Program.halt]
  | ok request =>
    have hrun : run host files arguments =
        carryOut host.console files (request.answer host.charsets files.read) := by
      rw [run, hrequest]
    rcases carryOut_answer_cases request host files with
      ⟨error, hfails, houtcome⟩ | ⟨halves, after, hempties, houtcome⟩ | ⟨text, -, houtcome⟩ |
        ⟨output, text, after, houtput, hgenerates, hwrite, houtcome⟩ <;>
      rw [hrun, houtcome]
    · refine ⟨by simp, by simp, ?_, by simp⟩
      rintro -
      exact ⟨request, error, rfl, .inl hfails, rfl⟩
    · refine ⟨by simp, fun _ => ⟨rfl, fun h => (h.not_empties hrequest hempties).elim⟩, ?_, by simp⟩
      rintro -
      exact ⟨request, _, rfl, .inr ⟨halves, rfl, hempties⟩, rfl⟩
    · simp
    · refine ⟨by simp, by simp, by simp, ?_⟩
      rintro -
      refine ⟨rfl, .inr ⟨rfl, request, output, text, rfl, houtput, hgenerates, ?_⟩⟩
      rw [← Utf8.encode_eq_flatMap]
      exact FileTree.writes_of_write hwrite

/-- A header whose definition is out of reach of stub routines, and an output that is there. -/
def outOfReachFiles : FileTree := .ofEntries [
  ("h".toList, .file (Utf8.encode "#define ZIS_STUB_A 65536 /* f */".toList)),
  ("o".toList, .file [0])]

/-- Arguments that name the header and the output. -/
def namingOutput (kind : OutputKind) : List WideText :=
  [.ofText kind.name, "h".toList, "--encoding".toList, "ascii".toList, "-o".toList, "o".toList]

/-- Stub routines are refused and the output stays; init statements replace it. -/
theorem run_all_or_nothing_out_of_reach :
    ((run .strict outOfReachFiles (namingOutput .asm)).stdout = [] ∧
      (run .strict outOfReachFiles (namingOutput .asm)).files = outOfReachFiles) ∧
    (run .strict outOfReachFiles (namingOutput .init)).stderr = [] ∧
    (run .strict outOfReachFiles (namingOutput .init)).stdout = [] ∧
    ∃ content, outOfReachFiles.Writes (run .strict outOfReachFiles (namingOutput .init)).files
      (Path.ofText "o".toList) content := by
  obtain ⟨-, -, hfails, -⟩ := run_all_or_nothing .strict outOfReachFiles (namingOutput .asm)
  obtain ⟨-, -, -, -, hsucceeds⟩ :=
    run_all_or_nothing .strict outOfReachFiles (namingOutput .init)
  have hwrites : WritesText Host.strict.charsets outOfReachFiles (namingOutput .asm) := by
    rintro request text - hrequest ⟨path, charset, hpath, hcharset, hgenerate⟩
    have hasked : requestOf (namingOutput .asm) = .ok {
        header := some "h".toList, charset := some "ascii".toList, output := some "o".toList } := by
      decide +kernel
    obtain rfl := Except.ok.inj (hasked.symm.trans hrequest)
    cases hpath
    cases hcharset
    have hrefused : HeaderFile.generate Host.strict.charsets outOfReachFiles
        (Path.ofText "h".toList) (.kind .asm) (.mode .r12) "ascii".toList =
          .error (.failure (.faulty .indexOutOfRange
            ⟨"h".toList, 1, "#define ZIS_STUB_A 65536 /* f */".toList⟩)) := by
      decide +kernel
    exact absurd (hrefused.symm.trans hgenerate) (by simp)
  obtain ⟨hstdout, hfiles⟩ := hfails (by decide +kernel)
  refine ⟨⟨hstdout, hfiles hwrites⟩, ?_⟩
  obtain ⟨hstderr, hsame | ⟨hstdout, request, output, text, hrequest, houtput, -, hwrites⟩⟩ :=
    hsucceeds (by decide +kernel)
  · have hnow : (run .strict outOfReachFiles (namingOutput .init)).files.standing?
        ["o".toList] ≠ some (some [0]) := by decide +kernel
    exact absurd (by rw [hsame]; decide +kernel) hnow
  · have hnamed : (requestOf (namingOutput .init)).map (·.output) = .ok (some "o".toList) := by
      decide +kernel
    rw [hrequest] at hnamed
    obtain rfl : output = "o".toList := by
      rw [← Option.some_inj, ← houtput]
      exact Except.ok.inj hnamed
    exact ⟨hstderr, hstdout, _, hwrites⟩

end Command

end StubVector
