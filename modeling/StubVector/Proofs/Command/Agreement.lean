import StubVector.Proofs.Command.Call
import StubVector.Proofs.Command.Outcome
import StubVector.Proofs.Pipeline.Letters
import StubVector.Proofs.Pipeline.Stages

/-!
# The command does what the generator does

Called for an output kind, a header, a dispatch mode and a charset, the command prints what the
generator gives for them, or reports its error. An output takes the text in place of the standard
output, and the definitions are printed in place of any text. Halves of pairs, for which a header
can have escapes, are the exception: no output takes them, and not every console prints them.

* `Command.Call.generated`: what the generator gives for a call.
* `Command.run_of_generated_ok`, `Command.run_of_generated_error`: how a run for a call ends.
* `Command.run_of_prints_cases`: how a run that prints definitions ends.
* `Command.run_agrees_with_generator`: **every run is a generation**.
* `Command.not_forall_written`: not every text that is generated is written to an output.
-/

namespace StubVector

open Grammar (IsWord)

/-! ## Printing definitions -/

/-- The definitions of a header are legible if its letters are read as the characters that they
count as. -/
theorem Header.legible_map_face_of_mem {path : WideText} {lines : List WideText}
    {definitions : List (Definition CodePoint)} (h : parseLines path lines = .ok definitions) :
    ∀ definition ∈ definitions, (definition.map Letter.face).Legible := by
  intro definition hmem
  have hface := Letter.keeps_face.parseLines_map path lines
  rw [h] at hface
  exact legible_of_mem hface _ (List.mem_map_of_mem hmem)

/-- The definitions of a header can be printed. -/
theorem Dump.exists_print_eq_ok {path : WideText} {lines : List WideText}
    {definitions : List (Definition CodePoint)}
    (h : Header.parseLines path lines = .ok definitions) :
    ∃ json, Dump.print false definitions = .ok json := by
  have hall : (definitions.flatMap (numbers false)).all isPrintable = true := by
    rw [List.all_eq_true]
    intro number hnumber
    obtain ⟨definition, hmem, hindex⟩ := List.mem_flatMap.mp hnumber
    obtain rfl : number = definition.index := by simpa [numbers] using hindex
    have hlegible := Header.legible_map_face_of_mem h definition hmem
    have hnonneg : 0 ≤ definition.index := hlegible.index_nonneg
    have hlt : definition.index < 10 ^ Text.maxNumeralDigits := hlegible.index_lt
    obtain ⟨n, hn⟩ := Int.eq_ofNat_of_zero_le hnonneg
    have hcast : ∀ k, (n : Int) < 10 ^ k → n < Nat.pow 10 k := fun k hk => by exact_mod_cast hk
    rw [hn] at hlt ⊢
    exact decide_eq_true (hcast _ hlt)
  exact ⟨_, by rw [print, if_pos hall]⟩

/-- Definitions are always printed. -/
theorem Request.deliver_of_prints {request : Request} {text : WideText}
    (h : request.printsDefinitions = true) : request.deliver text = .print text := by
  rcases request.deliver_cases text with hprint | ⟨-, hnot, -⟩
  · exact hprint
  · exact absurd (h.symm.trans hnot) (by simp)

namespace Command

/-! ## Runs for calls -/

section Runs

variable {host : Host} {charsets : Charsets} {files : FileTree} {call : Call} {text : WideText}
  {error : Error} {halves : HalfRow}

/-- What the generator gives for a call. -/
def Call.generated (call : Call) (charsets : Charsets) (files : FileTree) :
    Except Error WideText :=
  HeaderFile.generate charsets files (Path.ofText call.header) (.kind call.kind) (.mode call.mode)
    call.charset

/-- Whether the header of a call can be read and has these definitions. -/
def Call.Defines (call : Call) (charsets : Charsets) (files : FileTree)
    (definitions : List (Definition CodePoint)) : Prop :=
  ∃ lines, HeaderFile.readLines charsets files (Path.ofText call.header) call.charset = .ok lines ∧
    Header.parseLines (Path.ofText call.header).toText lines = .ok definitions

theorem run_arguments (h : call.Plain) :
    run host files call.arguments =
      carryOut host.console files (call.request.answer host.charsets files.read) := by
  rw [run, requestOf_arguments h]

theorem Call.reads_of_readLines {lines : List WideText}
    (h : HeaderFile.readLines charsets files (Path.ofText call.header) call.charset = .ok lines) :
    call.request.Reads charsets files (Path.ofText call.header) lines :=
  ⟨rfl, call.charset, rfl, h⟩

/-- Where the generator fails, the error is reported. -/
theorem run_of_generated_error (hplain : call.Plain) (hprints : call.printsDefinitions = false)
    (h : call.generated host.charsets files = .error error) :
    run host files call.arguments = { exitCode := 1, stderr := report error, files } := by
  rw [run_arguments hplain]
  apply carryOut_answer_of_fails
  rw [Call.generated, HeaderFile.generate] at h
  cases hread : HeaderFile.readLines host.charsets files (Path.ofText call.header)
      call.charset with
  | error cause =>
    rw [hread] at h
    cases h
    exact .unreadable rfl rfl hread
  | ok lines =>
    have htextOf : call.request.textOf (Path.ofText call.header) lines =
        generate (Path.ofText call.header).toText lines (.kind call.kind) (.mode call.mode) :=
      Request.textOf_eq_generate hprints _ lines
    simp only [hread, ← htextOf] at h
    cases htext : call.request.textOf (Path.ofText call.header) lines with
    | error cause =>
      rw [htext] at h
      cases h
      exact .refused (Call.reads_of_readLines hread) htext
    | ok text =>
      rw [htext] at h
      cases h

/-- A text that is generated goes where the call wants it. -/
theorem run_of_generated_ok (hplain : call.Plain) (hprints : call.printsDefinitions = false)
    (h : call.generated host.charsets files = .ok text) :
    run host files call.arguments = carryOut host.console files (call.request.deliver text) := by
  have hgenerates : call.request.Generates host.charsets files text := ⟨_, _, rfl, rfl, h⟩
  rw [run_arguments hplain, Request.answer_of_asks ((Request.generates_iff hprints).mp hgenerates)]

/-- Without an output it is printed. -/
theorem run_of_generated_ok_printed (hplain : call.Plain) (houtput : call.output = none)
    (hprints : call.printsDefinitions = false)
    (h : call.generated host.charsets files = .ok text) :
    run host files call.arguments =
      match host.console.refused? text with
      | none => { exitCode := 0, stdout := text, files }
      | some halves => { exitCode := 1, stderr := report (.unprintable halves), files } := by
  rw [run_of_generated_ok hplain hprints h]
  cases hrefused : host.console.refused? text <;>
    simp [Request.deliver, Call.request, houtput, carryOut, hrefused]

section Written

variable {output : WideText} {opened : FileTree}

/-- It is written to an output that can be opened, if it holds no halves of pairs. -/
theorem run_of_generated_ok_written {text : Text} (hplain : call.Plain)
    (houtput : call.output = some output) (hne : output ≠ [])
    (hprints : call.printsDefinitions = false)
    (hopen : files.write (Path.ofText output) [] = .ok opened)
    (h : call.generated host.charsets files = .ok (.ofText text)) :
    ∃ after, files.Writes after (Path.ofText output) (text.flatMap String.utf8EncodeChar) ∧
      run host files call.arguments = { exitCode := 0, files := after } := by
  rw [run_of_generated_ok hplain hprints h, Request.deliver_of_output hprints houtput hne]
  obtain ⟨after, hwrite, houtcome⟩ := carryOut_write_ofText hopen
  refine ⟨after, ?_, houtcome⟩
  rw [← Utf8.encode_eq_flatMap]
  exact FileTree.writes_of_write hwrite

/-- With halves of pairs it leaves the output empty. -/
theorem run_of_generated_ok_emptied (hplain : call.Plain)
    (houtput : call.output = some output) (hne : output ≠ [])
    (hprints : call.printsDefinitions = false)
    (hopen : files.write (Path.ofText output) [] = .ok opened)
    (h : call.generated host.charsets files = .ok text) (hhalves : text.asText = .error halves) :
    run host files call.arguments =
      { exitCode := 1, stderr := report (.file (.unencodable halves)), files := opened } := by
  rw [run_of_generated_ok hplain hprints h, Request.deliver_of_output hprints houtput hne,
    carryOut_write_of_halves hhalves hopen]

end Written

/-- The definitions of a header are printed. -/
theorem run_of_defines {definitions : List (Definition CodePoint)} {json : Text}
    (hplain : call.Plain) (hprints : call.printsDefinitions = true)
    (h : call.Defines host.charsets files definitions)
    (hjson : Dump.print false definitions = .ok json) :
    run host files call.arguments = { exitCode := 0, stdout := json ++ ['\n'], files } := by
  obtain ⟨lines, hread, hparse⟩ := h
  have htext : call.request.textOf (Path.ofText call.header) lines =
      .ok (.ofText (json ++ ['\n'])) := by
    simp [Request.textOf, Call.request, hprints, hparse, hjson, Except.bind, Except.map]
  rw [run_arguments hplain, Request.answer_of_reads (Call.reads_of_readLines hread), htext]
  dsimp only
  rw [Request.deliver_of_prints hprints]
  simp only [carryOut, host.console.refused?_ofText]
  rw [WideText.ofText_append]

/-- A header that cannot be read is refused as it is for init statements. -/
theorem run_of_not_defines (hplain : call.Plain) (hprints : call.printsDefinitions = true)
    (h : ∀ definitions, ¬ call.Defines host.charsets files definitions) (mode : DispatchMode) :
    ∃ error, HeaderFile.generate host.charsets files (Path.ofText call.header) (.kind .init)
        (.mode mode) call.charset = .error error ∧
      run host files call.arguments = { exitCode := 1, stderr := report error, files } := by
  rw [run_arguments hplain]
  cases hread : HeaderFile.readLines host.charsets files (Path.ofText call.header)
      call.charset with
  | error cause =>
    refine ⟨.header cause, by rw [HeaderFile.generate, hread], ?_⟩
    exact carryOut_answer_of_fails (.unreadable rfl rfl hread)
  | ok lines =>
    cases hparse : Header.parseLines (Path.ofText call.header).toText lines with
    | ok definitions => exact absurd ⟨lines, hread, hparse⟩ (h definitions)
    | error failure =>
      have htext : call.request.textOf (Path.ofText call.header) lines = .error failure := by
        simp [Request.textOf, Call.request, hprints, hparse, Except.bind]
      refine ⟨.failure failure, ?_, ?_⟩
      · simp only [HeaderFile.generate, hread, generate_init_eq_error_iff.mpr hparse]
        rfl
      · exact carryOut_answer_of_fails (.refused (Call.reads_of_readLines hread) htext)

/-- What is reported tells the message of the error. -/
theorem report_eq_iff {message : WideText} :
    report error = "stubgen: ".toList ++ message ++ ['\n'] ↔ error.message = message := by
  rw [report, List.append_left_inj, List.append_right_inj]

/-- A text is printed exactly if it is generated and not refused. -/
theorem run_prints_iff (hplain : call.Plain) (houtput : call.output = none)
    (hprints : call.printsDefinitions = false) :
    ((run host files call.arguments).exitCode = 0 ∧
      (run host files call.arguments).stdout = text ∧
      (run host files call.arguments).stderr = []) ↔
    call.generated host.charsets files = .ok text ∧ host.console.refused? text = none := by
  cases hgenerated : call.generated host.charsets files with
  | ok found =>
    rw [run_of_generated_ok_printed hplain houtput hprints hgenerated]
    cases hrefused : host.console.refused? found with
    | none =>
      simp only [true_and, and_true, Except.ok.injEq]
      constructor
      · rintro rfl
        exact ⟨rfl, hrefused⟩
      · exact And.left
    | some halves =>
      simp only [Except.ok.injEq]
      refine iff_of_false (by simp) ?_
      rintro ⟨rfl, hnone⟩
      simp [hrefused] at hnone
  | error error =>
    rw [run_of_generated_error hplain hprints hgenerated]
    simp

/-- A message is reported exactly if the generator fails with it, or the text is refused with it. -/
theorem run_reports_iff {message : WideText} (hplain : call.Plain) (houtput : call.output = none)
    (hprints : call.printsDefinitions = false) :
    ((run host files call.arguments).exitCode = 1 ∧
      (run host files call.arguments).stderr = "stubgen: ".toList ++ message ++ ['\n']) ↔
    (∃ error, call.generated host.charsets files = .error error ∧ error.message = message) ∨
      ∃ text halves, call.generated host.charsets files = .ok text ∧
        host.console.refused? text = some halves ∧ .ofText halves.message = message := by
  cases hgenerated : call.generated host.charsets files with
  | ok found =>
    rw [run_of_generated_ok_printed hplain houtput hprints hgenerated]
    cases hrefused : host.console.refused? found with
    | none => simp [hrefused]
    | some halves =>
      simp only [true_and, report_eq_iff, Error.message]
      constructor
      · intro hmessage
        exact .inr ⟨found, halves, rfl, hrefused, hmessage⟩
      · rintro (⟨error, ⟨⟩, -⟩ | ⟨text, others, htext, hothers, hmessage⟩)
        cases htext
        rw [hrefused] at hothers
        cases hothers
        exact hmessage
  | error error =>
    rw [run_of_generated_error hplain hprints hgenerated]
    simp only [true_and, report_eq_iff, Except.error.injEq, exists_eq_left', reduceCtorEq,
      false_and, exists_false, or_false]

theorem files_run (hplain : call.Plain) (houtput : call.output = none)
    (hprints : call.printsDefinitions = false) :
    (run host files call.arguments).files = files := by
  cases hgenerated : call.generated host.charsets files with
  | ok found =>
    rw [run_of_generated_ok_printed hplain houtput hprints hgenerated]
    cases host.console.refused? found <;> rfl
  | error error => rw [run_of_generated_error hplain hprints hgenerated]

/-- Definitions are printed for every header that can be read. -/
theorem exists_run_of_defines {definitions : List (Definition CodePoint)} (hplain : call.Plain)
    (hprints : call.printsDefinitions = true)
    (h : call.Defines host.charsets files definitions) :
    ∃ json, Dump.print false definitions = .ok json ∧
      run host files call.arguments = { exitCode := 0, stdout := json ++ ['\n'], files } := by
  obtain ⟨lines, -, hparse⟩ := id h
  obtain ⟨json, hjson⟩ := Dump.exists_print_eq_ok hparse
  exact ⟨json, hjson, run_of_defines hplain hprints h hjson⟩

theorem Call.Defines.unique {definitions others : List (Definition CodePoint)}
    (h : call.Defines charsets files definitions) (hother : call.Defines charsets files others) :
    definitions = others := by
  obtain ⟨lines, hread, hparse⟩ := h
  obtain ⟨otherLines, hotherRead, hotherParse⟩ := hother
  obtain rfl : lines = otherLines := Except.ok.inj (hread.symm.trans hotherRead)
  exact Except.ok.inj (hparse.symm.trans hotherParse)

/-- Printing definitions ends in one of two ways. -/
theorem run_of_prints_cases (host : Host) (files : FileTree) (hplain : call.Plain)
    (hprints : call.printsDefinitions = true) :
    (∃ definitions json, call.Defines host.charsets files definitions ∧
      Dump.print false definitions = .ok json ∧
      run host files call.arguments = { exitCode := 0, stdout := json ++ ['\n'], files }) ∨
    (∀ definitions, ¬ call.Defines host.charsets files definitions) ∧
      ∃ error, run host files call.arguments =
        { exitCode := 1, stderr := report error, files } := by
  by_cases hdefines : ∃ definitions, call.Defines host.charsets files definitions
  · obtain ⟨definitions, hdefines⟩ := hdefines
    obtain ⟨json, hjson, hrun⟩ := exists_run_of_defines hplain hprints hdefines
    exact .inl ⟨definitions, json, hdefines, hjson, hrun⟩
  · have hnone := not_exists.mp hdefines
    obtain ⟨error, -, hrun⟩ := run_of_not_defines hplain hprints hnone .r12
    exact .inr ⟨hnone, error, hrun⟩

/-- The printed definitions are those of the header. -/
theorem run_prints_definitions_iff {json : Text} (hplain : call.Plain)
    (hprints : call.printsDefinitions = true) :
    ((run host files call.arguments).exitCode = 0 ∧
      (run host files call.arguments).stdout = json ++ ['\n'] ∧
      (run host files call.arguments).stderr = []) ↔
    ∃ definitions, call.Defines host.charsets files definitions ∧
      Dump.print false definitions = .ok json := by
  rcases run_of_prints_cases host files hplain hprints with
    ⟨definitions, found, hdefines, hfound, hrun⟩ | ⟨hnone, error, hrun⟩ <;> rw [hrun]
  · constructor
    · rintro ⟨-, hstdout, -⟩
      obtain rfl : found = json := by
        simpa [← WideText.ofText_append, WideText.ofText_inj] using hstdout
      exact ⟨definitions, hdefines, hfound⟩
    · rintro ⟨others, hothers, hjson⟩
      rw [hothers.unique hdefines, hfound] at hjson
      cases hjson
      exact ⟨rfl, rfl, rfl⟩
  · constructor
    · rintro ⟨hexit, -⟩
      cases hexit
    · rintro ⟨definitions, hdefines, -⟩
      exact absurd hdefines (hnone definitions)

theorem exitCode_run_eq_zero_iff (hplain : call.Plain) (hprints : call.printsDefinitions = true) :
    (run host files call.arguments).exitCode = 0 ↔
      ∃ definitions, call.Defines host.charsets files definitions := by
  rcases run_of_prints_cases host files hplain hprints with
    ⟨definitions, json, hdefines, -, hrun⟩ | ⟨hnone, error, hrun⟩ <;> rw [hrun]
  · exact iff_of_true rfl ⟨definitions, hdefines⟩
  · exact iff_of_false nofun fun ⟨definitions, hdefines⟩ => hnone definitions hdefines

theorem files_run_of_prints (hplain : call.Plain) (hprints : call.printsDefinitions = true) :
    (run host files call.arguments).files = files := by
  rcases run_of_prints_cases host files hplain hprints with
    ⟨definitions, json, -, -, hrun⟩ | ⟨-, error, hrun⟩ <;> rw [hrun]

/-- Where definitions are printed, only the header and its charset count. -/
theorem run_eq_of_same_header {other : Call} (hplain : call.Plain) (hother : other.Plain)
    (hheader : other.header = call.header) (hcharset : other.charset = call.charset)
    (hprints : call.printsDefinitions = true) (hprint : other.printsDefinitions = true) :
    run host files other.arguments = run host files call.arguments := by
  have hanswer : other.request.answer host.charsets files.read =
      call.request.answer host.charsets files.read := by
    obtain ⟨kind, header, mode, charset, output, prints⟩ := call
    obtain ⟨otherKind, otherHeader, otherMode, otherCharset, otherOutput, otherPrints⟩ := other
    cases hheader
    cases hcharset
    cases hprints
    cases hprint
    simp only [Request.answer, Request.path?, Call.request, Request.linesOf, Request.textOf,
      if_true, Request.deliver_of_prints]
  rw [run_arguments hother, run_arguments hplain, hanswer]

/-- **Every run is a generation.** Called without an output, the command prints exactly the text
that the generator gives, if the console does not refuse it, and reports exactly the error with
which the generator fails, or the halves of pairs that the console refuses; no file changes. An
output that can be opened takes the text, and nothing else changes: where the generator fails, the
run is that without the output. But a text with halves of pairs is reported for them, and the output
is left empty. Called for the definitions, the command ends in the same way for every output kind,
dispatch mode and output: it prints the definitions, however great their indices are, exactly if the
header can be read, and ends as for init statements otherwise. -/
theorem run_agrees_with_generator (host : Host) (files : FileTree) {call : Call}
    (hplain : call.Plain) (houtput : call.output = none)
    (hprints : call.printsDefinitions = false) :
    (∀ text : WideText,
      ((run host files call.arguments).exitCode = 0 ∧
        (run host files call.arguments).stdout = text ∧
        (run host files call.arguments).stderr = []) ↔
      call.generated host.charsets files = .ok text ∧ host.console.refused? text = none) ∧
    (∀ message : WideText,
      ((run host files call.arguments).exitCode = 1 ∧
        (run host files call.arguments).stderr = "stubgen: ".toList ++ message ++ ['\n']) ↔
      (∃ error, call.generated host.charsets files = .error error ∧ error.message = message) ∨
        ∃ text halves, call.generated host.charsets files = .ok text ∧
          host.console.refused? text = some halves ∧ .ofText halves.message = message) ∧
    (run host files call.arguments).files = files ∧
    (∀ (output : WideText) (opened : FileTree), output ≠ [] → IsWord output →
      files.write (Path.ofText output) [] = .ok opened →
        (∀ text : Text, call.generated host.charsets files = .ok (.ofText text) → ∃ after,
          files.Writes after (Path.ofText output) (text.flatMap String.utf8EncodeChar) ∧
          run host files { call with output := some output }.arguments =
            { exitCode := 0, files := after }) ∧
        (∀ text halves, call.generated host.charsets files = .ok text →
          text.asText = .error halves →
            files.Writes opened (Path.ofText output) [] ∧
            run host files { call with output := some output }.arguments =
              { exitCode := 1
                stderr := "stubgen: ".toList ++ .ofText halves.message ++ ['\n']
                files := opened }) ∧
        ∀ error, call.generated host.charsets files = .error error →
          run host files { call with output := some output }.arguments =
            run host files call.arguments) ∧
    ∀ other : Call, other.Plain → other.header = call.header → other.charset = call.charset →
      other.printsDefinitions = true →
        run host files other.arguments =
          run host files { call with printsDefinitions := true }.arguments ∧
        (∀ json : Text,
          ((run host files other.arguments).exitCode = 0 ∧
            (run host files other.arguments).stdout = json ++ ['\n'] ∧
            (run host files other.arguments).stderr = []) ↔
          ∃ definitions, call.Defines host.charsets files definitions ∧
            Dump.print false definitions = .ok json) ∧
        ((run host files other.arguments).exitCode = 0 ↔
          ∃ definitions, call.Defines host.charsets files definitions) ∧
        ((∀ definitions, ¬ call.Defines host.charsets files definitions) →
          run host files other.arguments = run host files { call with kind := .init }.arguments ∧
          ∃ error, { call with kind := .init }.generated host.charsets files = .error error ∧
            run host files other.arguments = {
              exitCode := 1, stderr := "stubgen: ".toList ++ error.message ++ ['\n'], files }) ∧
        (run host files other.arguments).files = files := by
  refine ⟨fun text => run_prints_iff hplain houtput hprints,
    fun message => run_reports_iff hplain houtput hprints, files_run hplain houtput hprints, ?_, ?_⟩
  · intro output opened hne hword hopen
    have hwritten : Call.Plain { call with output := some output } :=
      ⟨hplain.header, hplain.charset, by simpa using hword⟩
    refine ⟨fun text htext => run_of_generated_ok_written hwritten rfl hne hprints hopen htext,
      fun text halves htext hhalves => ⟨FileTree.writes_of_write hopen, ?_⟩,
      fun error herror => ?_⟩
    · exact run_of_generated_ok_emptied hwritten rfl hne hprints hopen htext hhalves
    · rw [run_of_generated_error hwritten hprints herror,
        run_of_generated_error hplain hprints herror]
  · intro other hother hheader hcharset hprint
    have hprinting : Call.Plain { call with printsDefinitions := true } :=
      ⟨hplain.header, hplain.charset, hplain.output⟩
    have hdefines : ∀ definitions, other.Defines host.charsets files definitions ↔
        call.Defines host.charsets files definitions := by
      simp only [Call.Defines, hheader, hcharset, implies_true]
    refine ⟨run_eq_of_same_header hprinting hother hheader hcharset rfl hprint, fun json => ?_, ?_,
      fun hnone => ?_, ?_⟩
    · simp only [← hdefines]
      exact run_prints_definitions_iff hother hprint
    · simp only [← hdefines]
      exact exitCode_run_eq_zero_iff hother hprint
    · simp only [← hdefines] at hnone
      -- the dispatch mode of the call is as good as any other
      obtain ⟨error, hgenerate, hrun⟩ := run_of_not_defines hother hprint hnone call.mode
      rw [hheader, hcharset] at hgenerate
      have hinit : Call.Plain { call with kind := .init } :=
        ⟨hplain.header, hplain.charset, hplain.output⟩
      exact ⟨hrun.trans (run_of_generated_error hinit hprints hgenerate).symm, error, hgenerate,
        hrun⟩
    · exact files_run_of_prints hother hprint

end Runs

/-- A call for stub routines of a header whose definition is out of their reach. -/
def outOfReachCall : Call :=
  { kind := .asm, header := "h".toList, mode := .zvte, charset := "ascii".toList }

/-- Stub routines are refused, with an output too, but the definition is printed. -/
theorem run_agrees_with_generator_out_of_reach :
    (run .strict outOfReachFiles outOfReachCall.arguments).exitCode = 1 ∧
    run .strict outOfReachFiles { outOfReachCall with output := some "o".toList }.arguments =
      run .strict outOfReachFiles outOfReachCall.arguments ∧
    (run .strict outOfReachFiles { outOfReachCall with
      output := some "o".toList, printsDefinitions := true }.arguments).exitCode = 0 := by
  have hplain : outOfReachCall.Plain := ⟨by decide, by decide, nofun⟩
  have hplainOutput : ∀ output ∈ some (WideText.ofText "o".toList), IsWord output := by
    intro output houtput
    cases houtput
    decide
  obtain ⟨-, hreports, -, houtput, hprints⟩ :=
    run_agrees_with_generator .strict outOfReachFiles hplain rfl rfl
  have herror : outOfReachCall.generated Charset.registry outOfReachFiles =
      .error (.failure (.faulty .indexOutOfRange
        ⟨"h".toList, 1, "#define ZIS_STUB_A 65536 /* f */".toList⟩)) := by
    decide +kernel
  obtain ⟨opened, hopen⟩ : ∃ opened,
      outOfReachFiles.write (Path.ofText "o".toList) [] = .ok opened := ⟨_, by rfl⟩
  obtain ⟨-, -, hexit, -⟩ := hprints
    { outOfReachCall with output := some "o".toList, printsDefinitions := true }
    ⟨hplain.header, hplain.charset, hplainOutput⟩ rfl rfl rfl
  refine ⟨((hreports _).mpr (.inl ⟨_, herror, rfl⟩)).1,
    (houtput _ opened (by decide) (by decide) hopen).2.2 _ herror, hexit.mpr ?_⟩
  exact ⟨[⟨"A".toList, 65536, "f".toList, false,
    some ⟨"h".toList, 1, "#define ZIS_STUB_A 65536 /* f */".toList⟩⟩], _, by rfl, by rfl⟩

/-- A header that names a function with half of a pair, by an escape. -/
def escapedFiles : FileTree := .ofEntries [
  ("h.h".toList, .file (Utf8.encode "#define ZIS_STUB_A 1 /* f\\ud800 */".toList))]

/-- Not every text that is generated is written to an output that can be opened: not one with half
of a pair, though a console prints it. -/
theorem not_forall_written :
    ¬ ∀ (files opened : FileTree) (call : Call) (output text : WideText),
      call.Plain → call.output = none → call.printsDefinitions = false → output ≠ [] →
      IsWord output → files.write (Path.ofText output) [] = .ok opened →
      call.generated Charset.registry files = .ok text →
      (run .lenient files call.arguments).exitCode = 0 →
        (run .lenient files
          { call with output := some output }.arguments).exitCode = 0 := by
  intro h
  have hwritten := h escapedFiles _
    { kind := .init, header := "h.h".toList, mode := .r12
      charset := "raw_unicode_escape".toList } "o".toList
    _ ⟨by decide, by decide, nofun⟩ rfl rfl (by decide) (by decide) rfl rfl (by decide +kernel)
  revert hwritten
  decide +kernel

end Command

end StubVector
