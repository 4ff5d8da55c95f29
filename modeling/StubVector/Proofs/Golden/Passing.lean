import StubVector.Golden.Check
import StubVector.Proofs.Command.Agreement
import StubVector.Proofs.Golden.Loading
import StubVector.Proofs.Golden.Refreshed
import StubVector.Proofs.Golden.Verdict

/-!
# Refreshed golden outputs pass

A run that generates the text of a target, and compares what it prints with the golden output of the
target, passes after a refresh in the same charset. The text that is written, the text that is
printed and the text that is read back are the same, whatever the header holds.

* `Refresh.Compares`: a run case that compares the text of a target with its golden output.
* `Refresh.execute_of_upToDate`: such a run prints the text of the target.
* `Refresh.refreshed_runs_pass`: **after a refresh, such runs pass**.
-/

namespace StubVector.Refresh

open Grammar (IsWord)
open FileTree (collapse)
open GoldenCheck (execute judge argumentsFor)

/-- The directory of the golden outputs. -/
def goldenDirectory : Path := { names := Discovery.root }

/-- The arguments of a run that generates the text of a target. -/
def Target.arguments (target : Target) (charset : WideText) : List WideText :=
  [.ofText target.kind.name, .ofText Spec.headerPlaceholder, .ofText target.mode.name,
    .ofText "--encoding".toList, charset]

/-- Whether a run case, which is read from an item of a spec, expects the golden output of a target
from the run that generates its text. -/
structure Compares (spec : Path) (charset : WideText) (target : Target) (item : Yaml)
    (case : RunCase) : Prop where
  arguments : case.arguments = target.arguments charset
  exitCode : case.expect.exitCode.map (·.code) = some 0
  stderr : case.expect.stderr = some []
  error : case.expect.error = none
  stdoutFile : ∃ name, Spec.stdoutFile? item = some name ∧
    collapse (spec.parent ++ Path.ofText name) = .ok (goldenDirectory ++ target.golden)

variable {host : Host} {files : FileTree} {charset : WideText} {target : Target} {case : RunCase}
  {text : Text}

/-! ## The run -/

/-- The headers of the targets are proper paths, and none is taken for an option. -/
theorem isProper_header (h : target ∈ targets) : (goldenDirectory ++ target.header).IsProper := by
  have hall : ∀ target ∈ targets, (goldenDirectory ++ target.header).slashes ≤ 2 ∧
      ∀ name ∈ (goldenDirectory ++ target.header).names,
        Path.isName name = true ∧ Path.separator ∉ name := by
    decide +kernel
  obtain ⟨hslashes, hnames⟩ := hall target h
  exact ⟨hslashes, fun name hname => (hnames name hname).1, fun name hname => (hnames name hname).2⟩

theorem isWord_header (h : target ∈ targets) :
    IsWord (goldenDirectory ++ target.header).toText := by
  have hall : ∀ target ∈ targets, IsWord (goldenDirectory ++ target.header).toText := by
    decide +kernel
  exact hall target h

/-- A charset in which a header is read is not taken for the header, if none is named so. -/
theorem ne_headerPlaceholder_of_textOf {directory : Path} {text : WideText}
    (hnone : host.charsets Spec.headerPlaceholder = none)
    (h : textOf host directory (some charset) files target = .ok text) :
    charset ≠ .ofText Spec.headerPlaceholder := by
  rintro rfl
  obtain ⟨_, ⟨hname, -, hcharset, -⟩, -⟩ := HeaderFile.generate_eq_ok_iff.mp h
  obtain rfl := WideText.ofText_inj.mp hname.eq_ofText
  rw [hnone] at hcharset
  cases hcharset

/-- The call that generates the text of a target. -/
def Target.call (target : Target) (charset : WideText) : Command.Call where
  kind := target.kind
  header := (goldenDirectory ++ target.header).toText
  mode := target.mode
  charset

theorem argumentsFor_header (harguments : case.arguments = target.arguments charset)
    (hcharset : charset ≠ .ofText Spec.headerPlaceholder) :
    argumentsFor (goldenDirectory ++ target.header) case = (target.call charset).arguments := by
  have hkind : WideText.ofText target.kind.name ≠ .ofText Spec.headerPlaceholder := by
    cases target.kind <;> decide
  have hmode : WideText.ofText target.mode.name ≠ .ofText Spec.headerPlaceholder := by
    cases target.mode <;> decide
  have hencoding : WideText.ofText "--encoding".toList ≠ .ofText Spec.headerPlaceholder := by
    decide
  rw [argumentsFor, harguments, Target.arguments]
  simp only [List.map_cons, List.map_nil, if_neg hkind, if_neg hmode, if_neg hencoding,
    if_neg hcharset]
  rfl

/-- The run prints the text of the target. -/
theorem execute_eq (hmem : target ∈ targets) (hcharset : IsWord charset)
    (hnone : host.charsets Spec.headerPlaceholder = none)
    (harguments : case.arguments = target.arguments charset)
    (htext : textOf host goldenDirectory (some charset) files target = .ok (.ofText text)) :
    execute host files (goldenDirectory ++ target.header) case =
      { exitCode := 0, stdout := text, files } := by
  have hplain : (target.call charset).Plain := ⟨isWord_header hmem, hcharset, nofun⟩
  have hgenerated : (target.call charset).generated host.charsets files = .ok (.ofText text) := by
    rw [Command.Call.generated, Target.call, Path.ofText_toText (isProper_header hmem)]
    exact htext
  rw [execute, argumentsFor_header harguments (ne_headerPlaceholder_of_textOf hnone htext),
    Command.run_of_generated_ok_printed hplain rfl rfl hgenerated, host.console.refused?_ofText]

/-! ## The verdict -/

/-- The text of a golden output is read back. -/
theorem decodeFile_encode (htext : Text.unifyNewlines text = text) :
    Spec.decodeFile (.ok (Utf8.encode text)) = .ok text := by
  simp only [Spec.decodeFile, Utf8.decode_encode, htext]

/-- A run that prints what is expected, and no errors, passes. -/
theorem details_eq_nil (files : FileTree) (htext : Text.unifyNewlines text = text)
    (hexit : case.expect.exitCode.map (·.code) = some 0)
    (hstdout : case.expect.stdout = some (.ofText text)) (hstderr : case.expect.stderr = some [])
    (herror : case.expect.error = none) :
    (judge case { exitCode := 0, stdout := text, files }).details = [] := by
  obtain ⟨expected, hexpected, hcode⟩ := Option.map_eq_some_iff.mp hexit
  refine Verdict.details_eq_nil_iff.mpr ?_
  have hnone : WideText.unifyNewlines [] = [] := rfl
  constructor <;>
    simp [Outcome.exit, htext, hnone, hexpected, hcode, hstdout, hstderr, herror]

/-- **After a refresh, such runs pass.** If the refresh comes to its end, the golden output of every
target is the text that is generated from its header now. The text reads the same as bytes in UTF-8
with unified newlines. So a run case that is loaded from the spec of the header, by any loader, and
compares the text with the golden output, prints the text and nothing else, and has no failing
expectation. No system knows a charset by the argument that stands for the header. -/
theorem refreshed_runs_pass {progress : Progress} (hcharset : IsWord charset)
    (hnone : host.charsets Spec.headerPlaceholder = none)
    (hrefresh : refreshAll host goldenDirectory (some charset) files targets = progress)
    (hend : progress.error = none) :
    ∀ target ∈ targets, ∃ text : Text,
      textOf host goldenDirectory (some charset) progress.files target = .ok (.ofText text) ∧
      progress.files.read (goldenDirectory ++ target.golden) = .ok (Utf8.encode text) ∧
      Spec.decodeFile (.ok (Utf8.encode text)) = .ok text ∧
      ∀ (loader : Yaml.Loader) (workingDirectory : Text) (test : GoldenTest),
        Spec.load loader progress.files workingDirectory (goldenDirectory ++ target.header) =
            .ok test →
        ∃ items, Spec.Lists loader progress.files test.spec items ∧
          List.Forall₂ (fun item case => Compares test.spec charset target item case →
            execute host progress.files test.header case =
                { exitCode := 0, stdout := text, files := progress.files } ∧
              (judge case (execute host progress.files test.header case)).details = [] ∧
              (judge case (execute host progress.files test.header case)).passes = true)
            items test.runs := by
  subst hrefresh
  intro target hmem
  obtain ⟨text, htext, hread⟩ := upToDate_of_refreshAll apart_targets hend target hmem
  have hunified : Text.unifyNewlines text = text := HeaderFile.unifyNewlines_of_generate htext
  have hdecode := decodeFile_encode hunified
  refine ⟨text, htext, hread, hdecode, fun loader workingDirectory test hload => ?_⟩
  obtain ⟨-, hheader, -⟩ := Spec.load_eq_ok_iff.mp hload
  obtain ⟨items, hlists, hcases⟩ := Spec.exists_items_of_load hload
  refine ⟨items, hlists, hcases.imp fun item case hcase hcompares => ?_⟩
  obtain ⟨names, index, hcase⟩ := hcase
  obtain ⟨name, hname, hcollapse⟩ := hcompares.stdoutFile
  have hexecute := execute_eq hmem hcharset hnone hcompares.arguments htext
  have hstdout : case.expect.stdout = some (.ofText text) := by
    obtain ⟨expected, hbeside, hstdout⟩ := Spec.exists_text_of_runCase hcase hname
    rw [Spec.readBeside_eq_ok hcollapse hread, hdecode] at hbeside
    cases hbeside
    exact hstdout
  have hdetails := details_eq_nil
    (refreshAll host goldenDirectory (some charset) files targets).files hunified
    hcompares.exitCode hstdout hcompares.stderr hcompares.error
  rw [hheader, hexecute]
  exact ⟨rfl, hdetails, by rw [RunVerdict.passes, hdetails]; rfl⟩

/-- A spec with a run that compares the init statements of its header with their golden output. -/
def comparingSpec : Text := [
  "\x7b\"runs\": [\x7b\"name\": \"init\",",
  " \"input\": \x7b\"args\": [\"init\",",
  " \"\x7bheader\x7d\", \"r12\",",
  " \"--encoding\", \"ascii\"]\x7d,",
  " \"expect\": \x7b\"exit_code\": 0,",
  " \"stderr\": \"\", \"stdout_file\":",
  " \"test_zisstubs.init.c\"\x7d\x7d]\x7d"].flatMap String.toList

/-- A golden directory with two headers, and that spec beside one of them. -/
def comparingFiles : FileTree := .ofEntries [
  ("tests".toList, .directory [
    ("golden".toList, .directory [
      ("basic".toList, .directory [
        ("test_zisstubs.h".toList, .file (Utf8.encode "#define ZIS_STUB_A 1 /* f */\r".toList)),
        ("test_zisstubs_spec.yaml".toList, .file (Utf8.encode comparingSpec))]),
      ("empty".toList, .directory [("test_no_stubs.h".toList, .file [])])])])]

/-- The refresh of that directory. -/
def comparingProgress : Progress :=
  refreshAll .strict goldenDirectory (some "ascii".toList) comparingFiles targets

/-- The run case of that spec. -/
def comparingCase : RunCase where
  name := "init".toList
  arguments := ["init", "\x7bheader\x7d", "r12", "--encoding", "ascii"].map (.ofText ·.toList)
  expect := {
    exitCode := some (.number 0)
    stdout := some "    stubVector[ZIS_STUB_A       ] = (void*)f;\n".toList
    stderr := some [] }

/-- The spec stands there after the refresh. -/
theorem read_comparingSpec : comparingProgress.files.read
    (goldenDirectory ++ inDirectory "basic" "test_zisstubs_spec.yaml") =
      .ok (Utf8.encode comparingSpec) :=
  read_refreshAll (by decide +kernel) (by decide +kernel) rfl

theorem load_comparingSpec : Spec.load .json comparingProgress.files "w".toList
    (goldenDirectory ++ inDirectory "basic" "test_zisstubs.h") = .ok {
      header := goldenDirectory ++ inDirectory "basic" "test_zisstubs.h"
      spec := goldenDirectory ++ inDirectory "basic" "test_zisstubs_spec.yaml"
      runs := [comparingCase] } := by
  have hruns : (Spec.document .json comparingSpec).bind (Spec.ofDocument
      (goldenDirectory ++ inDirectory "basic" "test_zisstubs_spec.yaml")
      (Spec.readBeside comparingProgress.files "w".toList
        (goldenDirectory ++ inDirectory "basic" "test_zisstubs_spec.yaml"))) =
        .ok [comparingCase] := by
    decide +kernel
  obtain ⟨value, hvalue, hruns⟩ := bind_eq_ok_iff.mp hruns
  refine Spec.load_eq_ok_iff.mpr ⟨by decide +kernel, rfl,
    FileTree.reaches_of_read read_comparingSpec, comparingSpec, value, ?_, hvalue, hruns⟩
  rw [read_comparingSpec, decodeFile_encode (by decide +kernel)]

/-- The run case of the spec passes after the refresh. -/
theorem refreshed_runs_pass_init_statements :
    ∃ test, Spec.load .json comparingProgress.files "w".toList
        (goldenDirectory ++ inDirectory "basic" "test_zisstubs.h") = .ok test ∧
      test.runs = [comparingCase] ∧
      (judge comparingCase (execute .strict comparingProgress.files test.header
        comparingCase)).details = [] := by
  have hend : comparingProgress.error = none := by decide +kernel
  obtain ⟨text, -, -, -, hpass⟩ := refreshed_runs_pass (by decide) (by decide +kernel) rfl hend
    { header := inDirectory "basic" "test_zisstubs.h"
      golden := inDirectory "basic" "test_zisstubs.init.c"
      kind := .init } (by decide)
  obtain ⟨items, ⟨source, fields, hsource, hdocument, hitems⟩, hcases⟩ :=
    hpass _ _ _ load_comparingSpec
  have hsame : source = comparingSpec := by
    change Spec.decodeFile (comparingProgress.files.read _) = _ at hsource
    rw [read_comparingSpec, decodeFile_encode (by decide +kernel)] at hsource
    exact (Except.ok.inj hsource).symm
  have hfiles : (Spec.document .json comparingSpec).toOption.bind (fun value =>
      (Spec.map? value).bind fun fields => (Spec.list? (Spec.get fields "runs".toList)).map
        (·.map Spec.stdoutFile?)) = some [some (.ofText "test_zisstubs.init.c".toList)] := by
    decide +kernel
  rw [← hsame, hdocument] at hfiles
  change (Spec.list? (Spec.get fields "runs".toList)).map (·.map Spec.stdoutFile?) = _ at hfiles
  rw [hitems] at hfiles
  cases hcases with
  | cons hcase hnil =>
    have hitem := (List.cons.inj (Option.some.inj hfiles)).1
    have hcompares := hcase ⟨rfl, rfl, rfl, rfl, _, hitem, by decide +kernel⟩
    exact ⟨_, load_comparingSpec, rfl, hcompares.2.1⟩

end StubVector.Refresh
