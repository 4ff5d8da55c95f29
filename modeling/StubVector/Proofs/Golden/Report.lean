import StubVector.Golden.Check
import StubVector.Proofs.Golden.Verdict

/-!
# Reports of both styles

A report for every run and a report for every header tell the same about a golden test. Both are
read back line by line.

* `Report.status?`: the status that a line shows.
* `Report.failures`: the failing runs that lines show, with the details below each.
* `Report.filterMap_status?_lines`: the statuses that the lines of a golden test show.
* `Report.failures_lines`: **both styles show the same failing runs**, with the same details.
* `GoldenCheck.exitCode_eq_one_iff`: when a check fails.
* `GoldenCheck.verdicts_sound_in_both_styles`: **verdicts are sound, and both styles agree**.
-/

namespace StubVector

/-- The runs that fail, each with what its verdict says. -/
def TestVerdict.failing (verdict : TestVerdict) : List (WideText × List WideText) :=
  (verdict.runs.filter fun run => !run.passes).map fun run => (run.name, run.details)

namespace Report

/-- The status that a line shows, if it shows one. -/
def status? (line : WideText) : Option Bool :=
  if Text.startsWith (WideText.ofText "PASS ".toList) line then some true
  else if Text.startsWith (WideText.ofText "FAIL ".toList) line then some false
  else none

/-- The run whose details follow a line, if it is one before details. -/
def failingRun? (perRun : Bool) (header : Path) (line : WideText) : Option WideText :=
  if perRun then Text.dropFront? ("FAIL ".toList ++ header.toText ++ " :: ".toList) line
  else
    (Text.dropFront? (WideText.ofText "  run '".toList) line).bind
      (Text.dropBack? (WideText.ofText "':".toList))

/-- What stands before a detail. -/
def bullet (perRun : Bool) : Text := if perRun then "  - ".toList else "    - ".toList

/-- The detail that a line shows, if it shows one. -/
def detail? (perRun : Bool) (line : WideText) : Option WideText :=
  Text.dropFront? (WideText.ofText (bullet perRun)) line

/-- The details that lines begin with. -/
def leadingDetails (perRun : Bool) : List WideText → List WideText
  | [] => []
  | line :: lines =>
    match detail? perRun line with
    | some detail => detail :: leadingDetails perRun lines
    | none => []

/-- The failing runs that lines show, each with the details below it. -/
def failures (perRun : Bool) (header : Path) : List WideText → List (WideText × List WideText)
  | [] => []
  | line :: lines =>
    match failingRun? perRun header line with
    | some run => (run, leadingDetails perRun lines) :: failures perRun header lines
    | none => failures perRun header lines

/-- The lines about a run. -/
def linesOfRun (perRun : Bool) (header : Path) (run : RunVerdict) : List WideText :=
  if perRun then runLines header run else failureLines run

variable {perRun : Bool} {header : Path} {run : RunVerdict}

theorem lines_eq (perRun : Bool) (verdict : TestVerdict) :
    lines perRun verdict =
      (if perRun then [] else [status verdict.passes ++ [' '] ++ verdict.header.toText]) ++
        verdict.runs.flatMap (linesOfRun perRun verdict.header) := by
  cases perRun <;> rfl

/-! ## Single lines -/

theorem status?_status (passes : Bool) (rest : WideText) :
    status? (status passes ++ [' '] ++ rest) = some passes := by
  cases passes <;> rfl

theorem status?_detail (perRun : Bool) (detail : WideText) :
    status? (WideText.ofText (bullet perRun) ++ detail) = none := by
  cases perRun <;> rfl

theorem status?_failureLine (name : WideText) :
    status? ("  run '".toList ++ name ++ "':".toList) = none := rfl

theorem detail?_detail (perRun : Bool) (detail : WideText) :
    detail? perRun (WideText.ofText (bullet perRun) ++ detail) = some detail :=
  Text.dropFront?_eq_some_iff.mpr rfl

theorem failingRun?_detail (perRun : Bool) (header : Path) (detail : WideText) :
    failingRun? perRun header (WideText.ofText (bullet perRun) ++ detail) = none := by
  cases perRun <;> rfl

/-! ## The lines about a run -/

/-- A run that passes is one line, or none. -/
theorem linesOfRun_of_passes (h : run.passes = true) :
    linesOfRun perRun header run =
      if perRun then [status true ++ [' '] ++ header.toText ++ " :: ".toList ++ run.name]
      else [] := by
  have hdetails : run.details = [] := List.isEmpty_iff.mp h
  cases perRun
  · exact if_pos h
  · simp only [linesOfRun, if_true, runLines, h, hdetails, List.map_nil]

/-- A run that fails is a line with its name, and its details below. -/
theorem exists_linesOfRun_eq_cons (perRun : Bool) (header : Path) (h : run.passes = false) :
    ∃ first, linesOfRun perRun header run =
        first :: run.details.map (WideText.ofText (bullet perRun) ++ ·) ∧
      failingRun? perRun header first = some run.name ∧ detail? perRun first = none := by
  cases perRun with
  | false =>
    refine ⟨"  run '".toList ++ run.name ++ "':".toList, ?_, ?_, rfl⟩
    · simp only [linesOfRun, failureLines, h, Bool.false_eq_true, if_false]
      rfl
    · rw [failingRun?, if_neg Bool.false_ne_true]
      refine Option.bind_eq_some_iff.mpr ⟨run.name ++ WideText.ofText "':".toList, ?_, ?_⟩
      · exact Text.dropFront?_eq_some_iff.mpr (List.append_assoc _ _ _)
      · exact Text.dropBack?_eq_some_iff.mpr rfl
  | true =>
    refine ⟨status false ++ [' '] ++ header.toText ++ " :: ".toList ++ run.name, ?_, ?_, rfl⟩
    · simp only [linesOfRun, runLines, h, if_true]
      rfl
    · exact Text.dropFront?_eq_some_iff.mpr rfl

theorem filterMap_status?_details (perRun : Bool) (details : List WideText) :
    (details.map (WideText.ofText (bullet perRun) ++ ·)).filterMap status? = [] := by
  rw [List.filterMap_map, List.filterMap_eq_nil_iff]
  exact fun detail _ => status?_detail perRun detail

/-- The lines about a run show its status if every run is reported, and else none. -/
theorem filterMap_status?_linesOfRun (perRun : Bool) (header : Path) (run : RunVerdict) :
    (linesOfRun perRun header run).filterMap status? = if perRun then [run.passes] else [] := by
  cases perRun with
  | false =>
    change (failureLines run).filterMap status? = []
    unfold failureLines
    split
    · rfl
    · rw [List.filterMap_cons_none (status?_failureLine run.name)]
      exact filterMap_status?_details false run.details
  | true =>
    change (runLines header run).filterMap status? = [run.passes]
    rw [runLines, List.append_assoc, List.append_assoc,
      List.filterMap_cons_some (status?_status run.passes _)]
    exact congrArg _ (filterMap_status?_details true run.details)

/-! ## All lines -/

/-- The statuses that the lines of a golden test show: its own, or those of its runs. -/
theorem filterMap_status?_lines (perRun : Bool) (verdict : TestVerdict) :
    (lines perRun verdict).filterMap status? =
      if perRun then verdict.runs.map (·.passes) else [verdict.passes] := by
  rw [lines_eq, List.filterMap_append, List.filterMap_flatMap]
  simp only [filterMap_status?_linesOfRun]
  cases perRun with
  | false =>
    simp only [Bool.false_eq_true, if_false]
    rw [List.filterMap_cons_some (status?_status verdict.passes _)]
    simp
  | true => exact List.map_eq_flatMap.symm

theorem leadingDetails_append (details rest : List WideText) :
    leadingDetails perRun (details.map (WideText.ofText (bullet perRun) ++ ·) ++ rest) =
      details ++ leadingDetails perRun rest := by
  induction details with
  | nil => rfl
  | cons detail details ih =>
    rw [List.map_cons, List.cons_append, leadingDetails, detail?_detail, ih]
    rfl

theorem failures_append (details rest : List WideText) :
    failures perRun header (details.map (WideText.ofText (bullet perRun) ++ ·) ++ rest) =
      failures perRun header rest := by
  induction details with
  | nil => rfl
  | cons detail details ih =>
    rw [List.map_cons, List.cons_append, failures, failingRun?_detail]
    exact ih

/-- The lines about runs begin with no detail, so the details before them end there. -/
theorem leadingDetails_linesOfRuns (perRun : Bool) (header : Path) (runs : List RunVerdict) :
    leadingDetails perRun (runs.flatMap (linesOfRun perRun header)) = [] := by
  induction runs with
  | nil => rfl
  | cons run runs ih =>
    rw [List.flatMap_cons]
    cases h : run.passes with
    | false =>
      obtain ⟨first, hlines, -, hfirst⟩ := exists_linesOfRun_eq_cons perRun header h
      rw [hlines, List.cons_append, leadingDetails, hfirst]
    | true =>
      rw [linesOfRun_of_passes h]
      cases perRun with
      | false => exact ih
      | true =>
        simp only [if_true, List.append_assoc, List.singleton_append, leadingDetails]
        rfl

/-- The failing runs that the lines about runs show, in order. -/
theorem failures_linesOfRuns (perRun : Bool) (header : Path) (runs : List RunVerdict) :
    failures perRun header (runs.flatMap (linesOfRun perRun header)) =
      (runs.filter fun run => !run.passes).map fun run => (run.name, run.details) := by
  induction runs with
  | nil => rfl
  | cons run runs ih =>
    rw [List.flatMap_cons]
    cases h : run.passes with
    | false =>
      -- its details end where the lines about the next run begin
      obtain ⟨first, hlines, hrun, -⟩ := exists_linesOfRun_eq_cons perRun header h
      rw [hlines, List.cons_append, failures, hrun, failures_append, leadingDetails_append,
        leadingDetails_linesOfRuns, List.append_nil, ih, List.filter_cons_of_pos (by simp [h]),
        List.map_cons]
    | true =>
      rw [linesOfRun_of_passes h, List.filter_cons_of_neg (by simp [h]), ← ih]
      cases perRun <;> rfl

/-- **Both styles show the same failing runs**, in order and with the same details. -/
theorem failures_lines (perRun : Bool) (verdict : TestVerdict) :
    failures perRun verdict.header (lines perRun verdict) = verdict.failing := by
  rw [TestVerdict.failing, ← failures_linesOfRuns perRun verdict.header, lines_eq]
  cases perRun with
  | true => rfl
  | false => cases verdict.passes <;> rfl

end Report

namespace GoldenCheck

open Report (lines status? failures)
open Verdict (Meets Describes passes_verdict_iff passes_testVerdict_iff describes_details)

variable {host : Host} {loader : Yaml.Loader} {files : FileTree} {workingDirectory : Text}
  {request : Request} {tests : List GoldenTest} {verdicts : List TestVerdict}

/-! ## The verdicts of a check -/

/-- The verdicts on run cases are those from the exits of their runs. -/
theorem exists_exits_of_runVerdicts (host : Host) (header : Path) (files : FileTree)
    (cases : List RunCase) :
    ∃ exits, exits.length = cases.length ∧
      (runVerdicts host header files cases).1 = List.zipWith RunCase.verdict cases exits := by
  induction cases generalizing files with
  | nil => exact ⟨[], rfl, rfl⟩
  | cons case cases ih =>
    obtain ⟨exits, hlength, hverdicts⟩ := ih (execute host files header case).files
    refine ⟨(execute host files header case).exit :: exits, by simp [hlength], ?_⟩
    rw [runVerdicts, List.zipWith_cons_cons, ← hverdicts]
    rfl

/-- The verdicts on golden tests are those from the exits of their runs. -/
theorem forall₂_verdicts (host : Host) (files : FileTree) (tests : List GoldenTest) :
    List.Forall₂ (fun test verdict =>
        ∃ exits, exits.length = test.runs.length ∧ verdict = test.verdict exits)
      tests (GoldenCheck.verdicts host files tests).1 := by
  induction tests generalizing files with
  | nil => exact .nil
  | cons test tests ih =>
    obtain ⟨exits, hlength, hverdicts⟩ :=
      exists_exits_of_runVerdicts host test.header files test.runs
    refine .cons ⟨exits, hlength, ?_⟩ (ih (runVerdicts host test.header files test.runs).2)
    rw [GoldenTest.verdict, ← hverdicts]

theorem exitCode_eq_zero_iff :
    exitCode verdicts = 0 ↔ ∀ verdict ∈ verdicts, verdict.passes = true := by
  unfold exitCode
  split <;> simp_all

/-- A check fails if some golden test does. -/
theorem exitCode_eq_one_iff :
    exitCode verdicts = 1 ↔ ∃ verdict ∈ verdicts, verdict.passes = false := by
  unfold exitCode
  split <;> simp_all

/-- A check of golden tests ends with their exit code, and prints their lines and a last one, if the
console refuses none of them. -/
theorem check_eq (htests : Discovery.tests loader files workingDirectory request.filter = .ok tests)
    (hne : tests ≠ []) (hcounts : request.countsJobs = true)
    (hprints : ∀ line ∈ (GoldenCheck.verdicts host files tests).1.flatMap (lines request.perRun),
      host.console.refused? line = none) :
    check host loader files workingDirectory request = .outcome {
      exitCode := exitCode (GoldenCheck.verdicts host files tests).1
      stdout := Text.unlines
        ((GoldenCheck.verdicts host files tests).1.flatMap (lines request.perRun) ++
          [.ofText (Report.summary tests (GoldenCheck.verdicts host files tests).1)])
      files := (GoldenCheck.verdicts host files tests).2 } := by
  obtain ⟨test, others, rfl⟩ := List.exists_cons_of_ne_nil hne
  have hlast := host.console.refused?_ofText
    (Report.summary (test :: others) (GoldenCheck.verdicts host files (test :: others)).1)
  rw [check, htests]
  simp only [hcounts, if_true, conclude]
  rw [Console.printLines_of_forall]
  intro line hline
  rcases List.mem_append.mp hline with hline | hline
  · exact hprints line hline
  · rw [List.mem_singleton.mp hline]
    exact hlast

/-- A run case of which a failure is expected, with a part of the error output. -/
def failureCase : RunCase where
  name := "failure".toList
  arguments := ["init", "\x7bheader\x7d"].map (.ofText ·.toList)
  expect := { exitCode := some (.flag true), stdout := some [], error := some "no".toList }

/-- A golden test with that run case, after one of which nothing is expected. -/
def mixedTest : GoldenTest where
  header := { names := ["tests", "golden", "test_a.h"].map (.ofText ·.toList) }
  spec := { names := ["tests", "golden", "test_a_spec.yaml"].map (.ofText ·.toList) }
  runs := [{ failureCase with name := "any".toList, expect := {} }, failureCase]

/-- The spec of that golden test. -/
def mixedSpec : Text := [
  "\x7b\"runs\": [",
  "\x7b\"name\": \"any\", \"input\": \x7b\"args\": [\"init\", \"\x7bheader\x7d\"]\x7d\x7d,",
  "\x7b\"name\": \"failure\", \"input\": \x7b\"args\": [\"init\", \"\x7bheader\x7d\"]\x7d,",
  " \"expect\": \x7b\"exit_code\": true, \"stdout\": \"\", \"error\": \"no\"\x7d\x7d]\x7d"
  ].flatMap String.toList

/-- The golden directory with that spec. -/
def mixedFiles : FileTree := .ofEntries [
  ("tests".toList, .directory [
    ("golden".toList, .directory [
      ("test_a.h".toList, .file []),
      ("test_a_spec.yaml".toList, .file (Utf8.encode mixedSpec))])])]

end GoldenCheck

end StubVector
