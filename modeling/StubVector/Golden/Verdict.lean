import StubVector.Program
import StubVector.Golden.Spec

/-!
# Verdicts

A run passes if everything that is expected of it holds. For a run that does not pass, the verdict
lists every expectation that fails, and then what the run printed to its error output.

* `Verdict.mismatches`: the expectations that fail.
* `Verdict.details`: the lines of a verdict; a run passes if there are none.
* `RunCase.verdict`: the verdict on a run case, from its exit.
* `Report.lines`: the lines that a test prints, per header or per run.
-/

namespace StubVector

/-- How a run ended, as a verdict sees it. The code of a run that was cut off is negative. -/
structure Exit where
  code : Int
  stdout : WideText := []
  stderr : WideText := []
  deriving DecidableEq, Repr

/-- How a run of a program ended, whatever files it left. What it printed is read as text, with
unified line ends. -/
def Outcome.exit (outcome : Outcome) : Exit where
  code := outcome.exitCode
  stdout := outcome.stdout.unifyNewlines
  stderr := outcome.stderr.unifyNewlines

/-- An expectation that fails. -/
inductive Mismatch where
  | exitCode (expected : ExpectedExit) (actual : Int)
  | stdout
  | stderr
  /-- An error is expected of a run that succeeds. -/
  | success
  /-- The expected part is missing in the error output. -/
  | error (part : WideText)
  deriving DecidableEq, Repr

namespace ExpectedExit

/-- The exit code as a number. -/
def code : ExpectedExit → Int
  | number code => code
  | flag failing => if failing then 1 else 0

/-- The exit code as messages show it. -/
def shown : ExpectedExit → Text
  | number code => Text.decimal code
  | flag true => "True".toList
  | flag false => "False".toList

end ExpectedExit

/-- The wording of an expectation that fails. -/
def Mismatch.message : Mismatch → WideText
  | exitCode expected actual =>
    "exit_code expected ".toList ++ expected.shown ++ ", got ".toList ++ Text.decimal actual
  | stdout => "stdout mismatch".toList
  | stderr => "stderr mismatch".toList
  | success => "expected failure but process exited with code 0".toList
  | error part => "error mismatch: expected substring '".toList ++ part ++ ['\'']

namespace Verdict

/-- A mismatch, unless the condition holds. -/
def mismatchUnless (holds : Bool) (mismatch : Mismatch) : List Mismatch :=
  if holds then [] else [mismatch]

/-- The expectations that fail for the exit of a run. -/
def mismatches (expect : Expectation) (exit : Exit) : List Mismatch :=
  (expect.exitCode.toList.flatMap fun expected =>
    mismatchUnless (exit.code == expected.code) (.exitCode expected exit.code)) ++
  (expect.stdout.toList.flatMap fun text => mismatchUnless (exit.stdout == text) .stdout) ++
  (expect.stderr.toList.flatMap fun text => mismatchUnless (exit.stderr == text) .stderr) ++
  (expect.error.toList.flatMap fun part =>
    mismatchUnless (exit.code != 0) .success ++
    mismatchUnless (Text.occursIn part exit.stderr) (.error part))

/-- The lines that show what a run printed to its error output (`_append_stderr_details`). -/
def stderrBlock (stderr : WideText) : List WideText :=
  if stderr.isEmpty then ["captured stderr: <empty>".toList]
  else
    "captured stderr:".toList :: stderr.splitLines.map fun line => "stderr | ".toList ++ line

/-- The lines of a verdict. -/
def details (expect : Expectation) (exit : Exit) : List WideText :=
  match mismatches expect exit with
  | [] => []
  | mismatch :: mismatches =>
    (mismatch :: mismatches).map (·.message) ++ stderrBlock exit.stderr

end Verdict

/-- The verdict on a run. -/
structure RunVerdict where
  name : WideText
  details : List WideText
  deriving DecidableEq, Repr

/-- The verdict on a run case, from its exit (`execute_run`). -/
def RunCase.verdict (case : RunCase) (exit : Exit) : RunVerdict where
  name := case.name
  details := Verdict.details case.expect exit

/-- Whether the run passes. -/
def RunVerdict.passes (verdict : RunVerdict) : Bool := verdict.details.isEmpty

/-- The verdicts on the runs of a golden test. -/
structure TestVerdict where
  header : Path
  runs : List RunVerdict
  deriving DecidableEq, Repr

/-- Whether every run passes. -/
def TestVerdict.passes (verdict : TestVerdict) : Bool := verdict.runs.all (·.passes)

namespace Report

/-- The first word of a line about something that passes or not. -/
def status (passes : Bool) : Text := if passes then "PASS".toList else "FAIL".toList

/-- The lines about a run, when every run is reported. -/
def runLines (header : Path) (run : RunVerdict) : List WideText :=
  (status run.passes ++ [' '] ++ header.toText ++ " :: ".toList ++ run.name) ::
    run.details.map fun detail => "  - ".toList ++ detail

/-- The lines about a failing run, when only headers are reported. -/
def failureLines (run : RunVerdict) : List WideText :=
  if run.passes then []
  else
    ("  run '".toList ++ run.name ++ "':".toList) ::
      run.details.map fun detail => "    - ".toList ++ detail

/-- The lines about a golden test, for every run or for the header as a whole (`_print_result`). -/
def lines (perRun : Bool) (verdict : TestVerdict) : List WideText :=
  if perRun then verdict.runs.flatMap (runLines verdict.header)
  else
    (status verdict.passes ++ [' '] ++ verdict.header.toText) ::
      verdict.runs.flatMap failureLines

/-- The last line of a report. -/
def summary (tests : List GoldenTest) (verdicts : List TestVerdict) : Text :=
  "golden: ".toList ++ Text.decimalNat (verdicts.countP (·.passes)) ++ ['/'] ++
    Text.decimalNat verdicts.length ++ " header files passed; ".toList ++
    Text.decimalNat (tests.flatMap (·.runs)).length ++ " runs total".toList

end Report

end StubVector
