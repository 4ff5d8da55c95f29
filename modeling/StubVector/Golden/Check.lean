import StubVector.Command
import StubVector.Golden.Discovery
import StubVector.Golden.Verdict

/-!
# Golden checks

A golden check discovers the golden tests, runs the command for every run case, and reports the
verdicts. The runs act one after the other on one file tree, and the check prints on the same host.

* `GoldenCheck.verdicts`: the verdicts on golden tests, and the files after their runs.
* `GoldenCheck.run`: the check as a program.
-/

namespace StubVector.GoldenCheck

/-- The arguments of a run case, with the path of the header in its place. -/
def argumentsFor (header : Path) (case : RunCase) : List WideText :=
  case.arguments.map fun argument =>
    if argument = .ofText Spec.headerPlaceholder then header.toText else argument

/-- The outcome of a run case. The command is given its arguments as they are, also those that a
system could not hand to a process. -/
def execute (host : Host) (files : FileTree) (header : Path) (case : RunCase) : Outcome :=
  Command.run host files (argumentsFor header case)

/-- The verdict on a run case (`execute_run`). -/
def judge (case : RunCase) (outcome : Outcome) : RunVerdict := case.verdict outcome.exit

section Runs

variable (host : Host)

/-- The verdicts on run cases, and the files after them (`run_test`). -/
def runVerdicts (header : Path) : FileTree → List RunCase → List RunVerdict × FileTree
  | files, [] => ([], files)
  | files, case :: cases =>
    let outcome := execute host files header case
    let (others, files) := runVerdicts header outcome.files cases
    (judge case outcome :: others, files)

/-- The verdicts on golden tests, and the files after their runs. -/
def verdicts : FileTree → List GoldenTest → List TestVerdict × FileTree
  | files, [] => ([], files)
  | files, test :: tests =>
    let (runs, files) := runVerdicts host test.header files test.runs
    let (others, files) := verdicts files tests
    ({ header := test.header, runs } :: others, files)

end Runs

/-- The exit code for verdicts. -/
def exitCode (verdicts : List TestVerdict) : Nat := if verdicts.all (·.passes) then 0 else 1

/-- How a check ends. -/
inductive Result where
  | outcome (outcome : Outcome)
  /-- There is no number of runs at a time. -/
  | uncounted
  /-- The console refuses a line of the report. -/
  | unprintable (halves : HalfRow) (stdout : WideText) (files : FileTree)
  deriving Repr

/-- The reports on verdicts, for every run or for every header, and what is printed at the end. All
runs are over when the first line is printed. -/
def conclude (console : Console) (perRun : Bool) (closing : List WideText)
    (checked : List TestVerdict × FileTree) : Result :=
  match console.printLines (checked.1.flatMap (Report.lines perRun) ++ closing) with
  | (stdout, none) => .outcome { exitCode := exitCode checked.1, stdout, files := checked.2 }
  | (stdout, some halves) => .unprintable halves stdout checked.2

/-- The reports on golden tests. -/
def report (host : Host) (files : FileTree) (perRun : Bool) (tests : List GoldenTest) : Result :=
  conclude host.console perRun [] (verdicts host files tests)

/-! ## The program -/

/-- The usage lines of the check. -/
def usage : Text := Text.unlines [
  "usage: runner.py [-h] [--jobs JOBS] [--filter FILTER] [--print-per-run]".toList]

/-- The check as a program. -/
def program : Program where
  name := "runner.py".toList
  usage := usage
  help := usage ++ Text.unlines [
    "".toList,
    "Run stub generator golden tests".toList,
    "".toList,
    "options:".toList,
    "  -h, --help       show this help message and exit".toList,
    "  --jobs JOBS      Number of concurrent workers".toList,
    "  --filter FILTER  Glob under tests/golden (e.g. 'basic/**')".toList,
    "  --print-per-run  Print one PASS/FAIL line per run case instead of per header".toList,
    "                   file".toList]

/-- Asks for the help text. -/
def helpOption : OptionSpec := { letter := some 'h', long := "--help".toList, valued := false }

/-- Bounds the number of runs at a time, which does not change what is reported. -/
def jobsOption : OptionSpec := { long := "--jobs".toList, valued := true }

/-- Gives a pattern for headers. -/
def filterOption : OptionSpec := { long := "--filter".toList, valued := true }

/-- Asks for a report on every run. -/
def perRunOption : OptionSpec := { long := "--print-per-run".toList, valued := false }

/-- The arguments that the check takes. -/
def grammar : Grammar where
  options := [helpOption, jobsOption, filterOption, perRunOption]

/-- What the check is asked for. -/
structure Request where
  filter : Option WideText := none
  perRun : Bool := false
  /-- The number of runs at a time was asked for with a value. -/
  countsJobs : Bool := true
  deriving DecidableEq, Repr

/-- The request after an argument. -/
def act (request : Request) (naming : Naming) : Except Halt Request :=
  match naming with
  | .slot _ _ => .ok request
  | .option option value =>
    if option = helpOption then .error .help
    else if option = filterOption then .ok { request with filter := value }
    else if option = perRunOption then .ok { request with perRun := true }
    else
      match value with
      | none => .ok { request with countsJobs := false }
      | some number =>
        if number.toText?.any Text.isInteger then .ok { request with countsJobs := true }
        else .error (.fault (.invalidInteger option number))

/-- The wording for a check without a number of runs at a time. -/
def uncountedMessage : Text := "'>' not supported between instances of 'list' and 'int'".toList

section Checking

variable (host : Host) (loader : Yaml.Loader) (files : FileTree) (workingDirectory : Text)

/-- The check that a request asks for. -/
def check (request : Request) : Result :=
  match Discovery.tests loader files workingDirectory request.filter with
  | .error fault =>
    .outcome {
      exitCode := 2
      stderr := "golden: spec error: ".toList ++ fault.message ++ ['\n']
      files }
  | .ok [] =>
    .outcome { exitCode := 0, stdout := "golden: no tests discovered\n".toList, files }
  | .ok tests =>
    if request.countsJobs then
      let checked := verdicts host files tests
      conclude host.console request.perRun [.ofText (Report.summary tests checked.1)] checked
    else .uncounted

/-- A golden check in a file tree (`main`). -/
def run (arguments : List WideText) : Result :=
  match grammar.interpret arguments act {} with
  | .error halt => .outcome (program.halt files halt)
  | .ok request => check host loader files workingDirectory request

end Checking

end StubVector.GoldenCheck
