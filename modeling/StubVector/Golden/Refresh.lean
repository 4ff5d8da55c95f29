import StubVector.HeaderFile
import StubVector.Host
import StubVector.Program

/-!
# Refreshing golden outputs

A refresh generates the golden outputs anew, one target after the other, and reports every file that
it wrote. It ends at the first target that cannot be generated or written; the files of the targets
before it stay written.

* `Refresh.targets`: the golden outputs.
* `Refresh.refreshAll`: the refresh of a list of targets.
* `Refresh.run`: the refresh as a program.
-/

namespace StubVector.Refresh

/-- A golden output: its header and its file below the golden directory, and how it is generated. -/
structure Target where
  header : Path
  golden : Path
  kind : OutputKind
  mode : DispatchMode := .r12
  deriving DecidableEq, Repr

/-- A path of two names. -/
def inDirectory (directory name : String) : Path := { names := [directory.toList, name.toList] }

/-- The golden outputs. -/
def targets : List Target := [
  { header := inDirectory "basic" "test_zisstubs.h"
    golden := inDirectory "basic" "test_zisstubs.init.c"
    kind := .init },
  { header := inDirectory "basic" "test_zisstubs.h"
    golden := inDirectory "basic" "test_zisstubs.r12.asm"
    kind := .asm },
  { header := inDirectory "basic" "test_zisstubs.h"
    golden := inDirectory "basic" "test_zisstubs.zvte.asm"
    kind := .asm
    mode := .zvte },
  { header := inDirectory "empty" "test_no_stubs.h"
    golden := inDirectory "empty" "test_no_stubs.asm"
    kind := .asm
    mode := .zvte }]

section Refreshing

variable (host : Host) (directory : Path) (charset : Option WideText)

/-- The generated text of a target. -/
def textOf (files : FileTree) (target : Target) : Except Error WideText :=
  match charset with
  | none => .error (.header .namelessCharset)
  | some name =>
    HeaderFile.generate host.charsets files (directory ++ target.header) (.kind target.kind)
      (.mode target.mode) name

/-- What is left of refreshing golden outputs. -/
structure Progress where
  /-- Why the refresh ended early. -/
  error : Option Error := none
  /-- The files that were reported as written. -/
  updated : List Path := []
  files : FileTree
  deriving Repr

/-- What is printed for a file that was written. -/
def updatedLine (path : Path) : WideText := "Updated ".toList ++ path.toText

/-- The refresh of one target. -/
def refresh (files : FileTree) (target : Target) : Progress :=
  match textOf host directory charset files target with
  | .error error => { error := some error, files }
  | .ok text =>
    let golden := directory ++ target.golden
    let attempt := files.writeText golden text
    match attempt.error, host.console.refused? (updatedLine golden) with
    | some error, _ => { error := some (.file error), files := attempt.files }
    | none, some halves => { error := some (.unprintable halves), files := attempt.files }
    | none, none => { updated := [golden], files := attempt.files }

/-- The refresh of a list of targets (`refresh_golden_files`). -/
def refreshAll : FileTree → List Target → Progress
  | files, [] => { files }
  | files, target :: targets =>
    let first := refresh host directory charset files target
    if first.error.isSome then first
    else
      let others := refreshAll first.files targets
      { others with updated := first.updated ++ others.updated }

end Refreshing

/-! ## The program -/

/-- The usage lines of the refresh. -/
def usage : Text := Text.unlines [
  "usage: refresh_golden.py [-h] [--golden-dir GOLDEN_DIR] [--encoding ENCODING]".toList]

/-- The refresh as a program. -/
def program : Program where
  name := "refresh_golden.py".toList
  usage := usage
  help := usage ++ Text.unlines [
    "".toList,
    "Refresh stub generator golden output files.".toList,
    "".toList,
    "options:".toList,
    "  -h, --help            show this help message and exit".toList,
    "  --golden-dir GOLDEN_DIR".toList,
    "                        Directory containing golden headers and expected".toList,
    "                        outputs.".toList,
    "  --encoding ENCODING   Encoding of the golden headers (default: utf-8).".toList]

/-- Asks for the help text. -/
def helpOption : OptionSpec := { letter := some 'h', long := "--help".toList, valued := false }

/-- Names the golden directory. -/
def directoryOption : OptionSpec := { long := "--golden-dir".toList, valued := true }

/-- Names the charset of the headers. -/
def encodingOption : OptionSpec := { long := "--encoding".toList, valued := true }

/-- The arguments that the refresh takes. -/
def grammar : Grammar where
  options := [helpOption, directoryOption, encodingOption]

/-- What the refresh is asked for. -/
structure Request where
  directory : Option WideText := some "tests/golden".toList
  charset : Option WideText := some "utf-8".toList
  deriving DecidableEq, Repr

/-- The request after an argument. -/
def act (request : Request) (naming : Naming) : Except Halt Request :=
  match naming with
  | .slot _ _ => .ok request
  | .option option value =>
    if option = helpOption then .error .help
    else if option = directoryOption then .ok { request with directory := value }
    else .ok { request with charset := value }

/-- Why a refresh does not come to its end. -/
inductive Fault where
  | missingDirectory (directory : Path)
  | error (error : Error)
  deriving DecidableEq, Repr

/-- The wording of a fault. -/
def Fault.message : Fault → WideText
  | .missingDirectory directory =>
    "Golden directory does not exist: ".toList ++ directory.toText
  | .error cause => cause.message

/-- What a run of the refresh leaves; it has an exit code only if it comes to its end. -/
structure Result where
  fault : Option Fault := none
  outcome : Outcome
  deriving Repr

/-- A result with a fault before anything is done. -/
def Result.stopped (files : FileTree) (fault : Fault) : Result :=
  { fault := some fault, outcome := { exitCode := 1, files } }

/-- The refresh of a golden directory. -/
def refreshDirectory (host : Host) (files : FileTree) (directory : Path)
    (charset : Option WideText) : Result :=
  let progress := refreshAll host directory charset files targets
  { fault := progress.error.map .error
    outcome := {
      exitCode := if progress.error.isSome then 1 else 0
      stdout := Text.unlines (progress.updated.map updatedLine)
      files := progress.files } }

/-- A run of the refresh in a file tree (`main`). -/
def run (host : Host) (files : FileTree) (arguments : List WideText) : Result :=
  match grammar.interpret arguments act {} with
  | .error halt => { outcome := program.halt files halt }
  | .ok request =>
    match request.directory with
    | none => .stopped files (.error .textlessPath)
    | some text =>
      let directory := Path.ofText text
      match files.reaches directory with
      | .error error => .stopped files (.error (.file error))
      | .ok false => .stopped files (.missingDirectory directory)
      | .ok true => refreshDirectory host files directory request.charset

end StubVector.Refresh
