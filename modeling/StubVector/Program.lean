import StubVector.Arguments
import StubVector.FileTree

/-!
# Programs

What a program has besides its work: its name, the usage lines and the help text. A run of a program
gives an exit code, what it printed, and the files that it left.

* `Program.halt`: the outcome for arguments that ask for help or are wrong.
-/

namespace StubVector

/-- The texts of a program. -/
structure Program where
  name : Text
  /-- The usage lines. -/
  usage : Text
  /-- The help text, which starts with the usage lines. -/
  help : Text
  deriving Repr

/-- What a run of a program gives. -/
structure Outcome where
  exitCode : Nat
  stdout : WideText := []
  stderr : WideText := []
  files : FileTree
  deriving Repr

/-- What is printed for arguments that are wrong. -/
def Program.complaint (program : Program) (fault : UsageFault) : WideText :=
  program.usage ++ program.name ++ ": error: ".toList ++ fault.message ++ ['\n']

/-- The outcome for a halt before the work of the program. -/
def Program.halt (program : Program) (files : FileTree) : Halt → Outcome
  | .help => { exitCode := 0, stdout := program.help, files }
  | .fault fault => { exitCode := 2, stderr := program.complaint fault, files }

end StubVector
