import StubVector.Glob.Selection
import StubVector.Golden.Spec

/-!
# Discovery of golden tests

The golden tests are those of the headers below the golden directory that a pattern selects, in
ascending order of their paths, name by name. Unless another pattern is given, a header is a file at
any depth whose name starts with `test_` and ends with `.h`. One faulty spec spoils the discovery.

* `Discovery.headers`: the headers that a pattern selects.
* `Discovery.tests`: the golden tests of these headers.
-/

namespace StubVector

/-- What is wrong with a discovery. -/
inductive DiscoveryFault where
  | glob (fault : Glob.Fault)
  | file (error : FileError)
  | spec (fault : SpecFault)
  deriving DecidableEq, Repr

/-- The wording of what is wrong with a discovery. -/
def DiscoveryFault.message : DiscoveryFault → WideText
  | glob fault => fault.message
  | file error => error.message
  | spec fault => fault.message

namespace Discovery

/-- The golden directory. -/
def root : List WideText := ["tests".toList, "golden".toList]

/-- The pattern for headers for which none is given. -/
def defaultPattern : WideText := "**/test_*.h".toList

/-- The pattern that a filter stands for. -/
def patternOf (filter : Option WideText) : WideText :=
  match filter with
  | some (point :: pattern) => point :: pattern
  | _ => defaultPattern

/-- The code points of names as numbers. -/
def orderKey (names : List WideText) : List (List Nat) := names.map (·.map CodePoint.value)

/-- Whether names come before others in ascending order, name by name. -/
def precede (names others : List WideText) : Bool :=
  (orderKey names).lex (orderKey others) fun name other => name.lex other Nat.blt

/-- Paths in ascending order. -/
def inOrder (selected : List (List WideText)) : List Path :=
  (selected.mergeSort fun names others => !precede others names).map fun names => { names }

/-- The headers that a pattern selects. -/
def headers (files : FileTree) (filter : Option WideText) : Except DiscoveryFault (List Path) :=
  match files.node? { names := root } with
  | none => .ok []
  | some _ => do
    let (components, onlyDirectories) ← (Glob.parse (patternOf filter)).mapError .glob
    let selected ← (Glob.select files root components onlyDirectories).mapError .file
    return inOrder selected

section Loading

variable (loader : Yaml.Loader) (files : FileTree) (workingDirectory : Text)

/-- The golden tests of headers. -/
def load : List Path → Except SpecFault (List GoldenTest)
  | [] => .ok []
  | header :: headers => do
    let test ← Spec.load loader files workingDirectory header
    let tests ← load headers
    return test :: tests

/-- The golden tests of the headers that a pattern selects (`discover_tests`). -/
def tests (filter : Option WideText) : Except DiscoveryFault (List GoldenTest) := do
  (load loader files workingDirectory (← headers files filter)).mapError .spec

end Loading

end Discovery

end StubVector
