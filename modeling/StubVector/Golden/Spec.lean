import StubVector.FileTree
import StubVector.Text.Lines
import StubVector.Yaml

/-!
# Golden specs

A golden spec stands beside a header and lists runs of the command with what is expected of them. It
is a YAML document, as a loader reads it: a map whose `runs` is a list of maps with a `name`, an
`input` and an `expect`.

* `Spec.load`: the golden test of a header.
* `Spec.ofDocument`: the run cases of a document.
* `SpecFault.message`: the wording of what is wrong with a spec.
-/

namespace StubVector

/-- An exit code that is expected, as a number or as a truth value. -/
inductive ExpectedExit where
  | number (code : Int)
  | flag (failing : Bool)
  deriving DecidableEq, Repr

/-- What is expected of a run; nothing is expected where there is no value. -/
structure Expectation where
  exitCode : Option ExpectedExit := none
  stdout : Option WideText := none
  stderr : Option WideText := none
  /-- A part of the error output of a run that fails. -/
  error : Option WideText := none
  deriving DecidableEq, Repr

/-- A run of the command. -/
structure RunCase where
  name : WideText
  arguments : List WideText
  expect : Expectation
  deriving DecidableEq, Repr

/-- The runs of the command on a header. -/
structure GoldenTest where
  header : Path
  spec : Path
  runs : List RunCase
  deriving DecidableEq, Repr

/-- The types of the parts of a spec. -/
inductive SpecType where
  | map
  | list
  | text
  | integer
  deriving DecidableEq, Repr

/-- A part of a spec. -/
inductive SpecPart where
  | document
  | runs
  | run (index : Nat)
  | runName (index : Nat)
  | input (run : WideText)
  | arguments (run : WideText)
  | argument (run : WideText) (index : Nat)
  | expect (run : WideText)
  | expectation (run : WideText) (key : Text)
  deriving DecidableEq, Repr

/-- What is wrong with a spec. -/
inductive SpecFault where
  /-- The header has no name beside which a spec could stand. -/
  | namelessHeader (header : Path)
  | missing (header : Path) (specName : WideText)
  | file (error : FileError)
  | undecodable (fault : Utf8.Fault)
  /-- The text is no document, for which the loader has this wording. -/
  | document (message : Text)
  | wrongType (spec : Path) (part : SpecPart) (type : SpecType)
  | missingRuns (spec : Path)
  | emptyRuns (spec : Path)
  | duplicateName (spec : Path) (run : WideText)
  | unusedHeader (spec : Path) (run : WideText)
  | exclusive (spec : Path) (run : WideText) (key : Text)
  deriving DecidableEq, Repr

namespace Spec

/-- The argument that stands for the header. -/
def headerPlaceholder : Text := "\x7bheader\x7d".toList

/-- What every message about a run starts with. -/
def runLabel (run : WideText) : WideText := ": run '".toList ++ run ++ ['\'']

/-- An index between brackets. -/
def bracketed (index : Nat) : Text := ['['] ++ Text.decimalNat index ++ [']']

end Spec

open Spec in
/-- The wording for a part of a spec, after the path of the spec. -/
def SpecPart.label : SpecPart → WideText
  | .document => []
  | .runs => ": runs".toList
  | .run index => ": runs".toList ++ bracketed index
  | .runName index => ": runs".toList ++ bracketed index ++ ".name".toList
  | .input name => runLabel name ++ " input".toList
  | .arguments name => runLabel name ++ " input.args".toList
  | .argument name index => runLabel name ++ " input.args".toList ++ bracketed index
  | .expect name => runLabel name ++ " expect".toList
  | .expectation name key => runLabel name ++ " expect.".toList ++ key

/-- The wording for a type. -/
def SpecType.label : SpecType → Text
  | map => "dict".toList
  | list => "list".toList
  | text => "str".toList
  | integer => "int".toList

/-- The wording of what is wrong with a spec. -/
def SpecFault.message : SpecFault → WideText
  | .namelessHeader header =>
    "PosixPath(".toList ++ header.toText.quoted ++ ") has an empty name".toList
  | .missing header specName =>
    "missing spec for ".toList ++ header.toText ++ ": expected ".toList ++ specName
  | .file error => error.message
  | .undecodable fault => fault.message
  | .document message => message
  | .wrongType spec part type =>
    spec.toText ++ part.label ++ " must be ".toList ++ type.label
  | .missingRuns spec => spec.toText ++ ": missing required top-level 'runs'".toList
  | .emptyRuns spec => spec.toText ++ ": runs must not be empty".toList
  | .duplicateName spec run => spec.toText ++ ": duplicate run name '".toList ++ run ++ ['\'']
  | .unusedHeader spec run =>
    spec.toText ++ Spec.runLabel run ++ " input.args must reference ".toList ++
      Spec.headerPlaceholder
  | .exclusive spec run key =>
    spec.toText ++ Spec.runLabel run ++ " expect.".toList ++ key ++ " and expect.".toList ++ key ++
      "_file are mutually exclusive".toList

namespace Spec

/-! ## Values of a document -/

/-- The text that a value is. -/
def text? : Yaml → Option WideText
  | .text value => some value
  | _ => none

/-- The fields that a map has. -/
def map? : Yaml → Option (List (Yaml × Yaml))
  | .map fields => some fields
  | _ => none

/-- The items that a list has. -/
def list? : Yaml → Option (List Yaml)
  | .list items => some items
  | _ => none

/-- The exit code that a value is. -/
def exit? : Yaml → Option ExpectedExit
  | .int code => some (.number code)
  | .bool failing => some (.flag failing)
  | _ => none

/-- The value of a field, which is null if it is missing. The last field of a name counts. -/
def get (fields : List (Yaml × Yaml)) (key : Text) : Yaml :=
  ((fields.reverse.find? (·.1.isText key)).map (·.2)).getD .null

/-- What a value is, if it has the type that its part of the spec needs (`_require_type`). -/
def require {α : Type} (spec : Path) (part : SpecPart) (type : SpecType) (found : Option α) :
    Except SpecFault α :=
  match found with
  | some value => .ok value
  | none => .error (.wrongType spec part type)

/-- What a value is that may be missing or null. -/
def optional {α : Type} (value : Yaml) (read : Yaml → Except SpecFault α) :
    Except SpecFault (Option α) :=
  match value with
  | .null => .ok none
  | value => (read value).map some

/-! ## Run cases -/

/-- The arguments of a run from position `index` on. -/
def argumentsFrom (spec : Path) (run : WideText) :
    Nat → List Yaml → Except SpecFault (List WideText)
  | _, [] => .ok []
  | index, item :: items => do
    let argument ← require spec (.argument run index) .text (text? item)
    let arguments ← argumentsFrom spec run (index + 1) items
    return argument :: arguments

/-- The arguments of a run (`_parse_input`). -/
def input (spec : Path) (run : WideText) (value : Yaml) : Except SpecFault (List WideText) := do
  let fields ← require spec (.input run) .map (map? value)
  let items ← require spec (.arguments run) .list (list? (get fields "args".toList))
  let arguments ← argumentsFrom spec run 0 items
  if .ofText headerPlaceholder ∈ arguments then return arguments
  else throw (.unusedHeader spec run)

/-- The text that a run is expected to print under `key`: given in the spec, or as the name of a
file (`_parse_text_expect`). -/
def expectedText (spec : Path) (readFile : WideText → Except SpecFault Text) (run : WideText)
    (fields : List (Yaml × Yaml)) (key : Text) : Except SpecFault (Option WideText) := do
  let fileKey := key ++ "_file".toList
  match get fields key, get fields fileKey with
  | .null, file =>
    optional file fun value => do
      let name ← require spec (.expectation run fileKey) .text (text? value)
      return .ofText (← readFile name)
  | value, .null =>
    (require spec (.expectation run key) .text (text? value)).map some
  | _, _ => throw (.exclusive spec run key)

/-- What is expected of a run (`_parse_expect`). -/
def expectation (spec : Path) (readFile : WideText → Except SpecFault Text) (run : WideText)
    (value : Yaml) : Except SpecFault Expectation := do
  if let .null := value then return {}
  let fields ← require spec (.expect run) .map (map? value)
  let exitKey := "exit_code".toList
  let errorKey := "error".toList
  let exitCode ← optional (get fields exitKey) fun value =>
    require spec (.expectation run exitKey) .integer (exit? value)
  let error ← optional (get fields errorKey) fun value =>
    require spec (.expectation run errorKey) .text (text? value)
  let stdout ← expectedText spec readFile run fields "stdout".toList
  let stderr ← expectedText spec readFile run fields "stderr".toList
  return { exitCode, stdout, stderr, error }

/-- A run case, which may have none of the names before it. -/
def runCase (spec : Path) (readFile : WideText → Except SpecFault Text) (names : List WideText)
    (index : Nat) (value : Yaml) : Except SpecFault RunCase := do
  let fields ← require spec (.run index) .map (map? value)
  let name ← require spec (.runName index) .text (text? (get fields "name".toList))
  if name ∈ names then throw (.duplicateName spec name)
  let arguments ← input spec name (get fields "input".toList)
  let expect ← expectation spec readFile name (get fields "expect".toList)
  return { name, arguments, expect }

/-- The run cases after those of the given names. -/
def runCases (spec : Path) (readFile : WideText → Except SpecFault Text) :
    (names : List WideText) → List Yaml → Except SpecFault (List RunCase)
  | _, [] => .ok []
  | names, value :: values => do
    let first ← runCase spec readFile names names.length value
    let others ← runCases spec readFile (names ++ [first.name]) values
    return first :: others

/-- The run cases of a document. -/
def ofDocument (spec : Path) (readFile : WideText → Except SpecFault Text) (document : Yaml) :
    Except SpecFault (List RunCase) := do
  let fields ←
    match document with
    | .null => pure []
    | document => require spec .document .map (map? document)
  match get fields "runs".toList with
  | .null => throw (.missingRuns spec)
  | runs =>
    match ← require spec .runs .list (list? runs) with
    | [] => throw (.emptyRuns spec)
    | values => runCases spec readFile [] values

/-! ## Files -/

/-- The text of a file in UTF-8, with unified line ends. -/
def decodeFile (opened : Except FileError Bytes) : Except SpecFault Text :=
  match opened with
  | .error error => .error (.file error)
  | .ok bytes =>
    match Utf8.decode bytes with
    | .error fault => .error (.undecodable fault)
    | .ok text => .ok (Text.unifyNewlines text)

/-- The text of a file that a spec names. The file is looked for below the directory of the spec,
and shown in full. -/
def readBeside (files : FileTree) (workingDirectory : Text) (spec : Path) (name : WideText) :
    Except SpecFault Text :=
  let path := spec.parent ++ Path.ofText name
  decodeFile <| (FileTree.collapse path).bind fun collapsed =>
    match files.read collapsed with
    | .error (.refused refusal _) =>
      .error (.refused refusal (Path.absoluteText workingDirectory path))
    | opened => opened

/-- The path of the spec beside a header. -/
def pathFor (header : Path) : Except SpecFault Path :=
  match header.name? with
  | none => .error (.namelessHeader header)
  | some name => .ok (header.withName (Path.stem name ++ "_spec.yaml".toList))

/-- The document that the loader gives for a text. -/
def document (loader : Yaml.Loader) (text : Text) : Except SpecFault Yaml :=
  (loader text).mapError .document

/-- The golden test of a header (`load_spec_for_header`). Messages show the working directory by the
text that is given for it. -/
def load (loader : Yaml.Loader) (files : FileTree) (workingDirectory : Text) (header : Path) :
    Except SpecFault GoldenTest := do
  let spec ← pathFor header
  if !(← (files.reaches spec).mapError .file) then
    throw (.missing header (spec.name?.getD []))
  let value ← document loader (← decodeFile (files.read spec))
  let runs ← ofDocument spec (readBeside files workingDirectory spec) value
  return { header, spec, runs }

end Spec

end StubVector
