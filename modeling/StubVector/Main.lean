import StubVector.Command

/-!
# Command line

The command on the files of the system. What the arguments ask for and what is answered is decided
by `Command.requestOf` and `Request.answer`; here the header is opened, and the answer is printed or
written.
-/

namespace StubVector.Command

/-- The number of an error of the system, which may be given with either sign. -/
def errorNumber (code : UInt32) : Nat := min code.toNat (0 - code).toNat

/-- The refusal of a path that an error of the system stands for. -/
def refusalOf? : IO.Error → Option Refusal
  | .noFileOrDirectory .. => some .notFound
  | .inappropriateType _ code _ =>
    some (if errorNumber code = Refusal.isDirectory.number then .isDirectory else .notDirectory)
  | .invalidArgument _ code _ =>
    if errorNumber code = Refusal.nameTooLong.number then some .nameTooLong else none
  | _ => none

/-- What an action on the file at a path gives. An error that refuses no path is thrown on. -/
def attempt {α : Type} (path : Path) (action : IO α) : IO (Except FileError α) := do
  try
    return .ok (← action)
  catch error =>
    match refusalOf? error with
    | some refusal => return .error (.refused refusal path.toText)
    | none => throw error

/-- What opening the file at a path gives. -/
def openFile (path : Path) : IO (Except FileError Bytes) :=
  attempt path do
    return (← IO.FS.readBinFile (String.ofList path.toText.shown)).toList

/-- Writes the file at a path. -/
def writeFile (path : Path) (content : Bytes) : IO (Except FileError Unit) :=
  attempt path (IO.FS.writeBinFile (String.ofList path.toText.shown) ⟨content.toArray⟩)

/-- Prints what an outcome shows, and gives its exit code. -/
def conclude (outcome : Outcome) : IO UInt32 := do
  IO.print (String.ofList outcome.stdout.shown)
  IO.eprint (String.ofList outcome.stderr.shown)
  return outcome.exitCode.toUInt32

/-- The answer to a request, after its header is opened. -/
def answerFor (request : Request) : IO Answer := do
  let opened ← request.path?.mapM openFile
  return request.answer Charset.registry fun _ => opened.getD (.ok [])

/-- What is shown when no file is changed. -/
def unchanged : FileTree := .ofEntries []

/-- Carries out an answer on the files of the system, and gives the exit code. A file is opened
before the text for it is encoded. -/
def perform (answer : Answer) : IO UInt32 := do
  if let .write path text := answer then
    let (content, cause) : Bytes × Option FileError :=
      match text.asText with
      | .ok stored => (Utf8.encode stored, none)
      | .error halves => ([], some (.unencodable halves))
    match ← writeFile path content, cause with
    | .ok (), none => return 0
    | .ok (), some error | .error error, _ =>
      conclude (carryOut .strict unchanged (.report (.file error)))
  else conclude (carryOut .strict unchanged answer)

end StubVector.Command

open StubVector in
/-- Runs the command. -/
def main (arguments : List String) : IO UInt32 := do
  match Command.requestOf (arguments.map fun argument => .ofText argument.toList) with
  | .error halt => Command.conclude (Command.program.halt Command.unchanged halt)
  | .ok request => Command.perform (← Command.answerFor request)
