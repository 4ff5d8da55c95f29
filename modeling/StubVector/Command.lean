import StubVector.Dump
import StubVector.HeaderFile
import StubVector.Host
import StubVector.Program
import StubVector.Text.Wide.Lowercase

/-!
# The command

The command line of the generator. It reads a header and prints the generated text or writes it to a
file; instead it can print the definitions of the header. Nothing is printed or written before the
whole text is generated.

* `Request.ofArguments`: what the arguments ask for.
* `Request.answer`: the answer to a request, from what opening the header gave.
* `Command.run`: a run of the command in a file tree.
-/

namespace StubVector

/-- What the command is asked for. -/
structure Request where
  kind : OutputKind := .asm
  mode : DispatchMode := .r12
  /-- The text of the path of the header. -/
  header : Option WideText := none
  /-- The text of the path of the output. -/
  output : Option WideText := none
  /-- The name of the charset of the header. -/
  charset : Option WideText := some HeaderFile.defaultCharset
  /-- The definitions are printed and nothing is generated. -/
  printsDefinitions : Bool := false
  deriving DecidableEq, Repr

/-- What the command does in the end. -/
inductive Answer where
  | print (text : WideText)
  | write (path : Path) (text : WideText)
  | report (error : Error)
  deriving DecidableEq, Repr

namespace Command

/-- The usage lines of the command. -/
def usage : Text := Text.unlines [
  "usage: stubgen [-h] [-o OUTPUT] [--encoding ENCODING] [--print-definitions]".toList,
  "               \x7basm,init\x7d stub_header [\x7br12,zvte\x7d]".toList]

/-- The command as a program. -/
def program : Program where
  name := "stubgen".toList
  usage := usage
  help := usage ++ Text.unlines [
    "".toList,
    "Generate ZIS plugin stubs or stub vector initialization from a stub header.".toList,
    "".toList,
    "positional arguments:".toList,
    "  \x7basm,init\x7d            Utility command (asm, init)".toList,
    "  stub_header           Header with the stub definitions (usually zisstubs.h)".toList,
    "  \x7br12,zvte\x7d            Dispatch mode of the stub routines (only used with".toList,
    "                        asm)".toList,
    "".toList,
    "options:".toList,
    "  -h, --help            show this help message and exit".toList,
    "  -o OUTPUT, --output OUTPUT".toList,
    "                        Output file path (default: stdout)".toList,
    "  --encoding ENCODING   Encoding of the stub header (default: cp1047)".toList,
    "  --print-definitions   Print the parsed stub definitions as JSON and stop".toList,
    "".toList,
    "commands:".toList,
    "  asm    generate the stub routines (HLASM) for plugins".toList,
    "  init   generate the stub vector initialization code for the base plugin".toList,
    "".toList,
    "dispatch modes (asm only):".toList,
    "  r12    the stub vector is based off of GPR12 (default)".toList,
    "  zvte   the stub vector is based off of the ZVTE".toList]

/-- Asks for the help text. -/
def helpOption : OptionSpec := { letter := some 'h', long := "--help".toList, valued := false }

/-- Names the output file. -/
def outputOption : OptionSpec := { letter := some 'o', long := "--output".toList, valued := true }

/-- Names the charset of the header. -/
def encodingOption : OptionSpec := { long := "--encoding".toList, valued := true }

/-- Asks for the definitions. -/
def printOption : OptionSpec := { long := "--print-definitions".toList, valued := false }

/-- The slot of the output kind. -/
def kindSlot : Slot := { name := "command".toList }

/-- The slot of the header. -/
def headerSlot : Slot := { name := "stub_header".toList }

/-- The slot of the dispatch mode. -/
def modeSlot : Slot := { name := "dispatch_mode".toList, optional := true }

/-- The arguments that the command takes. -/
def grammar : Grammar where
  options := [helpOption, outputOption, encodingOption, printOption]
  slots := [kindSlot, headerSlot, modeSlot]

/-- The member of that name in any case, for a slot with such a choice. -/
def choose {α : Type} (slot : Slot) (members : List α) (name : α → Text) (word : WideText) :
    Except Halt α :=
  let lower := word.lowercase
  match members.find? fun member => WideText.ofText (name member) = lower with
  | some member => .ok member
  | none => .error (.fault (.invalidChoice slot lower (members.map name)))

/-- The request after an argument. -/
def act (request : Request) (naming : Naming) : Except Halt Request :=
  match naming with
  | .slot slot word =>
    if slot = kindSlot then
      (choose slot OutputKind.all OutputKind.name (word.getD [])).map fun kind =>
        { request with kind }
    else if slot = headerSlot then .ok { request with header := word }
    else
      match word with
      | none => .ok request
      | some word =>
        (choose slot DispatchMode.all DispatchMode.name word).map fun mode => { request with mode }
  | .option option value =>
    if option = helpOption then .error .help
    else if option = outputOption then .ok { request with output := value }
    else if option = encodingOption then .ok { request with charset := value }
    else .ok { request with printsDefinitions := true }

end Command

namespace Request

/-- What the arguments ask for. -/
def ofArguments (arguments : List WideText) : Except Halt Request :=
  Command.grammar.interpret arguments Command.act {}

/-- The lines of the header, from what opening it gave. -/
def linesOf (charsets : Charsets) (request : Request) (path : Path)
    (opened : Except FileError Bytes) : Except Error (List WideText) :=
  match request.charset with
  | none => .error (.header .namelessCharset)
  | some name => (HeaderFile.linesOf charsets path name opened).mapError .header

/-- The text that is asked for, from the lines of the header. -/
def textOf (request : Request) (path : Path) (lines : List WideText) :
    Except (Failure CodePoint) WideText :=
  if request.printsDefinitions then
    (Header.parseLines path.toText lines).bind fun definitions =>
      (Dump.print false definitions).map fun json => .ofText (json ++ ['\n'])
  else generate path.toText lines (.kind request.kind) (.mode request.mode)

/-- Where the text goes: into a file if one is named, but definitions are always printed. -/
def deliver (request : Request) (text : WideText) : Answer :=
  match request.output with
  | some (point :: output) =>
    if request.printsDefinitions then .print text else .write (Path.ofText (point :: output)) text
  | _ => .print text

/-- The path of the header. -/
def path? (request : Request) : Option Path := request.header.map Path.ofText

/-- The answer to a request, from what opening a file gives. -/
def answer (charsets : Charsets) (request : Request) (opened : Path → Except FileError Bytes) :
    Answer :=
  match request.path? with
  | none => .report .textlessPath
  | some path =>
    match request.linesOf charsets path (opened path) with
    | .error error => .report error
    | .ok lines =>
      match request.textOf path lines with
      | .error failure => .report (.failure failure)
      | .ok text => request.deliver text

end Request

namespace Command

/-- What is printed for an error. -/
def report (error : Error) : WideText := "stubgen: ".toList ++ error.message ++ ['\n']

/-- The outcome of an answer in a file tree. -/
def carryOut (console : Console) (files : FileTree) : Answer → Outcome
  | .print text =>
    match console.refused? text with
    | none => { exitCode := 0, stdout := text, files }
    | some halves => { exitCode := 1, stderr := report (.unprintable halves), files }
  | .write path text =>
    let attempt := files.writeText path text
    match attempt.error with
    | none => { exitCode := 0, files := attempt.files }
    | some error => { exitCode := 1, stderr := report (.file error), files := attempt.files }
  | .report error => { exitCode := 1, stderr := report error, files }

/-- What the command is asked for. Without arguments it is asked for its help text. -/
def requestOf (arguments : List WideText) : Except Halt Request :=
  if arguments.isEmpty then .error .help else Request.ofArguments arguments

/-- A run of the command in a file tree (`main`). -/
def run (host : Host) (files : FileTree) (arguments : List WideText) : Outcome :=
  match requestOf arguments with
  | .error halt => program.halt files halt
  | .ok request => carryOut host.console files (request.answer host.charsets files.read)

end Command

end StubVector
