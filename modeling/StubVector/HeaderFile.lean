import StubVector.Charset
import StubVector.FileTree
import StubVector.Pipeline
import StubVector.Text.Lines

/-!
# Header files

A header is read from a file in a named charset, of those that the system knows. The file is opened
before the name of the charset is looked up; line ends are unified and the text is cut into lines.

* `HeaderFile.linesOf`: the lines of a header, from what opening its file gave.
* `HeaderFile.readLines`: the lines of a header in a file tree.
* `HeaderFile.generate`: the generated text for a header in a file tree.
-/

namespace StubVector

/-- Why a header file is refused. -/
inductive HeaderRefusal where
  | notFound
  | unreadable (refusal : Refusal)
  | unknownCharset (name : Text)
  | undecodable (name : Text)
  deriving DecidableEq, Repr

/-- The wording of a refusal. -/
def HeaderRefusal.message : HeaderRefusal → Text
  | notFound => "Stub header not found".toList
  | unreadable refusal => "Cannot read stub header (".toList ++ refusal.message ++ [')']
  | unknownCharset name => "Unknown header encoding '".toList ++ name ++ ['\'']
  | undecodable name => "Stub header is not valid ".toList ++ name

/-- Why a header file cannot be read. -/
inductive HeaderError where
  | refused (refusal : HeaderRefusal) (path : Path)
  | nulInPath
  /-- The path or the name of the charset holds halves of pairs. -/
  | unencodable (halves : HalfRow)
  | nulInCharsetName
  /-- The charset was asked for without a name. -/
  | namelessCharset
  /-- Decoding stops without naming bytes, and the path of the header is not added. -/
  | stopped (message : Text)
  deriving DecidableEq, Repr

/-- The wording of a header error. -/
def HeaderError.message : HeaderError → WideText
  | refused refusal path => refusal.message ++ ": ".toList ++ path.toText
  | nulInPath => "embedded null byte".toList
  | unencodable halves => halves.message
  | nulInCharsetName => "embedded null character".toList
  | namelessCharset => "open() argument 'encoding' must be str or None, not list".toList
  | stopped message => message

/-- Why no text is generated from a header file, or none is put out. -/
inductive Error where
  | header (error : HeaderError)
  /-- The lines of the file give no text. -/
  | failure (failure : Failure CodePoint)
  | file (error : FileError)
  /-- The text that is printed holds halves of pairs that the console refuses. -/
  | unprintable (halves : HalfRow)
  /-- A path was asked for without a text. -/
  | textlessPath
  deriving DecidableEq, Repr

/-- The wording of an error. -/
def Error.message : Error → WideText
  | .header error => error.message
  | .failure cause => cause.message
  | .file error => error.message
  | .unprintable halves => halves.message
  | .textlessPath => "expected str, bytes or os.PathLike object, not list".toList

namespace HeaderFile

/-- The charset of headers for which none is named. -/
def defaultCharset : Text := "cp1047".toList

/-- The lines of a header, from what opening its file gave. -/
def linesOf (charsets : Charsets) (path : Path) (charsetName : WideText)
    (opened : Except FileError Bytes) : Except HeaderError (List WideText) :=
  match charsetName.asText with
  | .error halves => .error (.unencodable halves)
  | .ok name =>
    if '\x00' ∈ name then .error .nulInCharsetName
    else
      match opened with
      | .error .nulInPath => .error .nulInPath
      | .error (.unencodable halves) => .error (.unencodable halves)
      | .error (.refused .notFound _) => .error (.refused .notFound path)
      | .error (.refused refusal _) => .error (.refused (.unreadable refusal) path)
      | .ok bytes =>
        match charsets name with
        | none => .error (.refused (.unknownCharset name) path)
        | some decode =>
          match decode bytes with
          | .error .undecodable => .error (.refused (.undecodable name) path)
          | .error (.stopped message) => .error (.stopped message)
          | .ok text => .ok text.unifyNewlines.splitLines

/-- The lines of a header in a file tree (`read_header_lines`). -/
def readLines (charsets : Charsets) (tree : FileTree) (path : Path) (charsetName : WideText) :
    Except HeaderError (List WideText) :=
  linesOf charsets path charsetName (tree.read path)

/-- The generated text for a header in a file tree (`generate_file`). -/
def generate (charsets : Charsets) (tree : FileTree) (path : Path) (kind mode : Selector)
    (charsetName : WideText) : Except Error WideText :=
  match readLines charsets tree path charsetName with
  | .error error => .error (.header error)
  | .ok lines => (StubVector.generate path.toText lines kind mode).mapError .failure

end HeaderFile

end StubVector
