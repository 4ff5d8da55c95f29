import StubVector.FileName
import StubVector.Path

/-!
# File trees

All files and directories, as a value, and the working directory among them. A path is walked name
by name, from the root or from the working directory: every name but the last has to be that of a
directory, and `..` leads back to the directory above, which of the root is the root itself. Names
are looked up as they are stored.

* `FileTree.locate`: where a path leads, or why it leads nowhere.
* `FileTree.read`: the bytes of a file.
* `FileTree.write`: the tree after a file is created or replaced.
* `FileTree.writeText`: the tree after a text is written, or after the attempt to do so.
* `FileTree.reaches`: whether a path leads to something.
-/

namespace StubVector

/-- The bytes of a file. -/
abbrev Bytes := List UInt8

/-- A file or a directory. -/
inductive FileNode where
  | file (content : Bytes)
  | directory (entries : List (WideText × FileNode))
  deriving Repr

/-- All files and directories, and the names that lead from the root to the working directory. -/
structure FileTree where
  root : FileNode
  workingDirectory : List WideText := []
  deriving Repr

/-- Why a file cannot be opened, or a directory not be made. -/
inductive Refusal where
  | notFound
  | notDirectory
  | isDirectory
  | alreadyExists
  | nameTooLong
  deriving DecidableEq, Repr

/-- A file that cannot be opened. -/
inductive FileError where
  | refused (refusal : Refusal) (path : WideText)
  /-- The path holds the character that ends paths. -/
  | nulInPath
  /-- The path, or the text that is written, holds halves of pairs that cannot be stored. -/
  | unencodable (halves : HalfRow)
  deriving DecidableEq, Repr

/-- The wording of a refusal. -/
def Refusal.message : Refusal → Text
  | notFound => "No such file or directory".toList
  | notDirectory => "Not a directory".toList
  | isDirectory => "Is a directory".toList
  | alreadyExists => "File exists".toList
  | nameTooLong => "File name too long".toList

/-- The number of a refusal. -/
def Refusal.number : Refusal → Nat
  | notFound => 2
  | notDirectory => 20
  | isDirectory => 21
  | alreadyExists => 17
  | nameTooLong => 36

/-- The wording of a file error. -/
def FileError.message : FileError → Text
  | refused refusal path =>
    "[Errno ".toList ++ Text.decimalNat refusal.number ++ "] ".toList ++ refusal.message ++
      ": ".toList ++ path.quoted
  | nulInPath => "embedded null byte".toList
  | unencodable halves => halves.message

namespace FileNode

/-- The entries of a directory; a file has none. -/
def entries : FileNode → List (WideText × FileNode)
  | directory entries => entries
  | file _ => []

/-- Whether the node is a directory. -/
def isDirectory : FileNode → Bool
  | directory _ => true
  | file _ => false

/-- Whether the node is a file. -/
def isFile (node : FileNode) : Bool := !node.isDirectory

/-- What stands at the end of a row of names, each taken as the name of an entry. -/
def find? (node : FileNode) : List WideText → Option FileNode
  | [] => some node
  | name :: names => (node.entries.lookup name).bind (find? · names)

/-- The entries with what `change` makes of the entry of that name, which may be missing. -/
def changeEntry (name : WideText) (change : Option FileNode → FileNode) :
    List (WideText × FileNode) → List (WideText × FileNode)
  | [] => [(name, change none)]
  | (n, node) :: entries =>
    if n = name then (n, change (some node)) :: entries
    else (n, node) :: changeEntry name change entries

/-- The node with `new` at the end of a row of names, below directories that are made if missing. -/
def insert (node : FileNode) (new : FileNode) : List WideText → FileNode
  | [] => new
  | name :: names =>
    directory (changeEntry name (fun old => (old.getD (directory [])).insert new names)
      node.entries)

/-! ## Listings -/

mutual

/-- The rows of names that lead to the directories of a node, its own first. -/
def directories : FileNode → List (List WideText)
  | file _ => []
  | directory entries => [] :: directoriesOf entries

/-- The rows of names that lead to the directories among entries. -/
def directoriesOf : List (WideText × FileNode) → List (List WideText)
  | [] => []
  | (name, node) :: entries => node.directories.map (name :: ·) ++ directoriesOf entries

end

end FileNode

namespace FileTree

/-- The greatest number of bytes of a name. -/
def maxNameBytes : Nat := 255

/-- The greatest number of bytes of a path. -/
def maxPathBytes : Nat := 4095

/-- The tree whose root has these entries and is the working directory. -/
def ofEntries (entries : List (WideText × FileNode)) : FileTree := { root := .directory entries }

/-- What stands at the end of a row of names from the root, each taken as the name of an entry. -/
def find? (tree : FileTree) (names : List WideText) : Option FileNode := tree.root.find? names

/-- The tree with `new` at the end of a row of names from the root. -/
def insert (tree : FileTree) (new : FileNode) (names : List WideText) : FileTree :=
  { tree with root := tree.root.insert new names }

/-! ## Walking a path -/

/-- Whether a name is too long for an entry. -/
def isTooLong (name : WideText) : Bool := maxNameBytes < (FileName.bytes name).length

/-- Where a row of names leads from the directory that stands at `here`. -/
def walk (tree : FileTree) (here : List WideText) : List WideText → Except Refusal (List WideText)
  | [] => .ok here
  | name :: names =>
    match tree.find? here with
    | none => .error .notFound
    | some (.file _) => .error .notDirectory
    | some (.directory entries) =>
      if name = Path.above then tree.walk here.dropLast names
      else if isTooLong name then .error .nameTooLong
      else if (entries.lookup name).isSome then tree.walk (here ++ [name]) names
      else .error .notFound

/-- Refuses what is too long for a path. -/
def checkPath (path : Path) : Except Refusal Unit :=
  if maxPathBytes < (FileName.bytes path.toText).length then .error .nameTooLong else .ok ()

/-- Where a path starts. -/
def start (tree : FileTree) (path : Path) : List WideText :=
  if path.rooted then [] else tree.workingDirectory

/-- The names of a path as they are stored. -/
def storedNames (path : Path) : List WideText := path.names.map FileName.stored

/-- Where a path leads. -/
def locate (tree : FileTree) (path : Path) : Except Refusal (List WideText) :=
  (checkPath path).bind fun _ => tree.walk (tree.start path) (storedNames path)

/-- What stands at a path. -/
def node? (tree : FileTree) (path : Path) : Option FileNode :=
  match tree.locate path with
  | .ok place => tree.find? place
  | .error _ => none

/-- Where the entry that a path names stands or would stand, and what stands there. A path whose end
stands for the directory itself or the one above it names no entry. -/
def locateEntry (tree : FileTree) (path : Path) :
    Except Refusal (Option (List WideText × Option FileNode)) :=
  (checkPath path).bind fun _ =>
    match (storedNames path).getLast? with
    | none => .ok none
    | some name =>
      (tree.walk (tree.start path) (storedNames path).dropLast).bind fun place =>
        match tree.find? place with
        | none => .error .notFound
        | some (.file _) => .error .notDirectory
        | some (.directory entries) =>
          if name = Path.above then .ok none
          else if isTooLong name then .error .nameTooLong
          else .ok (some (place ++ [name], entries.lookup name))

/-- Where a file may be written. -/
def locateTarget (tree : FileTree) (path : Path) : Except Refusal (List WideText) :=
  (tree.locateEntry path).bind fun entry =>
    match entry with
    | none | some (_, some (.directory _)) => .error .isDirectory
    | some (place, _) => .ok place

/-- Whether the path holds the character that ends paths. -/
def holdsNul (path : Path) : Bool := path.names.any fun name => .char '\x00' ∈ name

/-- Refuses a path that the system cannot be given. -/
def checkText (path : Path) : Except FileError Unit :=
  match FileName.refused? path.toText with
  | some halves => .error (.unencodable halves)
  | none => if holdsNul path then .error .nulInPath else .ok ()

/-- The names that are kept after those of `kept`, without directories that are entered and left
again. The system is given every path on the way. -/
def collapseAfter (slashes : Nat) (kept : List WideText) :
    List WideText → Except FileError (List WideText)
  | [] => .ok kept
  | name :: names =>
    if name = Path.above then collapseAfter slashes kept.dropLast names
    else
      (checkText { slashes, names := kept ++ [name] }).bind fun _ =>
        collapseAfter slashes (kept ++ [name]) names

/-- A path without directories that are entered and left again. In its text one separator stands in
front at most. -/
def collapse (path : Path) : Except FileError Path :=
  let slashes := min path.slashes 1
  (collapseAfter slashes [] path.names).map fun names => { slashes, names }

/-- Adds the path to a refusal. -/
def refuse {α : Type} (shown : WideText) : Except Refusal α → Except FileError α
  | .ok value => .ok value
  | .error refusal => .error (.refused refusal shown)

/-- The bytes of a file. -/
def read (tree : FileTree) (path : Path) : Except FileError Bytes :=
  (checkText path).bind fun _ =>
    refuse path.toText <| (tree.locate path).bind fun place =>
      match tree.find? place with
      | some (.file content) => .ok content
      | some (.directory _) => .error .isDirectory
      | none => .error .notFound

/-- The tree after a file is created or replaced. -/
def write (tree : FileTree) (path : Path) (content : Bytes) : Except FileError FileTree :=
  (checkText path).bind fun _ =>
    refuse path.toText <| (tree.locateTarget path).map fun place =>
      tree.insert (.file content) place

/-- What an attempt to write leaves. -/
structure Attempt where
  error : Option FileError := none
  files : FileTree
  deriving Repr

/-- What writing a text in UTF-8 leaves. The file is opened before the text is encoded, so that it
is empty if the text cannot be stored. -/
def writeText (tree : FileTree) (path : Path) (text : WideText) : Attempt :=
  match text.asText with
  | .ok stored =>
    match tree.write path (Utf8.encode stored) with
    | .ok files => { files }
    | .error error => { error := some error, files := tree }
  | .error halves =>
    match tree.write path [] with
    | .ok files => { error := some (.unencodable halves), files }
    | .error error => { error := some error, files := tree }

/-- What stands at a path, if it leads to something. A path that is too long is an error, and one
that the system cannot be given leads to nothing. -/
def probe (tree : FileTree) (path : Path) : Except FileError (Option FileNode) :=
  match checkText path with
  | .error _ => .ok none
  | .ok _ =>
    match tree.locate path with
    | .ok place => .ok (tree.find? place)
    | .error .nameTooLong => .error (.refused .nameTooLong path.toText)
    | .error _ => .ok none

/-- Whether a path leads to something. A path that is too long is an error. -/
def reaches (tree : FileTree) (path : Path) : Except FileError Bool :=
  (tree.probe path).map Option.isSome

/-! ## Collapsing -/

/-- The names that are kept are those of a path that needs no check. -/
theorem collapseAfter_eq_ok {slashes : Nat} {kept names collapsed : List WideText}
    (h : collapseAfter slashes kept names = .ok collapsed) :
    collapsed = names.foldl (fun kept name =>
      if name = Path.above then kept.dropLast else kept ++ [name]) kept := by
  induction names generalizing kept with
  | nil =>
    cases h
    rfl
  | cons name names ih =>
    rw [collapseAfter] at h
    by_cases hname : name = Path.above
    · rw [if_pos hname] at h
      simpa [hname] using ih h
    · rw [if_neg hname] at h
      cases hcheck : checkText { slashes, names := kept ++ [name] } with
      | error error => simp [hcheck, Except.bind] at h
      | ok _ =>
        rw [hcheck] at h
        simpa [hname] using ih h

/-- A path that is collapsed has the names that its text in full has. -/
theorem collapse_eq_ok {path collapsed : Path} (h : collapse path = .ok collapsed) :
    collapsed = { slashes := min path.slashes 1, names := Path.collapseNames path.names } := by
  rw [collapse] at h
  cases hnames : collapseAfter (min path.slashes 1) [] path.names with
  | error error => simp [hnames, Except.map] at h
  | ok names =>
    rw [hnames] at h
    cases h
    rw [Path.collapseNames, collapseAfter_eq_ok hnames]

end FileTree

end StubVector
