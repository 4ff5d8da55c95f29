import StubVector.FileTree

/-!
# Setting up file trees

How a file tree comes about before a program runs on it: directories are made, files removed, and
the files of a tree listed. No program of this library does any of this; trees are set up with it.

* `FileTree.makeDirectory`: the tree after a directory is made, with those above it.
* `FileTree.remove`: the tree after a file is removed.
* `FileTree.filesBelow`: the files below the working directory.
-/

namespace StubVector

namespace FileNode

/-- The node without what stands at the end of a row of names. -/
def erase (node : FileNode) : List WideText → FileNode
  | [] => node
  | [name] => directory (node.entries.filter (·.1 ≠ name))
  | name :: names =>
    directory (node.entries.map fun (n, child) =>
      (n, if n = name then child.erase names else child))

mutual

/-- The rows of names that lead to the files of a node, and their bytes. -/
def files : FileNode → List (List WideText × Bytes)
  | file content => [([], content)]
  | directory entries => filesOf entries

/-- The rows of names that lead to the files among entries, and their bytes. -/
def filesOf : List (WideText × FileNode) → List (List WideText × Bytes)
  | [] => []
  | (name, node) :: entries =>
    (node.files.map fun (names, content) => (name :: names, content)) ++ filesOf entries

end

end FileNode

namespace FileTree

/-- The tree in which nothing stands but the working directory, and those above it. -/
def bare (workingDirectory : List WideText) : FileTree where
  root := (FileNode.directory []).insert (.directory []) workingDirectory
  workingDirectory

/-- The files below the working directory. -/
def filesBelow (tree : FileTree) : List (List WideText × Bytes) :=
  ((tree.find? tree.workingDirectory).map (·.files)).getD []

/-- The tree after a file is removed. -/
def remove (tree : FileTree) (path : Path) : Except FileError FileTree :=
  (tree.read path).bind fun _ =>
    refuse path.toText <| (tree.locate path).map fun place =>
      { tree with root := tree.root.erase place }

/-- The tree after a directory is made in one that is there. -/
def makeEntry (tree : FileTree) (path : Path) : Except Refusal FileTree :=
  (tree.locateEntry path).bind fun entry =>
    match entry with
    | some (place, none) => .ok (tree.insert (.directory []) place)
    | _ => .error .alreadyExists

/-- The tree after a directory is made in one that is there, unless it `mayExist` and does. -/
def provideEntry (mayExist : Bool) (tree : FileTree) (path : Path) : Except Refusal FileTree :=
  match tree.makeEntry path with
  | .ok made => .ok made
  | .error refusal =>
    if mayExist && (tree.node? path).any (·.isDirectory) then .ok tree else .error refusal

/-- What is left of making directories: the tree with those that were made, and why the last one
could not be. -/
structure Making where
  tree : FileTree
  error : Option FileError
  deriving Repr

/-- The tree after a directory is made that stands in one which is there. -/
def Making.ofEntry (mayExist : Bool) (tree : FileTree) (path : Path) : Making :=
  match refuse path.toText (provideEntry mayExist tree path) with
  | .ok tree => { tree, error := none }
  | .error error => { tree, error := some error }

/-- The tree after a directory is made at the path of a row of names, the last one in front. Where
directories above it are missing, they are made first. -/
def makeFrom (slashes : Nat) (mayExist : Bool) (tree : FileTree) (names : List WideText) : Making :=
  let path : Path := { slashes, names := names.reverse }
  match checkText path, tree.makeEntry path, names with
  | .error error, _, _ => { tree, error := some error }
  | .ok _, .error .notFound, _ :: above =>
    let making := makeFrom slashes true tree above
    if making.error.isSome then making else Making.ofEntry mayExist making.tree path
  | .ok _, _, _ => Making.ofEntry mayExist tree path

/-- The tree after a directory and the missing directories above it are made. It is an error if the
directory is there already, unless it `mayExist`. -/
def makeDirectory (tree : FileTree) (path : Path) (mayExist : Bool) : Making :=
  makeFrom path.slashes mayExist tree path.names.reverse

end FileTree

end StubVector
