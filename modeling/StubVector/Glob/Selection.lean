import StubVector.FileTree
import StubVector.Glob.Matching

/-!
# Selection by a pattern

The files of a tree that the components of a pattern select. Components are followed from left to
right, and a path that is too long on the way is an error.

* `Glob.select`: the files that components select below a directory.
-/

namespace StubVector.Glob

/-- What a row of names leads to, if it is a directory whenever one is asked for. -/
def enter (tree : FileTree) (directory : Bool) (names : List WideText) :
    Except FileError (Option FileNode) :=
  (tree.probe { names }).map fun node => node.filter fun node => node.isDirectory || !directory

/-- The rows of names that a component selects below the one directory at `base`. -/
def choose (tree : FileTree) (directory : Bool) (base : List WideText) (component : Component) :
    Except FileError (List (List WideText)) :=
  match component with
  | .exact name =>
    (enter tree directory (base ++ [name])).map fun node => node.toList.map fun _ => base ++ [name]
  | .anyDepth =>
    (enter tree true base).map fun node =>
      node.toList.flatMap fun node => node.directories.map (base ++ ·)
  | .pieces pieces =>
    (enter tree true base).map fun node =>
      node.toList.flatMap fun node =>
        (node.entries.filter fun (name, child) =>
          (child.isDirectory || !directory) && accept pieces name).map fun (name, _) =>
            base ++ [name]

/-- The files at rows of names that components select below the directory at `base`. -/
def filesFrom (tree : FileTree) (onlyDirectories : Bool) :
    (base : List WideText) → List Component → Except FileError (List (List WideText))
  | base, [] => (tree.probe { names := base }).map fun node =>
      if node.any (·.isFile) then [base] else []
  | base, component :: components => do
    let directory := onlyDirectories || !components.isEmpty
    let chosen ← choose tree directory base component
    let selected ← chosen.mapM fun place => filesFrom tree onlyDirectories place components
    return selected.flatten.eraseDups

/-- The files that components select below a directory. -/
def select (tree : FileTree) (base : List WideText) (components : List Component)
    (onlyDirectories : Bool) : Except FileError (List (List WideText)) := do
  match ← enter tree true base with
  | some _ => filesFrom tree onlyDirectories base components
  | none => return []

end StubVector.Glob
