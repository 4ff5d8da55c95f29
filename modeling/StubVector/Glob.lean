import StubVector.Path

/-!
# Glob patterns

A pattern selects entries below a directory, component by component. `**` alone stands for the
directory itself and all directories below it; in any other component `*` stands for any row of
code points, `?` for any code point, and brackets for one of the code points in them, or for any
other one after a `!`.

* `Glob.parse`: the components of a pattern.
-/

namespace StubVector.Glob

/-- What may stand between brackets. -/
inductive Member where
  | one (point : CodePoint)
  /-- The code points from the first to the last. -/
  | range (first last : CodePoint)
  deriving DecidableEq, Repr

/-- A part of a component. -/
inductive Piece where
  /-- Any row of code points. -/
  | run
  /-- Any code point. -/
  | any
  | one (point : CodePoint)
  /-- A code point that one of the members stands for, or none of them. -/
  | bracket (negated : Bool) (members : List Member)
  deriving DecidableEq, Repr

/-- A part of a pattern between separators. -/
inductive Component where
  /-- A directory and all directories below it. -/
  | anyDepth
  | exact (name : WideText)
  | pieces (pieces : List Piece)
  deriving DecidableEq, Repr

/-- What is wrong with a pattern. -/
inductive Fault where
  /-- The pattern starts at the root of all files. -/
  | rooted
  /-- The pattern names no component. -/
  | noComponent
  /-- The pattern names the directory itself, as a directory. -/
  | onlySeparator
  /-- A component holds `**` and something else. -/
  | mixedDepth
  /-- The pattern has too many components. -/
  | tooManyComponents
  deriving DecidableEq, Repr

/-- The wording of a fault. -/
def Fault.message : Fault → Text
  | rooted => "Non-relative patterns are unsupported".toList
  | noComponent => "tuple index out of range".toList
  | onlySeparator => "'_TerminatingSelector' object has no attribute 'select_from'".toList
  | mixedDepth => "Invalid pattern: '**' can only be an entire path component".toList
  | tooManyComponents => "maximum recursion depth exceeded".toList

/-! ## Components -/

/-- The members of a text. A range whose ends are in the wrong order is none. -/
def membersOf : WideText → List Member
  | first :: .char '-' :: last :: rest =>
    if first.value ≤ last.value then .range first last :: membersOf rest else membersOf rest
  | point :: rest => .one point :: membersOf rest
  | [] => []

/-- The members between brackets. A `!` that comes first starts no range. -/
def membersBetween (inside : WideText) : List Member :=
  match inside with
  | .char '!' :: inside => .one (.char '!') :: membersOf inside
  | inside => membersOf inside

/-- What stands between brackets, and what follows them. A closing bracket that comes first stands
for itself. -/
def bracketed? (afterBracket : WideText) : Option (WideText × WideText) :=
  let (sign, rest) : WideText × WideText :=
    match afterBracket with
    | .char '!' :: rest => ([.char '!'], rest)
    | rest => ([], rest)
  let (first, rest) : WideText × WideText :=
    match rest with
    | .char ']' :: rest => ([.char ']'], rest)
    | rest => ([], rest)
  (Text.cutAt? (.char ']') rest).map fun (inside, rest) => (sign ++ first ++ inside, rest)

/-- The piece of what stands between brackets. The members are negated if the first code point of
all that is left of them is a `!`. -/
def bracketPiece (inside : WideText) : Piece :=
  match membersBetween inside with
  | .one (.char '!') :: members => .bracket true members
  | .range (.char '!') last :: members =>
    .bracket true (.one (.char '-') :: .one last :: members)
  | members => .bracket false members

/-- The pieces of a component; the first argument bounds their number. -/
def piecesFrom : Nat → WideText → List Piece
  | 0, _ => []
  | _ + 1, [] => []
  | bound + 1, .char '*' :: rest => .run :: piecesFrom bound rest
  | bound + 1, .char '?' :: rest => .any :: piecesFrom bound rest
  | bound + 1, .char '[' :: rest =>
    match bracketed? rest with
    | some (inside, rest) => bracketPiece inside :: piecesFrom bound rest
    | none => .one (.char '[') :: piecesFrom bound rest
  | bound + 1, point :: rest => .one point :: piecesFrom bound rest

/-- The pieces of a component. -/
def piecesOf (component : WideText) : List Piece := piecesFrom component.length component

/-- Whether a component stands for more than one name. -/
def isWild (component : WideText) : Bool :=
  component.any fun point => point = .char '*' || point = .char '?' || point = .char '['

/-- The component that stands for a directory and all directories below it. -/
def anyDepthMark : WideText := "**".toList

/-- The component of a text between separators. -/
def componentOf (text : WideText) : Except Fault Component :=
  if text = anyDepthMark then .ok .anyDepth
  else if Text.occursIn anyDepthMark text then .error .mixedDepth
  else if isWild text then .ok (.pieces (piecesOf text))
  else .ok (.exact text)

/-- The greatest number of components of a pattern. -/
def maxComponents : Nat := 197

/-- The components of the texts between separators, of which there may be as many as `room`. -/
def componentsOf : (room : Nat) → List WideText → Except Fault (List Component)
  | _, [] => .ok []
  | 0, _ :: _ => .error .tooManyComponents
  | room + 1, text :: texts => do
    let first ← componentOf text
    let others ← componentsOf room texts
    return first :: others

/-- The components of a pattern, and whether only directories are asked for. -/
def parse (pattern : WideText) : Except Fault (List Component × Bool) :=
  let path := Path.ofText pattern
  let onlyDirectories := Text.endsWith [Path.separator] pattern
  if path.rooted then .error .rooted
  else if path.names.isEmpty then
    .error (if onlyDirectories then .onlySeparator else .noComponent)
  else (componentsOf maxComponents path.names).map fun components => (components, onlyDirectories)

end StubVector.Glob
