import StubVector.Text.Wide

/-!
# Paths

A path is a row of names, and its text may be wide. The text repeats no separator between names, has
no name that stands for the directory itself, and is a single point if there is nothing else. Two
separators in front are kept, more of them count as one.

* `Path.ofText`: the path that a text names.
* `Path.toText`: the text by which messages show a path.
* `Path.ofText_toText_ofText`: the shown text names the same path.
-/

namespace StubVector

/-- A path. -/
structure Path where
  /-- The number of separators in front. A path without any starts at the working directory. -/
  slashes : Nat := 0
  names : List WideText
  deriving DecidableEq, Repr

namespace Path

/-- The code point between the names of a path. -/
def separator : CodePoint := .char '/'

/-- The name of the directory itself. -/
def here : WideText := [.char '.']

/-- The name of the directory above. -/
def above : WideText := [.char '.', .char '.']

/-- Whether a part of a text between separators is a name of the path. -/
def isName (part : WideText) : Bool := !part.isEmpty && part != here

/-- Whether a path starts at the root of all files. -/
def rooted (path : Path) : Bool := path.slashes != 0

/-- How many of the separators in front of a text its path keeps. -/
def slashesOf (text : WideText) : Nat :=
  match (text.takeWhile (· = separator)).length with
  | 0 => 0
  | 2 => 2
  | _ => 1

/-- The path that a text names. -/
def ofText (text : WideText) : Path where
  slashes := slashesOf text
  names := (text.splitOn separator).filter isName

/-- The text by which messages show a path. -/
def toText (path : Path) : WideText :=
  let names := List.intercalate [separator] path.names
  if path.rooted then List.replicate path.slashes separator ++ names
  else if path.names.isEmpty then here
  else names

/-- The path of `rest` below `path`. -/
def append (path rest : Path) : Path :=
  if rest.rooted then rest else { path with names := path.names ++ rest.names }

instance : Append Path := ⟨append⟩

/-- The last name of a path. -/
def name? (path : Path) : Option WideText := path.names.getLast?

/-- The path without its last name. -/
def parent (path : Path) : Path := { path with names := path.names.dropLast }

/-- The path with another last name. -/
def withName (path : Path) (name : WideText) : Path :=
  { path with names := path.names.dropLast ++ [name] }

/-- A name without its last suffix. A point at the start or the end of a name starts no suffix. -/
def stem (name : WideText) : WideText :=
  match Text.cutAt? (.char '.') name.reverse with
  | some (suffix, rest) => if suffix.isEmpty || rest.isEmpty then name else rest.reverse
  | none => name

/-- The names without directories that are entered and left again. -/
def collapseNames (names : List WideText) : List WideText :=
  names.foldl (fun kept name => if name = above then kept.dropLast else kept ++ [name]) []

/-- The text of the path below the directory of that text, with no `..` left in it. -/
def absoluteText (workingDirectory : Text) (path : Path) : WideText :=
  let front : WideText := if path.rooted then [] else workingDirectory
  front ++ (collapseNames path.names).flatMap (separator :: ·)

/-! ## The shown text names the path -/

/-- A part of a text between separators holds no separator. -/
theorem not_mem_of_mem_splitOn {c : CodePoint} {text part : WideText} (h : part ∈ text.splitOn c) :
    c ∉ part := by
  induction text generalizing part with
  | nil =>
    rw [List.splitOn_nil, List.mem_singleton] at h
    simp [h]
  | cons d text ih =>
    rw [List.splitOn_cons_eq_if_modifyHead] at h
    split at h
    · rcases List.mem_cons.mp h with rfl | h
      · exact List.not_mem_nil
      · exact ih h
    · next hd =>
      match hsplit : text.splitOn c, List.splitOn_ne_nil c text with
      | first :: others, _ =>
        rw [hsplit, List.modifyHead_cons] at h
        rcases List.mem_cons.mp h with rfl | h
        · have hfirst := ih (hsplit ▸ List.mem_cons_self)
          have hne : c ≠ d := fun heq => hd (by simp [heq])
          simp [hfirst, hne]
        · exact ih (hsplit ▸ List.mem_cons_of_mem _ h)

/-- Whether a path is one that a text can name. -/
structure IsProper (path : Path) : Prop where
  slashes_le : path.slashes ≤ 2
  isName : ∀ name ∈ path.names, Path.isName name = true
  no_separator : ∀ name ∈ path.names, separator ∉ name

theorem slashesOf_le (text : WideText) : slashesOf text ≤ 2 := by
  rw [slashesOf]
  split <;> simp

/-- The path that a text names is proper. -/
theorem isProper_ofText (text : WideText) : IsProper (ofText text) where
  slashes_le := slashesOf_le text
  isName _ hname := (List.mem_filter.mp hname).2
  no_separator _ hname := not_mem_of_mem_splitOn (List.mem_filter.mp hname).1

/-- Separators in front of a text that starts with none are kept, up to two. -/
theorem slashesOf_replicate {count : Nat} {text : WideText} (hcount : count ≤ 2)
    (htext : text.head? ≠ some separator) :
    slashesOf (List.replicate count separator ++ text) = count := by
  have hrest : text.takeWhile (· = separator) = [] := by
    cases text with
    | nil => rfl
    | cons point text =>
      rw [List.takeWhile_cons_of_neg]
      simpa using htext
  have hlength : ((List.replicate count separator ++ text).takeWhile (· = separator)).length =
      count := by
    rw [List.takeWhile_append_of_pos, hrest]
    · simp
    · simp
  rw [slashesOf, hlength]
  match count, hcount with
  | 0, _ | 1, _ | 2, _ => rfl

/-- Separators in front of a text add no name. -/
theorem filter_splitOn_replicate (count : Nat) (text : WideText) :
    ((List.replicate count separator ++ text).splitOn separator).filter Path.isName =
      (text.splitOn separator).filter Path.isName := by
  induction count with
  | zero => rfl
  | succ count ih =>
    rw [List.replicate_succ, List.cons_append, List.splitOn_cons_eq_if_modifyHead, if_pos (by simp)]
    simpa [isName] using ih

/-- The text of a proper path names that path. -/
theorem ofText_toText {path : Path} (h : path.IsProper) : ofText path.toText = path := by
  have hfilter : path.names.filter Path.isName = path.names := List.filter_eq_self.mpr h.isName
  have hhead : (List.intercalate [separator] path.names).head? ≠ some separator := by
    cases hnames : path.names with
    | nil => simp [List.intercalate]
    | cons first others =>
      have hmem : first ∈ path.names := hnames ▸ List.mem_cons_self
      cases first with
      | nil => exact absurd (h.isName _ hmem) (by decide)
      | cons point name =>
        have hpoint : point ≠ separator := fun heq => h.no_separator _ hmem (by simp [heq])
        cases others <;> simpa [List.intercalate] using hpoint
  have hsplit : ((List.intercalate [separator] path.names).splitOn separator).filter Path.isName =
      path.names := by
    cases hnames : path.names with
    | nil => rfl
    | cons first others =>
      rw [← hnames, List.splitOn_intercalate separator h.no_separator (by simp [hnames]), hfilter]
  obtain ⟨slashes, names⟩ := path
  rw [toText]
  split
  · rw [ofText, slashesOf_replicate h.slashes_le hhead, filter_splitOn_replicate, hsplit]
  · next hrooted =>
    obtain rfl : slashes = 0 := by simpa [rooted] using hrooted
    split
    · next hnone =>
      obtain rfl : names = [] := by simpa using hnone
      rfl
    · have hzero := slashesOf_replicate (Nat.zero_le 2) hhead
      rw [List.replicate_zero, List.nil_append] at hzero
      rw [ofText, hzero, hsplit]

/-- The text by which messages show the path of a text names the same path. -/
theorem ofText_toText_ofText (text : WideText) : ofText (ofText text).toText = ofText text :=
  ofText_toText (isProper_ofText text)

end Path

end StubVector
