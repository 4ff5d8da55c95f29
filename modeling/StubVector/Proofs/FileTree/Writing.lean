import StubVector.FileTree

/-!
# What writing a file changes

A file is written in a directory that is there, where nothing stands or another file. So the file is
found under its path afterwards, and what stands everywhere else stays.

* `FileNode.standing?`, `FileTree.standing?`: what stands at the end of a row of names, without what
  a directory holds.
* `FileTree.Frames`: a tree differs from an earlier one in a single place, where a file stands.
* `FileTree.writes_of_write`: **the frame of a write**; the path of the file leads to the one place
  that differs, before and after.
-/

namespace StubVector

/-- A step after another one succeeds if both do. -/
theorem bind_eq_ok_iff {ε α β : Type} {first : Except ε α} {next : α → Except ε β} {result : β} :
    first.bind next = .ok result ↔ ∃ value, first = .ok value ∧ next value = .ok result := by
  cases first <;> simp [Except.bind]

namespace FileNode

variable {node new child : FileNode} {entries : List (WideText × FileNode)}
  {name other last : WideText} {names front back : List WideText} {content : Bytes}

/-! ## Entries -/

@[simp] theorem lookup_changeEntry_self (change : Option FileNode → FileNode) :
    (changeEntry name change entries).lookup name = some (change (entries.lookup name)) := by
  induction entries with
  | nil => simp [changeEntry]
  | cons entry entries ih =>
    obtain ⟨n, node⟩ := entry
    rw [changeEntry]
    split
    · next h => simp [h]
    · next h => simp [List.lookup_cons, beq_false_of_ne (Ne.symm h), ih]

theorem lookup_changeEntry_of_ne (h : other ≠ name) (change : Option FileNode → FileNode) :
    (changeEntry name change entries).lookup other = entries.lookup other := by
  induction entries with
  | nil => simp [changeEntry, List.lookup_cons, beq_false_of_ne h]
  | cons entry entries ih =>
    obtain ⟨n, node⟩ := entry
    rw [changeEntry]
    split
    · next hn => simp [List.lookup_cons, hn, beq_false_of_ne h]
    · simp [List.lookup_cons, ih]

theorem changeEntry_eq_self {change : Option FileNode → FileNode}
    (hlookup : entries.lookup name = some child) (hchange : change (some child) = child) :
    changeEntry name change entries = entries := by
  induction entries with
  | nil => cases hlookup
  | cons entry entries ih =>
    obtain ⟨n, found⟩ := entry
    rw [changeEntry]
    by_cases hn : n = name
    · subst hn
      rw [List.lookup_cons_self] at hlookup
      cases hlookup
      rw [if_pos rfl, hchange]
    · rw [List.lookup_cons, beq_false_of_ne (Ne.symm hn)] at hlookup
      rw [if_neg hn, ih hlookup]

/-! ## Rows of names -/

theorem find?_cons : node.find? (name :: names) = (node.entries.lookup name).bind (find? · names) :=
  rfl

theorem find?_append : node.find? (front ++ back) = (node.find? front).bind (find? · back) := by
  induction front generalizing node with
  | nil => rfl
  | cons name front ih =>
    rw [List.cons_append, find?_cons, find?_cons]
    cases node.entries.lookup name with
    | none => rfl
    | some child => exact ih

/-- What is inserted is found. -/
@[simp] theorem find?_insert_self : (node.insert new names).find? names = some new := by
  induction names generalizing node with
  | nil => rfl
  | cons name names ih => simp [insert, find?_cons, entries, ih]

/-- Inserting what is there leaves the node. -/
theorem insert_eq_self (h : node.find? names = some new) : node.insert new names = node := by
  induction names generalizing node with
  | nil =>
    cases h
    rfl
  | cons name names ih =>
    obtain ⟨child, hlookup, hchild⟩ := Option.bind_eq_some_iff.mp (find?_cons ▸ h)
    cases node with
    | file => cases hlookup
    | directory entries =>
      rw [insert]
      exact congrArg directory (changeEntry_eq_self hlookup (ih hchild))

/-- The bytes of a file; a directory has none. -/
def bytes? : FileNode → Option Bytes
  | file content => some content
  | directory _ => none

/-- What stands at the end of a row of names: a file with its bytes, or a directory. -/
def standing? (node : FileNode) (names : List WideText) : Option (Option Bytes) :=
  (node.find? names).map bytes?

theorem standing?_cons :
    node.standing? (name :: names) = (node.entries.lookup name).bind (standing? · names) := by
  rw [standing?, find?_cons]
  cases node.entries.lookup name <;> rfl

/-- Below a file, and below nothing, nothing stands. -/
theorem standing?_eq_none_of_lookup (h : ∀ child, node.entries.lookup name = some child →
    child.isDirectory = false) (hnames : names ≠ []) : node.standing? (name :: names) = none := by
  rw [standing?_cons]
  cases hlookup : node.entries.lookup name with
  | none => rfl
  | some child =>
    cases child with
    | directory => cases h _ hlookup
    | file content =>
      cases names with
      | nil => exact absurd rfl hnames
      | cons => rfl

/-- Inserting a file in a directory, where none stands, changes nothing else. -/
theorem standing?_insert_of_ne (hfront : node.find? front = some (directory entries))
    (hlast : ∀ child, entries.lookup last = some child → child.isDirectory = false)
    (hne : names ≠ front ++ [last]) :
    (node.insert (file content) (front ++ [last])).standing? names = node.standing? names := by
  induction front generalizing node names with
  | nil =>
    cases hfront
    cases names with
    | nil => rfl
    | cons name names =>
      by_cases hname : name = last
      · -- what is below the place was not there and is not there
        subst hname
        have hnames : names ≠ [] := fun h => hne (by rw [h, List.nil_append])
        have hnow : ∀ child,
            ((directory entries).insert (file content) [name]).entries.lookup name = some child →
              child.isDirectory = false := by
          intro child hchild
          rw [insert, FileNode.entries, lookup_changeEntry_self] at hchild
          cases hchild
          rfl
        exact (standing?_eq_none_of_lookup hnow hnames).trans
          (standing?_eq_none_of_lookup hlast hnames).symm
      · rw [standing?_cons, standing?_cons, List.nil_append, insert, FileNode.entries,
          lookup_changeEntry_of_ne hname]
  | cons first front ih =>
    rw [find?_cons] at hfront
    obtain ⟨child, hchild, hfound⟩ := Option.bind_eq_some_iff.mp hfront
    have hnode : bytes? node = none := by
      cases node with
      | file => cases hchild
      | directory => rfl
    cases names with
    | nil =>
      change some none = some (bytes? node)
      rw [hnode]
    | cons name names =>
      rw [standing?_cons, standing?_cons, List.cons_append, insert, FileNode.entries]
      by_cases hname : name = first
      · subst hname
        rw [lookup_changeEntry_self, hchild]
        exact ih hfound (fun h => hne (by rw [h, List.cons_append]))
      · rw [lookup_changeEntry_of_ne hname]

end FileNode

namespace FileTree

open FileNode (file directory bytes?)

variable {tree : FileTree} {child : FileNode} {entries : List (WideText × FileNode)}
  {name : WideText} {names front back place : List WideText} {content : Bytes} {path : Path}

theorem find?_append :
    tree.find? (front ++ back) = (tree.find? front).bind (FileNode.find? · back) :=
  FileNode.find?_append

theorem find?_concat (h : tree.find? front = some (directory entries)) :
    tree.find? (front ++ [name]) = entries.lookup name := by
  rw [find?_append, h]
  exact Option.bind_fun_some _

/-- What stands at the end of a row of names from the root: a file with its bytes, or a directory.
-/
def standing? (tree : FileTree) (names : List WideText) : Option (Option Bytes) :=
  (tree.find? names).map bytes?

theorem standing?_eq_directory_iff :
    tree.standing? names = some none ↔ ∃ entries, tree.find? names = some (directory entries) := by
  rw [standing?]
  constructor
  · intro h
    obtain ⟨found, hfound, hbytes⟩ := Option.map_eq_some_iff.mp h
    cases found with
    | file => cases hbytes
    | directory entries => exact ⟨entries, hfound⟩
  · rintro ⟨entries, h⟩
    rw [h]
    rfl

/-! ## Frames -/

/-- Whether a tree differs from an earlier one in a single place, where a file stands now. -/
structure Frames (before after : FileTree) (place : List WideText) (content : Bytes) : Prop where
  written : after.find? place = some (file content)
  /-- Everywhere else the same stands. -/
  unchanged : ∀ names, names ≠ place → after.standing? names = before.standing? names
  workingDirectory_eq : after.workingDirectory = before.workingDirectory

/-- Whether a file can stand at a place: in a directory, and where no directory stands. -/
def Admits (tree : FileTree) (place : List WideText) : Prop :=
  ∃ front name entries, place = front ++ [name] ∧ tree.find? front = some (directory entries) ∧
    ∀ child, entries.lookup name = some child → child.isDirectory = false

/-- Inserting a file where one can stand changes nothing else. -/
theorem Admits.frames_insert (h : tree.Admits place) :
    Frames tree (tree.insert (file content) place) place content where
  written := FileNode.find?_insert_self
  unchanged names hne := by
    obtain ⟨front, last, entries, rfl, hfront, hlast⟩ := h
    exact FileNode.standing?_insert_of_ne hfront hlast hne
  workingDirectory_eq := rfl

/-! ## Walking after a write -/

section Frames

variable {before after : FileTree} (h : Frames before after place content)
include h

/-- A directory is not written over. -/
theorem Frames.standing?_directory (hplace : before.Admits place)
    (hnames : before.standing? names = some none) : after.standing? names = some none := by
  by_cases hne : names = place
  · subst hne
    obtain ⟨front, name, entries, rfl, hfront, hlast⟩ := hplace
    obtain ⟨found, hfound⟩ := standing?_eq_directory_iff.mp hnames
    rw [find?_concat hfront] at hfound
    cases hlast _ hfound
  · rw [h.unchanged names hne, hnames]

/-- What was there is still there. -/
theorem Frames.isSome_find? (hnames : (before.find? names).isSome) :
    (after.find? names).isSome := by
  by_cases hne : names = place
  · rw [hne, h.written]
    rfl
  · have hstanding := congrArg Option.isSome (h.unchanged names hne)
    rw [standing?, standing?, Option.isSome_map, Option.isSome_map] at hstanding
    rw [hstanding, hnames]

/-- A path starts where it started. -/
theorem Frames.start_eq (path : Path) : after.start path = before.start path := by
  rw [start, start, h.workingDirectory_eq]

/-- A walk leads where it led. -/
theorem Frames.walk_eq_ok (hplace : before.Admits place) {here there : List WideText}
    (hwalk : before.walk here names = .ok there) : after.walk here names = .ok there := by
  induction names generalizing here with
  | nil => exact hwalk
  | cons name names ih =>
    rw [walk] at hwalk
    split at hwalk
    · cases hwalk
    · cases hwalk
    · next entries hhere =>
      obtain ⟨others, hafter⟩ := standing?_eq_directory_iff.mp
        (h.standing?_directory hplace (standing?_eq_directory_iff.mpr ⟨entries, hhere⟩))
      simp only [walk, hafter]
      split at hwalk
      · next habove => rw [if_pos habove, ih hwalk]
      · next habove =>
        rw [if_neg habove]
        split at hwalk
        · cases hwalk
        · next hlong =>
          rw [if_neg hlong]
          split at hwalk
          · next hlookup =>
            rw [← find?_concat hhere] at hlookup
            have hthere := h.isSome_find? hlookup
            rw [find?_concat hafter] at hthere
            rw [if_pos hthere, ih hwalk]
          · cases hwalk

end Frames

theorem walk_append {here : List WideText} :
    tree.walk here (front ++ back) = (tree.walk here front).bind (tree.walk · back) := by
  induction front generalizing here with
  | nil => rfl
  | cons name front ih =>
    rw [List.cons_append, walk, walk]
    cases tree.find? here with
    | none => rfl
    | some found =>
      cases found with
      | file => rfl
      | directory entries =>
        simp only [ih]
        split
        · rfl
        · split
          · rfl
          · split <;> rfl

/-! ## Writing -/

/-- An entry is located in a directory that the names before the last one lead to. -/
theorem locateEntry_eq_ok {found : Option FileNode}
    (h : tree.locateEntry path = .ok (some (place, found))) :
    checkPath path = .ok () ∧ ∃ front last here entries, storedNames path = front ++ [last] ∧
      tree.walk (tree.start path) front = .ok here ∧ tree.find? here = some (directory entries) ∧
      last ≠ Path.above ∧ isTooLong last = false ∧
      place = here ++ [last] ∧ found = entries.lookup last := by
  rw [locateEntry] at h
  obtain ⟨⟨⟩, hcheck, h⟩ := bind_eq_ok_iff.mp h
  refine ⟨hcheck, ?_⟩
  split at h
  · cases h
  · next last hlast =>
    obtain ⟨front, hnames⟩ := List.getLast?_eq_some_iff.mp hlast
    rw [hnames, List.dropLast_concat] at h
    obtain ⟨here, hwalk, h⟩ := bind_eq_ok_iff.mp h
    split at h
    · cases h
    · cases h
    · next entries hhere =>
      split at h
      · cases h
      · next habove =>
        split at h
        · cases h
        · next hlong =>
          cases h
          exact ⟨front, last, here, entries, hnames, hwalk, hhere, habove,
            eq_false_of_ne_true hlong, rfl, rfl⟩

/-- A file may be written in the place of an entry that is no directory. -/
theorem exists_locateEntry_of_locateTarget (h : tree.locateTarget path = .ok place) :
    ∃ found, tree.locateEntry path = .ok (some (place, found)) ∧
      ∀ child, found = some child → child.isDirectory = false := by
  rw [locateTarget] at h
  obtain ⟨entry, hentry, hplace⟩ := bind_eq_ok_iff.mp h
  split at hplace
  · cases hplace
  · cases hplace
  · next found hdirectory =>
    cases hplace
    refine ⟨found, hentry, ?_⟩
    rintro (content | entries) hchild
    · rfl
    · exact (hdirectory entries hchild).elim

/-- Where a file may be written, one can stand, and once it does, its path leads there. -/
theorem locateTarget_eq_ok (h : tree.locateTarget path = .ok place) :
    tree.Admits place ∧
      ∀ after content, Frames tree after place content → after.locate path = .ok place := by
  obtain ⟨found, hentry, hfile⟩ := exists_locateEntry_of_locateTarget h
  obtain ⟨hcheck, front, last, here, entries, hnames, hwalk, hhere, habove, hlong, rfl, rfl⟩ :=
    locateEntry_eq_ok hentry
  have hadmits : tree.Admits (here ++ [last]) := ⟨here, last, entries, rfl, hhere, hfile⟩
  refine ⟨hadmits, fun after content hframes => ?_⟩
  obtain ⟨others, hafter⟩ := standing?_eq_directory_iff.mp
    (hframes.standing?_directory hadmits (standing?_eq_directory_iff.mpr ⟨entries, hhere⟩))
  have hlookup : others.lookup last = some (file content) := by
    rw [← find?_concat hafter, hframes.written]
  rw [locate, hcheck, hnames]
  change after.walk (after.start path) (front ++ [last]) = _
  rw [hframes.start_eq, walk_append, hframes.walk_eq_ok hadmits hwalk]
  simp [Except.bind, walk, hafter, habove, hlong, hlookup]

/-- Whether a tree comes from an earlier one by writing a file: its path leads to the one place that
differs, and the file can be read there. -/
structure Writes (before after : FileTree) (path : Path) (content : Bytes) : Prop where
  frames : ∃ place, before.locateTarget path = .ok place ∧ Frames before after place content
  read_eq : after.read path = .ok content

/-- **The frame of a write.** -/
theorem writes_of_write {after : FileTree} (h : tree.write path content = .ok after) :
    Writes tree after path content := by
  rw [write] at h
  obtain ⟨⟨⟩, hcheck, h⟩ := bind_eq_ok_iff.mp h
  cases hplace : tree.locateTarget path with
  | error refusal => rw [hplace] at h; cases h
  | ok place =>
    rw [hplace] at h
    cases h
    obtain ⟨hadmits, hlocate⟩ := locateTarget_eq_ok hplace
    have hframes : Frames tree (tree.insert (file content) place) place content :=
      hadmits.frames_insert
    refine ⟨⟨place, hplace, hframes⟩, ?_⟩
    simp [read, hcheck, hlocate _ _ hframes, hframes.written, Except.bind, refuse]

/-- Whether a file can be written does not depend on its bytes. -/
theorem exists_write_eq_ok_of_write {after : FileTree} (h : tree.write path content = .ok after)
    (other : Bytes) : ∃ after, tree.write path other = .ok after := by
  rw [write] at h
  obtain ⟨⟨⟩, hcheck, h⟩ := bind_eq_ok_iff.mp h
  cases hplace : tree.locateTarget path with
  | error refusal => rw [hplace] at h; cases h
  | ok place => exact ⟨_, by rw [write, hcheck, hplace]; rfl⟩

/-- Nor does why it cannot. -/
theorem write_eq_error_of_write {error : FileError} (h : tree.write path content = .error error)
    (other : Bytes) : tree.write path other = .error error := by
  rw [write] at h ⊢
  cases hcheck : checkText path with
  | error cause =>
    rw [hcheck] at h
    exact h
  | ok _ =>
    rw [hcheck] at h
    cases hplace : tree.locateTarget path with
    | error refusal =>
      rw [hplace] at h
      exact h
    | ok place =>
      rw [hplace] at h
      cases h

end FileTree

end StubVector
