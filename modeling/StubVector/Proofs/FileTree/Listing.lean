import StubVector.Proofs.FileTree.Standing
import StubVector.Proofs.Text.Wide

/-!
# Listings

In a tree that a system can hold, the names in one directory differ, and each is one under which its
entry is found again. There a listing names exactly what is found, and the system leads a row of
names to what is found at its end, unless the path is too long for it.

* `FileNode.Proper`: files and directories that a system can hold.
* `FileNode.mem_directories_iff`: a listing names the directories that are found.
* `FileTree.found?`, `FileTree.stands?`: what stands at a row of names from the working directory.
* `FileTree.Proper.probe_eq`: **what the system finds for a row of names that is listed**.
-/

namespace StubVector

/-! ## Proper trees -/

/-- Whether a name is one under which an entry is found again. -/
structure IsEntryName (name : WideText) : Prop where
  ne_above : name ≠ Path.above
  no_nul : .char '\x00' ∉ name
  stored : FileName.stored name = name
  storable : FileName.refused? name = none

instance (name : WideText) : Decidable (IsEntryName name) :=
  decidable_of_iff (name ≠ Path.above ∧ .char '\x00' ∉ name ∧ FileName.stored name = name ∧
      FileName.refused? name = none)
    ⟨fun ⟨habove, hnul, hstored, hstorable⟩ => ⟨habove, hnul, hstored, hstorable⟩,
      fun h => ⟨h.ne_above, h.no_nul, h.stored, h.storable⟩⟩

namespace FileNode

variable {node child : FileNode} {entries : List (WideText × FileNode)} {name : WideText}
  {here names : List WideText}

/-- The files and directories that a system can hold. -/
inductive Proper : FileNode → Prop
  | file (content : Bytes) : Proper (.file content)
  | directory {entries : List (WideText × FileNode)} (nodup : (entries.map (·.1)).Nodup)
      (named : ∀ entry ∈ entries, IsEntryName entry.1)
      (below : ∀ entry ∈ entries, Proper entry.2) : Proper (.directory entries)

/-- Where names differ, the entry of a name is the one that is listed with it. -/
theorem lookup_eq_some_iff_mem (h : (entries.map (·.1)).Nodup) :
    entries.lookup name = some child ↔ (name, child) ∈ entries := by
  induction entries with
  | nil => simp
  | cons entry entries ih =>
    obtain ⟨n, found⟩ := entry
    rw [List.map_cons, List.nodup_cons] at h
    by_cases hn : name = n
    · subst hn
      have habsent : (name, child) ∉ entries := fun hmem =>
        h.1 (List.mem_map.mpr ⟨_, hmem, rfl⟩)
      simp [habsent, eq_comm]
    · simp [List.lookup_cons, beq_false_of_ne hn, hn, ih h.2]

theorem Proper.lookup_eq_some_iff (h : (FileNode.directory entries).Proper) :
    entries.lookup name = some child ↔ (name, child) ∈ entries := by
  cases h with
  | directory nodup _ _ => exact lookup_eq_some_iff_mem nodup

/-- What is found in a proper directory is proper, and so are the names that lead there. -/
theorem Proper.of_find? (h : node.Proper) (hfound : node.find? names = some child) :
    child.Proper ∧ ∀ name ∈ names, IsEntryName name := by
  induction names generalizing node with
  | nil =>
    cases hfound
    exact ⟨h, nofun⟩
  | cons name names ih =>
    obtain ⟨next, hlookup, hnext⟩ := Option.bind_eq_some_iff.mp (find?_cons ▸ hfound)
    cases h with
    | file content => cases hlookup
    | directory nodup named below =>
      have hmem := (lookup_eq_some_iff_mem nodup).mp hlookup
      obtain ⟨hchild, hnames⟩ := ih (below _ hmem) hnext
      exact ⟨hchild, List.forall_mem_cons.mpr ⟨named _ hmem, hnames⟩⟩

/-! ## Directories -/

theorem mem_directoriesOf_iff : names ∈ directoriesOf entries ↔
    ∃ entry ∈ entries, ∃ rest ∈ entry.2.directories, names = entry.1 :: rest := by
  induction entries with
  | nil => simp [directoriesOf]
  | cons entry entries ih =>
    obtain ⟨n, found⟩ := entry
    simp [directoriesOf, ih, eq_comm]

/-- A listing names the directories that are found. -/
theorem mem_directories_iff (h : node.Proper) :
    names ∈ node.directories ↔ node.standing? names = some none := by
  induction names generalizing node with
  | nil => cases node <;> simp [directories, standing?, find?, bytes?]
  | cons name names ih =>
    rw [standing?_cons]
    cases h with
    | file content => simp [directories, entries]
    | @directory entries nodup named below =>
      simp only [directories, List.mem_cons, reduceCtorEq, false_or, mem_directoriesOf_iff,
        FileNode.entries, Option.bind_eq_some_iff, lookup_eq_some_iff_mem nodup]
      constructor
      · rintro ⟨⟨n, child⟩, hentry, rest, hrest, heq⟩
        cases heq
        exact ⟨child, hentry, (ih (below _ hentry)).mp hrest⟩
      · rintro ⟨child, hentry, hstanding⟩
        exact ⟨(name, child), hentry, names, (ih (below _ hentry)).mpr hstanding, rfl⟩

end FileNode

namespace FileTree

open FileNode (file directory bytes?)

variable {tree : FileTree} {child : FileNode} {entries : List (WideText × FileNode)}
  {name : WideText} {here names front back : List WideText} {content : Bytes}

/-- The trees that a system can hold. -/
def Proper (tree : FileTree) : Prop := tree.root.Proper

/-- What is found in a proper tree is proper, and so are the names that lead there. -/
theorem Proper.of_find? (h : tree.Proper) (hfound : tree.find? names = some child) :
    child.Proper ∧ ∀ name ∈ names, IsEntryName name :=
  FileNode.Proper.of_find? h hfound

/-! ## From the working directory -/

/-- What stands at the end of a row of names from the working directory. -/
def found? (tree : FileTree) (names : List WideText) : Option FileNode :=
  tree.find? (tree.workingDirectory ++ names)

/-- What stands at the end of a row of names from the working directory: a file with its bytes, or a
directory. -/
def stands? (tree : FileTree) (names : List WideText) : Option (Option Bytes) :=
  (tree.found? names).map bytes?

theorem found?_append :
    tree.found? (front ++ back) = (tree.found? front).bind (FileNode.find? · back) := by
  rw [found?, ← List.append_assoc, find?_append, found?]

theorem found?_concat (h : tree.found? front = some (directory entries)) :
    tree.found? (front ++ [name]) = entries.lookup name := by
  rw [found?_append, h]
  exact Option.bind_fun_some _

theorem stands?_eq_directory_iff :
    tree.stands? names = some none ↔ ∃ entries, tree.found? names = some (directory entries) :=
  standing?_eq_directory_iff

theorem stands?_eq_file_iff :
    tree.stands? names = some (some content) ↔ tree.found? names = some (file content) :=
  standing?_eq_file_iff

/-- What stands below a place stands in what is found there. -/
theorem stands?_append (hfound : tree.found? here = some child) :
    tree.stands? (here ++ names) = child.standing? names := by
  rw [stands?, found?_append, hfound]
  rfl

/-- Nothing stands below a file. -/
theorem stands?_append_of_file (hfound : tree.found? here = some (file content))
    (hnames : names ≠ []) : tree.stands? (here ++ names) = none := by
  rw [stands?_append hfound]
  cases names with
  | nil => exact absurd rfl hnames
  | cons => rfl

/-- Where the same stands in two trees, it stands at the same names from their working directory. -/
theorem Alike.stands?_eq {a b : FileTree} (h : Alike a b) : a.stands? names = b.stands? names := by
  have hstanding := h.standing (a.workingDirectory ++ names)
  rwa [standing?, standing?, ← found?, h.workingDirectory_eq, ← found?] at hstanding

theorem Alike.isSome_found? {a b : FileTree} (h : Alike a b) :
    (a.found? names).isSome = (b.found? names).isSome := by
  have hstands : a.stands? names = b.stands? names := h.stands?_eq
  simpa [stands?] using congrArg Option.isSome hstands

/-- What is found in a proper tree is proper, and so are the names that lead there. -/
theorem Proper.of_found? (h : tree.Proper) (hfound : tree.found? names = some child) :
    child.Proper ∧ ∀ name ∈ names, IsEntryName name := by
  obtain ⟨hchild, hnames⟩ := h.of_find? hfound
  exact ⟨hchild, fun name hname => hnames name (List.mem_append_right _ hname)⟩

/-! ## What the system finds -/

/-- A walk down to what is there ends there, unless a name is too long. -/
theorem walk_of_find? (hnames : ∀ name ∈ names, name ≠ Path.above)
    (hfound : tree.find? (here ++ names) = some child) :
    tree.walk here names = .ok (here ++ names) ∨
      tree.walk here names = .error .nameTooLong ∧ ∃ name ∈ names, isTooLong name = true := by
  induction names generalizing here with
  | nil =>
    rw [List.append_nil]
    exact .inl rfl
  | cons name names ih =>
    rw [List.forall_mem_cons] at hnames
    have hsplit : here ++ name :: names = here ++ [name] ++ names := by simp
    rw [hsplit] at hfound ⊢
    obtain ⟨next, hnext, -⟩ := Option.bind_eq_some_iff.mp (find?_append ▸ hfound)
    obtain ⟨directory, hhere, hstep⟩ := Option.bind_eq_some_iff.mp (find?_append ▸ hnext)
    cases directory with
    | file content => cases hstep
    | directory entries =>
      rw [walk_cons, standing?_eq_directory_iff.mpr ⟨entries, hhere⟩, needDirectory,
        if_neg hnames.1, standing?, hnext]
      split
      · next hlong => exact .inr ⟨rfl, name, List.mem_cons_self, hlong⟩
      · obtain hwalk | ⟨hwalk, other, hother, hlong⟩ := ih hnames.2 hfound
        · exact .inl hwalk
        · exact .inr ⟨hwalk, other, List.mem_cons_of_mem name hother, hlong⟩

/-- Names that can be stored make a text that can. -/
theorem isStorable_of_mem_intercalate (h : ∀ name ∈ names, FileName.refused? name = none)
    {point : CodePoint} (hpoint : point ∈ List.intercalate [Path.separator] names) :
    FileName.isStorable point = true := by
  induction names with
  | nil => cases hpoint
  | cons name names ih =>
    rw [List.forall_mem_cons, FileName.refused?, WideText.firstRow?_eq_none_iff] at h
    cases names with
    | nil =>
      rw [List.intercalate_singleton] at hpoint
      exact h.1 point hpoint
    | cons second others =>
      rw [List.intercalate_cons_cons, List.append_assoc] at hpoint
      rcases List.mem_append.mp hpoint with hpoint | hpoint
      · exact h.1 point hpoint
      · rcases List.mem_cons.mp hpoint with rfl | hpoint
        · rfl
        · exact ih h.2 hpoint

/-- A row of names that can be stored can be given to the system. -/
theorem checkText_of_isEntryName (h : ∀ name ∈ names, IsEntryName name) :
    checkText { names } = .ok () := by
  have hnul : holdsNul { names } = false := by
    rw [holdsNul, List.any_eq_false]
    intro name hname
    simpa using (h name hname).no_nul
  have hrefused : FileName.refused? ({ names } : Path).toText = none := by
    rw [FileName.refused?, WideText.firstRow?_eq_none_iff]
    intro point hpoint
    cases names with
    | nil =>
      rw [List.mem_singleton.mp hpoint]
      rfl
    | cons name others =>
      exact isStorable_of_mem_intercalate (fun name hname => (h name hname).storable) hpoint
  rw [checkText, hrefused]
  simp [hnul]

/-- The names of an entry are stored as they are. -/
theorem storedNames_of_isEntryName (h : ∀ name ∈ names, IsEntryName name) :
    storedNames { names } = names :=
  (List.map_congr_left fun name hname => (h name hname).stored).trans (List.map_id names)

/-- Whether a row of names is not too long for the system, as a path and name by name. -/
structure IsShort (names : List WideText) : Prop where
  path : (FileName.bytes ({ names } : Path).toText).length ≤ maxPathBytes
  names : ∀ name ∈ names, isTooLong name = false

instance (names : List WideText) : Decidable (IsShort names) :=
  decidable_of_iff ((FileName.bytes ({ names } : Path).toText).length ≤ maxPathBytes ∧
      ∀ name ∈ names, isTooLong name = false)
    ⟨fun ⟨hpath, hnames⟩ => ⟨hpath, hnames⟩, fun h => ⟨h.path, h.names⟩⟩

/-- A row of names leads down to what is found there, unless it is too long. -/
theorem locate_of_found? (hstored : storedNames { names } = names)
    (hnames : ∀ name ∈ names, name ≠ Path.above) (hfound : tree.found? names = some child) :
    tree.locate { names } = .ok (tree.workingDirectory ++ names) ∨
      tree.locate { names } = .error .nameTooLong ∧ ¬ IsShort names := by
  rw [locate, hstored, checkPath]
  split
  · next hlong => exact .inr ⟨rfl, fun hshort => absurd hshort.path (Nat.not_le.mpr hlong)⟩
  · change tree.walk tree.workingDirectory names = _ ∨
      tree.walk tree.workingDirectory names = _ ∧ _
    obtain hwalk | ⟨hwalk, name, hname, hlong⟩ := walk_of_find? hnames hfound
    · exact .inl hwalk
    · refine .inr ⟨hwalk, fun hshort => ?_⟩
      rw [hshort.names name hname] at hlong
      cases hlong

section Proper

variable (h : tree.Proper) (hfound : tree.found? names = some child)
include h hfound

theorem Proper.locate_of_found? : tree.locate { names } = .ok (tree.workingDirectory ++ names) ∨
    tree.locate { names } = .error .nameTooLong ∧ ¬ IsShort names := by
  have hnames := (h.of_found? hfound).2
  exact FileTree.locate_of_found? (storedNames_of_isEntryName hnames)
    (fun name hname => (hnames name hname).ne_above) hfound

/-- **What the system finds for a row of names that is listed**: what stands there, unless it cannot
tell whether anything does. -/
theorem Proper.probe_eq :
    tree.probe { names } = (tree.reaches { names }).map fun _ => some child := by
  rw [found?] at hfound
  rw [reaches, probe, checkText_of_isEntryName (h.of_found? hfound).2]
  obtain hlocate | ⟨hlocate, -⟩ := h.locate_of_found? hfound <;>
    simp [hlocate, hfound, Except.map]

/-- The system can tell what stands at the end of a row of names that is not too long. -/
theorem Proper.reaches_of_isShort (hshort : IsShort names) :
    tree.reaches { names } = .ok true := by
  rw [found?] at hfound
  rw [reaches, probe, checkText_of_isEntryName (h.of_found? hfound).2]
  obtain hlocate | ⟨-, hlong⟩ := h.locate_of_found? hfound
  · simp [hlocate, hfound, Except.map]
  · exact absurd hshort hlong

end Proper

end FileTree

end StubVector
