import StubVector.Proofs.FileTree.Writing

/-!
# Files below a directory

A path that leads down only, with no name that leads back, leads to the place of its names below any
directory. So two such paths below one directory lead to different places if their names differ, and
a file at one of them stays when the other one is written.

* `FileTree.Descends`: a path that leads down only.
* `FileTree.locate_append`, `FileTree.locateTarget_append`: where it leads below a directory.
* `FileTree.Writes.read_append_eq`: **a write below a directory leaves its other files**.
-/

namespace StubVector.FileTree

open FileNode (file bytes?)

variable {tree before after : FileTree} {here there place names : List WideText}
  {directory path other : Path} {content bytes : Bytes}

/-- Whether a path leads down only, and not at once to its end. -/
structure Descends (path : Path) : Prop where
  relative : path.rooted = false
  named : storedNames path ≠ []
  down : ∀ name ∈ storedNames path, name ≠ Path.above

instance (path : Path) : Decidable (Descends path) :=
  decidable_of_iff (path.rooted = false ∧ storedNames path ≠ [] ∧
      ∀ name ∈ storedNames path, name ≠ Path.above)
    ⟨fun ⟨hrelative, hnamed, hdown⟩ => ⟨hrelative, hnamed, hdown⟩,
      fun h => ⟨h.relative, h.named, h.down⟩⟩

theorem storedNames_append (h : path.rooted = false) :
    storedNames (directory ++ path) = storedNames directory ++ storedNames path := by
  change storedNames (directory.append path) = _
  rw [Path.append, h, if_neg (by simp), storedNames, List.map_append]
  rfl

/-- A path below a directory starts where the directory does. -/
theorem start_append (h : path.rooted = false) :
    tree.start (directory ++ path) = tree.start directory := by
  change tree.start (directory.append path) = _
  rw [Path.append, h]
  rfl

/-- A walk down leads to the place of the names. -/
theorem walk_down (hnames : ∀ name ∈ names, name ≠ Path.above)
    (h : tree.walk here names = .ok there) : there = here ++ names := by
  induction names generalizing here with
  | nil =>
    cases h
    rw [List.append_nil]
  | cons name names ih =>
    rw [List.forall_mem_cons] at hnames
    rw [walk] at h
    split at h
    · cases h
    · cases h
    · rw [if_neg hnames.1] at h
      split at h
      · cases h
      · split at h
        · rw [ih hnames.2 h, List.append_assoc, List.singleton_append]
        · cases h

/-- A path below a directory leads to the place of its names below that of the directory. -/
theorem locate_append (hdown : Descends path)
    (h : tree.locate (directory ++ path) = .ok place) :
    ∃ here, tree.walk (tree.start directory) (storedNames directory) = .ok here ∧
      place = here ++ storedNames path := by
  obtain ⟨⟨⟩, -, hwalk⟩ := bind_eq_ok_iff.mp h
  rw [start_append hdown.relative, storedNames_append hdown.relative, walk_append] at hwalk
  obtain ⟨here, hhere, hwalk⟩ := bind_eq_ok_iff.mp hwalk
  exact ⟨here, hhere, walk_down hdown.down hwalk⟩

/-- So does a path to which a file is written. -/
theorem locateTarget_append (hdown : Descends path)
    (h : tree.locateTarget (directory ++ path) = .ok place) :
    ∃ here, tree.walk (tree.start directory) (storedNames directory) = .ok here ∧
      place = here ++ storedNames path := by
  obtain ⟨found, hentry, -⟩ := exists_locateEntry_of_locateTarget h
  obtain ⟨-, front, last, target, entries, hnames, hwalk, -, -, -, rfl, -⟩ :=
    locateEntry_eq_ok hentry
  -- the last name is one of the path, not of the directory
  obtain ⟨sub, final, hsub⟩ : ∃ sub final, storedNames path = sub ++ [final] :=
    ⟨_, _, (List.dropLast_concat_getLast hdown.named).symm⟩
  rw [storedNames_append hdown.relative, hsub, ← List.append_assoc] at hnames
  obtain ⟨rfl, hlast⟩ := List.append_inj' hnames rfl
  obtain rfl : final = last := List.singleton_inj.mp hlast
  rw [start_append hdown.relative, walk_append] at hwalk
  obtain ⟨here, hhere, hwalk⟩ := bind_eq_ok_iff.mp hwalk
  have hdownSub : ∀ name ∈ sub, name ≠ Path.above := fun name hname =>
    hdown.down name (by rw [hsub]; exact List.mem_append_left _ hname)
  refine ⟨here, hhere, ?_⟩
  rw [walk_down hdownSub hwalk, hsub, List.append_assoc]

/-- What can be read is read from the place of a file. -/
theorem read_eq_ok_iff : tree.read path = .ok bytes ↔
    checkText path = .ok () ∧ ∃ place, tree.locate path = .ok place ∧
      tree.find? place = some (file bytes) := by
  rw [read]
  cases checkText path with
  | error error => simp [Except.bind]
  | ok _ =>
    cases tree.locate path with
    | error refusal => simp [Except.bind, refuse]
    | ok place =>
      cases hfound : tree.find? place with
      | none => simp [Except.bind, refuse, hfound]
      | some found => cases found <;> simp [Except.bind, refuse, hfound]

/-- A path under which a file can be read leads to something. -/
theorem reaches_of_read (h : tree.read path = .ok bytes) : tree.reaches path = .ok true := by
  obtain ⟨hcheck, place, hplace, hfound⟩ := read_eq_ok_iff.mp h
  simp [reaches, probe, hcheck, hplace, hfound, Except.map]

theorem standing?_eq_file_iff :
    tree.standing? names = some (some bytes) ↔ tree.find? names = some (file bytes) := by
  rw [standing?]
  cases tree.find? names with
  | none => simp
  | some found => cases found <;> simp [bytes?]

/-- **A write below a directory leaves its other files.** -/
theorem Writes.read_append_eq (h : Writes before after (directory ++ path) content)
    (hpath : Descends path) (hother : Descends other)
    (hne : storedNames other ≠ storedNames path)
    (hread : before.read (directory ++ other) = .ok bytes) :
    after.read (directory ++ other) = .ok bytes := by
  obtain ⟨target, htarget, hframes⟩ := h.frames
  obtain ⟨hadmits, -⟩ := locateTarget_eq_ok htarget
  obtain ⟨hcheck, place, hplace, hfound⟩ := read_eq_ok_iff.mp hread
  have hplaceNe : place ≠ target := by
    obtain ⟨here, hhere, rfl⟩ := locate_append hother hplace
    obtain ⟨there, hthere, rfl⟩ := locateTarget_append hpath htarget
    obtain rfl : here = there := Except.ok.inj (hhere.symm.trans hthere)
    exact fun heq => hne (List.append_cancel_left heq)
  have hlocate : after.locate (directory ++ other) = .ok place := by
    obtain ⟨⟨⟩, hchecked, hwalk⟩ := bind_eq_ok_iff.mp hplace
    rw [← hframes.start_eq] at hwalk
    exact bind_eq_ok_iff.mpr ⟨(), hchecked, hframes.walk_eq_ok hadmits hwalk⟩
  refine read_eq_ok_iff.mpr ⟨hcheck, place, hlocate, ?_⟩
  rw [← standing?_eq_file_iff, hframes.unchanged place hplaceNe, standing?_eq_file_iff, hfound]

end StubVector.FileTree
