import StubVector.Proofs.FileTree.Below

/-!
# What a path leads to

Walking a path asks only what stands where: a file with its bytes, a directory, or nothing. So trees
in which the same stands everywhere are read alike, however their entries are listed, and a write
does not change what a path leads to that does not cross the place of the write.

* `FileTree.walk_cons`, `FileTree.locateTarget_standing`, `FileTree.read_standing`: walking, by what
  stands.
* `FileTree.Alike`: trees in which the same stands everywhere; they are read alike.
* `FileTree.Writes.read_append`, `FileTree.Writes.locateTarget_append`: **a write leaves the paths
  that do not lead through it**.
* `FileTree.write_of_read`: writing what is there leaves the tree.
-/

namespace StubVector.FileTree

open FileNode (file bytes?)

variable {tree before after a b : FileTree} {new : FileNode} {name : WideText}
  {here names place : List WideText}
  {directory path other : Path} {content bytes : Bytes}

/-! ## By what stands -/

/-- The refusal where a directory is needed to go on. -/
def needDirectory {α : Type} (standing : Option (Option Bytes)) (next : Except Refusal α) :
    Except Refusal α :=
  match standing with
  | none => .error .notFound
  | some (some _) => .error .notDirectory
  | some none => next

theorem needDirectory_eq_ok_iff {α : Type} {standing : Option (Option Bytes)}
    {next : Except Refusal α} {result : α} :
    needDirectory standing next = .ok result ↔ standing = some none ∧ next = .ok result := by
  rcases standing with - | - | content <;> simp [needDirectory]

/-- One step of a walk. -/
theorem walk_cons : tree.walk here (name :: names) =
    needDirectory (tree.standing? here)
      (if name = Path.above then tree.walk here.dropLast names
      else if isTooLong name then .error .nameTooLong
      else if (tree.standing? (here ++ [name])).isSome then tree.walk (here ++ [name]) names
      else .error .notFound) := by
  rw [walk]
  cases hhere : tree.find? here with
  | none => simp [standing?, hhere, needDirectory]
  | some found =>
    cases found with
    | file => simp [standing?, hhere, needDirectory, bytes?]
    | directory entries =>
      simp [standing?, hhere, needDirectory, bytes?, ← find?_concat hhere]

/-- Where a file may be written. -/
theorem locateTarget_standing : tree.locateTarget path =
    (checkPath path).bind fun _ =>
      match (storedNames path).getLast? with
      | none => .error .isDirectory
      | some name =>
        (tree.walk (tree.start path) (storedNames path).dropLast).bind fun here =>
          needDirectory (tree.standing? here)
            (if name = Path.above then .error .isDirectory
            else if isTooLong name then .error .nameTooLong
            else
              match tree.standing? (here ++ [name]) with
              | some none => .error .isDirectory
              | _ => .ok (here ++ [name])) := by
  rw [locateTarget, locateEntry]
  cases checkPath path with
  | error refusal => rfl
  | ok _ =>
    cases (storedNames path).getLast? with
    | none => rfl
    | some name =>
      cases tree.walk (tree.start path) (storedNames path).dropLast with
      | error refusal => rfl
      | ok here =>
        simp only [Except.bind, standing?]
        cases hhere : tree.find? here with
        | none => rfl
        | some found =>
          cases found with
          | file => rfl
          | directory entries =>
            -- what stands at the name is the entry that is looked up
            rw [find?_concat hhere]
            simp only [Option.map_some, bytes?, needDirectory]
            by_cases habove : name = Path.above
            · simp only [if_pos habove]
            · simp only [if_neg habove]
              by_cases hlong : isTooLong name = true
              · simp only [if_pos hlong]
              · simp only [if_neg hlong]
                rcases entries.lookup name with - | - | others <;> rfl

/-- The bytes of a file. -/
theorem read_standing : tree.read path =
    (checkText path).bind fun _ =>
      refuse path.toText <| (tree.locate path).bind fun place =>
        match tree.standing? place with
        | some (some content) => .ok content
        | some none => .error .isDirectory
        | none => .error .notFound := by
  rw [read]
  congr 1
  funext _
  congr 2
  funext place
  cases hplace : tree.find? place with
  | none => simp [standing?, hplace]
  | some found => cases found <;> simp [standing?, hplace, bytes?]

/-! ## Walks without steps back -/

/-- A walk down asks what stands on its way. -/
theorem walk_down_congr (hnames : ∀ name ∈ names, name ≠ Path.above)
    (h : ∀ front, front <+: names → a.standing? (here ++ front) = b.standing? (here ++ front)) :
    a.walk here names = b.walk here names := by
  induction names generalizing here with
  | nil => rfl
  | cons name names ih =>
    rw [List.forall_mem_cons] at hnames
    have hhere : a.standing? here = b.standing? here := by
      simpa using h [] (List.nil_prefix)
    have hstep : a.standing? (here ++ [name]) = b.standing? (here ++ [name]) :=
      h [name] (List.prefix_append [name] names)
    have hrest : a.walk (here ++ [name]) names = b.walk (here ++ [name]) names := by
      refine ih hnames.2 fun front hfront => ?_
      rw [List.append_assoc]
      exact h _ (List.prefix_cons_inj name |>.mpr hfront)
    rw [walk_cons, walk_cons, if_neg hnames.1, if_neg hnames.1, hhere, hstep, hrest]

/-! ## Trees in which the same stands -/

/-- Whether the same stands everywhere in two trees, and paths start at the same place. -/
structure Alike (a b : FileTree) : Prop where
  standing : ∀ names, a.standing? names = b.standing? names
  workingDirectory_eq : a.workingDirectory = b.workingDirectory

section Alike

variable (h : Alike a b)
include h

theorem Alike.walk_eq : a.walk here names = b.walk here names := by
  induction names generalizing here with
  | nil => rfl
  | cons name names ih => rw [walk_cons, walk_cons, h.standing, h.standing, ih, ih]

theorem Alike.locate_eq : a.locate path = b.locate path := by
  rw [locate, locate, start, start, h.workingDirectory_eq]
  congr 1
  funext _
  exact h.walk_eq

/-- Trees in which the same stands are read alike. -/
theorem Alike.read_eq : a.read path = b.read path := by
  rw [read_standing, read_standing, h.locate_eq]
  congr 1
  funext _
  congr 2
  funext place
  rw [h.standing place]

theorem Alike.isSome_find? : (a.find? names).isSome = (b.find? names).isSome := by
  simpa [standing?] using congrArg Option.isSome (h.standing names)

/-- A path leads to something in both trees or in none. -/
theorem Alike.reaches_eq : a.reaches path = b.reaches path := by
  rw [reaches, probe, reaches, probe, h.locate_eq]
  cases checkText path with
  | error error => rfl
  | ok _ =>
    cases b.locate path with
    | error refusal => cases refusal <;> rfl
    | ok place => exact congrArg Except.ok h.isSome_find?

end Alike

/-! ## Beside a write -/

section Writes

variable (h : Writes before after (directory ++ path) content) (hpath : Descends path)
  (hclear : ¬ storedNames path <+: storedNames other)
include h hpath hclear

/-- A write leaves what stands on the way of a path that does not lead through its place. -/
theorem Writes.standing?_append : ∃ here,
    before.walk (before.start directory) (storedNames directory) = .ok here ∧
    after.walk (after.start directory) (storedNames directory) = .ok here ∧
    ∀ front, front <+: storedNames other →
      after.standing? (here ++ front) = before.standing? (here ++ front) := by
  obtain ⟨place, htarget, hframes⟩ := h.frames
  obtain ⟨hadmits, -⟩ := locateTarget_eq_ok htarget
  obtain ⟨here, hhere, rfl⟩ := FileTree.locateTarget_append hpath htarget
  have hafter := hframes.walk_eq_ok hadmits hhere
  rw [← hframes.start_eq] at hafter
  refine ⟨here, hhere, hafter, fun front hfront => ?_⟩
  refine hframes.unchanged _ fun heq => hclear ?_
  rwa [List.append_cancel_left heq] at hfront

variable (hother : Descends other)
include hother

/-- **Reading beside a write.** -/
theorem Writes.read_append :
    after.read (directory ++ other) = before.read (directory ++ other) := by
  obtain ⟨here, hbefore, hafter, hstanding⟩ := h.standing?_append hpath hclear
  have hwalk : after.walk here (storedNames other) = before.walk here (storedNames other) :=
    walk_down_congr hother.down hstanding
  have hlocate : after.locate (directory ++ other) = before.locate (directory ++ other) := by
    rw [locate, locate, start_append hother.relative, start_append hother.relative,
      storedNames_append hother.relative, walk_append, walk_append, hbefore, hafter]
    simp only [Except.bind, hwalk]
  rw [read_standing, read_standing, hlocate]
  congr 2
  cases hplace : before.locate (directory ++ other) with
  | error refusal => rfl
  | ok place =>
    obtain ⟨found, hfound, rfl⟩ := locate_append hother hplace
    obtain rfl : here = found := Except.ok.inj (hbefore.symm.trans hfound)
    simp only [Except.bind, hstanding _ (List.prefix_refl _)]

/-- **Where a file may be written beside a write.** -/
theorem Writes.locateTarget_append :
    after.locateTarget (directory ++ other) = before.locateTarget (directory ++ other) := by
  obtain ⟨here, hbefore, hafter, hstanding⟩ := h.standing?_append hpath hclear
  -- the last name is one of the path, and those before it lead down
  obtain ⟨front, last, hnames⟩ : ∃ front last, storedNames other = front ++ [last] :=
    ⟨_, _, (List.dropLast_concat_getLast hother.named).symm⟩
  have hfront : front <+: storedNames other := hnames ▸ List.prefix_append front [last]
  have hdown : ∀ name ∈ front, name ≠ Path.above := fun name hname =>
    hother.down name (hfront.subset hname)
  have hwalk : after.walk here front = before.walk here front :=
    walk_down_congr hdown fun part hpart => hstanding part (hpart.trans hfront)
  rw [locateTarget_standing, locateTarget_standing, start_append hother.relative,
    start_append hother.relative, storedNames_append hother.relative, hnames, ← List.append_assoc,
    List.dropLast_concat, List.getLast?_concat, walk_append, walk_append, hbefore, hafter]
  simp only [Except.bind, hwalk]
  cases hthere : before.walk here front with
  | error refusal => rfl
  | ok there =>
    obtain rfl := walk_down hdown hthere
    have hlast : after.standing? (here ++ front ++ [last]) =
        before.standing? (here ++ front ++ [last]) := by
      rw [List.append_assoc, ← hnames]
      exact hstanding _ (List.prefix_refl _)
    simp only [hstanding front hfront, hlast]

end Writes

/-! ## Writing what is there -/

/-- Inserting what is there leaves the tree. -/
theorem insert_eq_self (h : tree.find? names = some new) : tree.insert new names = tree := by
  rw [insert, FileNode.insert_eq_self h]

/-- A file below a directory may be written where it is read. -/
theorem locateTarget_of_read (hpath : Descends path)
    (h : tree.read (directory ++ path) = .ok bytes) :
    ∃ place, tree.locateTarget (directory ++ path) = .ok place ∧
      tree.find? place = some (file bytes) := by
  obtain ⟨-, place, hplace, hfound⟩ := read_eq_ok_iff.mp h
  obtain ⟨⟨⟩, hcheck, hwalk⟩ := bind_eq_ok_iff.mp hplace
  refine ⟨place, ?_, hfound⟩
  obtain ⟨front, last, hnames⟩ : ∃ front last, storedNames path = front ++ [last] :=
    ⟨_, _, (List.dropLast_concat_getLast hpath.named).symm⟩
  have hlast : last ≠ Path.above := hpath.down last (by simp [hnames])
  rw [start_append hpath.relative, storedNames_append hpath.relative, hnames, ← List.append_assoc,
    walk_append] at hwalk
  obtain ⟨here, hhere, hstep⟩ := bind_eq_ok_iff.mp hwalk
  rw [locateTarget_standing, hcheck, start_append hpath.relative,
    storedNames_append hpath.relative, hnames, ← List.append_assoc, List.dropLast_concat,
    List.getLast?_concat, hhere]
  rw [walk_cons, if_neg hlast, needDirectory_eq_ok_iff] at hstep
  obtain ⟨hdirectory, hstep⟩ := hstep
  simp only [Except.bind, hdirectory, needDirectory, if_neg hlast]
  split at hstep
  · cases hstep
  · next hlong =>
    split at hstep
    · cases hstep
      rw [if_neg hlong, standing?_eq_file_iff.mpr hfound]
    · cases hstep

/-- Writing what is there leaves the tree. -/
theorem write_of_read (hpath : Descends path) (h : tree.read (directory ++ path) = .ok bytes) :
    tree.write (directory ++ path) bytes = .ok tree := by
  obtain ⟨hcheck, -⟩ := read_eq_ok_iff.mp h
  obtain ⟨place, hplace, hfound⟩ := locateTarget_of_read hpath h
  rw [write, hcheck, hplace]
  exact congrArg Except.ok (insert_eq_self hfound)

end StubVector.FileTree
