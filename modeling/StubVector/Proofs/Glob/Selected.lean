import StubVector.Glob.Selection
import StubVector.Proofs.FileTree.Listing

/-!
# What a pattern for any depth selects

A pattern of a directory at any depth and a wild name selects the files below that have such a name,
each once. It does so unless the system cannot tell whether something stands at one of the places
that it is asked for: those of the directories, and of the entries with such a name.

* `Glob.accept_affixes_iff`: a wild name with a fixed front and a fixed back.
* `Glob.Selects`: the files that the pattern stands for.
* `Glob.Asked`: the places that the system is asked for.
* `Glob.exists_select_iff`, `Glob.mem_select_iff`, `Glob.nodup_select`: **what is selected**.
-/

namespace StubVector

/-- Where duplicates are left out, there are none. -/
theorem nodup_eraseDups {α : Type} [BEq α] [LawfulBEq α] (items : List α) :
    items.eraseDups.Nodup := by
  cases items with
  | nil => exact List.nodup_nil
  | cons item items =>
    rw [List.eraseDups_cons, List.nodup_cons]
    exact ⟨by simp, nodup_eraseDups _⟩
termination_by items.length
decreasing_by
  have hle := List.length_filter_le (fun other => !other == item) items
  rw [List.length_cons]
  omega

section MapM

variable {ε α β : Type} {step : α → Except ε β} {items : List α} {results : List β}

/-- The results of steps that all succeed are those of the single steps. -/
theorem mem_of_mapM_eq_ok (h : items.mapM step = .ok results) {result : β} :
    result ∈ results ↔ ∃ item ∈ items, step item = .ok result := by
  induction items generalizing results with
  | nil =>
    cases h
    simp
  | cons item items ih =>
    rw [List.mapM_cons] at h
    obtain ⟨first, hfirst, h⟩ := bind_eq_ok_iff.mp h
    obtain ⟨others, hothers, h⟩ := bind_eq_ok_iff.mp h
    cases h
    simp [ih hothers, hfirst, eq_comm]

/-- All steps succeed if each one does. -/
theorem exists_mapM_eq_ok_iff : (∃ results, items.mapM step = .ok results) ↔
    ∀ item ∈ items, ∃ result, step item = .ok result := by
  induction items with
  | nil => exact iff_of_true ⟨[], rfl⟩ nofun
  | cons item items ih =>
    rw [List.forall_mem_cons, ← ih, List.mapM_cons]
    constructor
    · rintro ⟨results, h⟩
      obtain ⟨first, hfirst, h⟩ := bind_eq_ok_iff.mp h
      obtain ⟨others, hothers, -⟩ := bind_eq_ok_iff.mp h
      exact ⟨⟨first, hfirst⟩, others, hothers⟩
    · rintro ⟨⟨first, hfirst⟩, others, hothers⟩
      exact ⟨first :: others, by rw [hfirst, hothers]; rfl⟩

end MapM

namespace Glob

variable {tree : FileTree} {child : FileNode} {base below place names : List WideText}
  {name front back : WideText} {pieces : List Piece} {component : Component}
  {components : List Component} {entries : List (WideText × FileNode)} {onlyDirectories : Bool}
  {selected : List (List WideText)}

/-! ## Wild names -/

/-- Code points stand for themselves. -/
theorem accept_ones_append_iff : accept (front.map .one ++ pieces) name = true ↔
    ∃ rest, name = front ++ rest ∧ accept pieces rest = true := by
  induction front generalizing name with
  | nil => simp
  | cons point front ih =>
    rw [List.map_cons, List.cons_append]
    cases name with
    | nil => simp [accept_cons_nil]
    | cons first name =>
      rw [accept_cons _ (by simp), Bool.and_eq_true, ih]
      simp only [Piece.accepts, decide_eq_true_eq, List.cons_append, List.cons.injEq]
      constructor
      · rintro ⟨rfl, rest, rfl, h⟩
        exact ⟨rest, ⟨rfl, rfl⟩, h⟩
      · rintro ⟨rest, ⟨rfl, rfl⟩, h⟩
        exact ⟨rfl, rest, rfl, h⟩

/-- A row of any code points stands for any front of a name. -/
theorem accept_run_iff : accept (.run :: pieces) name = true ↔
    ∃ front rest, name = front ++ rest ∧ accept pieces rest = true := by
  induction name with
  | nil =>
    rw [accept_run_nil]
    constructor
    · exact fun h => ⟨[], [], rfl, h⟩
    · rintro ⟨front, rest, hname, h⟩
      exact (List.append_eq_nil_iff.mp hname.symm).2 ▸ h
  | cons point name ih =>
    rw [accept_run_cons, Bool.or_eq_true, ih]
    constructor
    · rintro (h | ⟨front, rest, rfl, h⟩)
      · exact ⟨[], _, rfl, h⟩
      · exact ⟨point :: front, rest, rfl, h⟩
    · rintro ⟨front, rest, hname, h⟩
      cases front with
      | nil => exact .inl (hname ▸ h)
      | cons first front =>
        cases hname
        exact .inr ⟨front, rest, rfl, h⟩

/-- The pieces for names with a fixed front and a fixed back. -/
def affixes (front back : WideText) : List Piece := front.map .one ++ .run :: back.map .one

/-- A wild name with a fixed front and a fixed back. -/
theorem accept_affixes_iff : accept (affixes front back) name = true ↔
    ∃ middle, name = front ++ middle ++ back := by
  have hback : ∀ rest, accept (back.map .one) rest = true ↔ rest = back := by
    intro rest
    rw [← List.append_nil (back.map Piece.one), accept_ones_append_iff]
    simp [accept_nil]
  simp only [affixes, accept_ones_append_iff, accept_run_iff, hback]
  constructor
  · rintro ⟨-, rfl, middle, -, rfl, rfl⟩
    exact ⟨middle, (List.append_assoc _ _ _).symm⟩
  · rintro ⟨middle, rfl⟩
    exact ⟨_, List.append_assoc _ _ _, middle, _, rfl, rfl⟩

/-! ## Following components -/

/-- What components select is what they select below the places that the first one chooses. -/
theorem filesFrom_cons_eq_ok
    (h : filesFrom tree onlyDirectories base (component :: components) = .ok selected) :
    ∃ chosen, choose tree (onlyDirectories || !components.isEmpty) base component = .ok chosen ∧
      selected.Nodup ∧ ∀ names, names ∈ selected ↔
        ∃ place ∈ chosen, ∃ part,
          filesFrom tree onlyDirectories place components = .ok part ∧ names ∈ part := by
  rw [filesFrom] at h
  obtain ⟨chosen, hchosen, h⟩ := bind_eq_ok_iff.mp h
  obtain ⟨parts, hparts, h⟩ := bind_eq_ok_iff.mp h
  cases h
  refine ⟨chosen, hchosen, nodup_eraseDups _, fun names => ?_⟩
  simp only [List.mem_eraseDups, List.mem_flatten, mem_of_mapM_eq_ok hparts]
  constructor
  · rintro ⟨part, ⟨place, hplace, hpart⟩, hnames⟩
    exact ⟨place, hplace, part, hpart, hnames⟩
  · rintro ⟨place, hplace, part, hpart, hnames⟩
    exact ⟨part, ⟨place, hplace, hpart⟩, hnames⟩

theorem exists_filesFrom_cons_iff :
    (∃ selected, filesFrom tree onlyDirectories base (component :: components) = .ok selected) ↔
      ∃ chosen, choose tree (onlyDirectories || !components.isEmpty) base component = .ok chosen ∧
        ∀ place ∈ chosen, ∃ part, filesFrom tree onlyDirectories place components = .ok part := by
  simp only [← exists_mapM_eq_ok_iff]
  rw [filesFrom]
  constructor
  · rintro ⟨selected, h⟩
    obtain ⟨chosen, hchosen, h⟩ := bind_eq_ok_iff.mp h
    obtain ⟨parts, hparts, -⟩ := bind_eq_ok_iff.mp h
    exact ⟨chosen, hchosen, parts, hparts⟩
  · rintro ⟨chosen, hchosen, parts, hparts⟩
    exact ⟨parts.flatten.eraseDups, by rw [hchosen]; simp only [bind, Except.bind, hparts]; rfl⟩

/-! ## What is asked and what is selected -/

/-- Whether the system can tell if something stands at the end of a row of names. -/
def Answers (tree : FileTree) (names : List WideText) : Prop :=
  ∃ found, tree.reaches { names } = .ok found

/-- Whether a row of names leads to a place that the system is asked for: the base, the directories
below it, and what has a name there that the pieces stand for. -/
inductive Asked (tree : FileTree) (base : List WideText) (pieces : List Piece) :
    List WideText → Prop
  | base : Asked tree base pieces base
  | directory {below : List WideText} (hstanding : tree.stands? (base ++ below) = some none) :
      Asked tree base pieces (base ++ below)
  | entry {below : List WideText} {name : WideText} (haccept : accept pieces name = true)
      (hstanding : (tree.stands? (base ++ below ++ [name])).isSome = true) :
      Asked tree base pieces (base ++ below ++ [name])

/-- Whether a row of names leads to a file below the base whose name the pieces stand for. -/
inductive Selects (tree : FileTree) (base : List WideText) (pieces : List Piece) :
    List WideText → Prop
  | file {below : List WideText} {name : WideText} {content : Bytes}
      (haccept : accept pieces name = true)
      (hstanding : tree.stands? (base ++ below ++ [name]) = some (some content)) :
      Selects tree base pieces (base ++ below ++ [name])

section Proper

variable (h : tree.Proper)
include h

/-- An entry that is listed stands where its name leads. -/
theorem found?_of_mem (hplace : tree.found? place = some (.directory entries))
    (hentry : (name, child) ∈ entries) : tree.found? (place ++ [name]) = some child := by
  rw [FileTree.found?_concat hplace]
  exact (h.of_found? hplace).1.lookup_eq_some_iff.mpr hentry

/-- What stands at a name is an entry of the directory above. -/
theorem exists_mem_of_found? (hfound : tree.found? (place ++ [name]) = some child) :
    ∃ entries, tree.found? place = some (.directory entries) ∧ (name, child) ∈ entries := by
  obtain ⟨above, habove, hstep⟩ := Option.bind_eq_some_iff.mp (FileTree.found?_append ▸ hfound)
  cases above with
  | file content => cases hstep
  | directory entries =>
    refine ⟨entries, habove, (h.of_found? habove).1.lookup_eq_some_iff.mp ?_⟩
    rw [← FileTree.found?_concat habove, hfound]

/-! ## Files among the entries of a directory -/

theorem filesFrom_nil_eq_ok_iff {part : List (List WideText)}
    (hplace : tree.found? place = some child) :
    filesFrom tree onlyDirectories place [] = .ok part ↔
      Answers tree place ∧ (if child.isFile then [place] else []) = part := by
  rw [filesFrom, h.probe_eq hplace, Answers]
  cases tree.reaches { names := place } <;> simp [Except.map]

theorem choose_pieces_eq_ok_iff {chosen : List (List WideText)}
    (hplace : tree.found? place = some (.directory entries)) :
    choose tree false place (.pieces pieces) = .ok chosen ↔
      Answers tree place ∧
        ((entries.filter fun entry => accept pieces entry.1).map fun entry => place ++ [entry.1]) =
          chosen := by
  rw [choose, enter, h.probe_eq hplace, Answers]
  cases tree.reaches { names := place } <;>
    simp [Except.map, Option.filter, FileNode.isDirectory, FileNode.entries]

/-- The entries of a directory whose names the pieces stand for are asked for. -/
theorem exists_filesFrom_pieces_iff (hplace : tree.found? place = some (.directory entries)) :
    (∃ part, filesFrom tree false place [.pieces pieces] = .ok part) ↔
      Answers tree place ∧ ∀ entry ∈ entries, accept pieces entry.1 = true →
        Answers tree (place ++ [entry.1]) := by
  have hentry : ∀ entry ∈ entries,
      (∃ part, filesFrom tree false (place ++ [entry.1]) [] = .ok part) ↔
        Answers tree (place ++ [entry.1]) := by
    intro entry hmem
    simp [filesFrom_nil_eq_ok_iff h (found?_of_mem h hplace hmem)]
  simp only [exists_filesFrom_cons_iff, List.isEmpty_nil, Bool.not_true, Bool.or_false,
    choose_pieces_eq_ok_iff h hplace, and_assoc, exists_and_left, exists_eq_left',
    List.forall_mem_map, List.mem_filter, and_imp]
  exact and_congr_right fun _ => forall₂_congr fun entry hmem =>
    imp_congr_right fun _ => hentry entry hmem

/-- The files among the entries of a directory whose names the pieces stand for are selected. -/
theorem mem_filesFrom_pieces_iff {part : List (List WideText)}
    (hplace : tree.found? place = some (.directory entries))
    (hpart : filesFrom tree false place [.pieces pieces] = .ok part) :
    names ∈ part ↔ ∃ name content, names = place ++ [name] ∧ accept pieces name = true ∧
      tree.stands? (place ++ [name]) = some (some content) := by
  obtain ⟨chosen, hchosen, -, hmem⟩ := filesFrom_cons_eq_ok hpart
  rw [List.isEmpty_nil, Bool.not_true, Bool.or_false] at hchosen
  obtain ⟨-, rfl⟩ := (choose_pieces_eq_ok_iff h hplace).mp hchosen
  have hgiven := ((exists_filesFrom_pieces_iff h hplace).mp ⟨part, hpart⟩).2
  rw [hmem]
  constructor
  · rintro ⟨_, hplace', part, hpart, hnames⟩
    obtain ⟨⟨name, child⟩, hfilter, rfl⟩ := List.mem_map.mp hplace'
    obtain ⟨hentry, haccept⟩ := List.mem_filter.mp hfilter
    have hfound := found?_of_mem h hplace hentry
    obtain ⟨-, rfl⟩ := (filesFrom_nil_eq_ok_iff h hfound).mp hpart
    cases child with
    | directory => cases hnames
    | file content =>
      rw [List.mem_singleton.mp hnames]
      exact ⟨name, content, rfl, haccept, FileTree.stands?_eq_file_iff.mpr hfound⟩
  · rintro ⟨name, content, rfl, haccept, hstanding⟩
    have hfound := FileTree.stands?_eq_file_iff.mp hstanding
    obtain ⟨others, hothers, hentry⟩ := exists_mem_of_found? h hfound
    obtain rfl : entries = others := by
      rw [hplace] at hothers
      cases hothers
      rfl
    refine ⟨_, List.mem_map.mpr ⟨_, List.mem_filter.mpr ⟨hentry, haccept⟩, rfl⟩, [place ++ [name]],
      ?_, List.mem_singleton_self _⟩
    exact (filesFrom_nil_eq_ok_iff h hfound).mpr ⟨hgiven _ hentry haccept, rfl⟩

/-! ## Files below a directory -/

theorem choose_anyDepth_eq_ok_iff {chosen : List (List WideText)} {directory : Bool}
    (hbase : tree.found? base = some (.directory entries)) :
    choose tree directory base .anyDepth = .ok chosen ↔
      Answers tree base ∧ (FileNode.directory entries).directories.map (base ++ ·) = chosen := by
  rw [choose, enter, h.probe_eq hbase, Answers]
  cases tree.reaches { names := base } <;>
    simp [Except.map, Option.filter, FileNode.isDirectory]

/-- The directories at any depth are those that stand there. -/
theorem mem_directories_below_iff (hbase : tree.found? base = some (.directory entries)) :
    below ∈ (FileNode.directory entries).directories ↔
      tree.stands? (base ++ below) = some none := by
  rw [FileTree.stands?_append hbase, FileNode.mem_directories_iff (h.of_found? hbase).1]

theorem exists_filesFrom_anyDepth_iff (hbase : tree.found? base = some (.directory entries)) :
    (∃ found, filesFrom tree false base [.anyDepth, .pieces pieces] = .ok found) ↔
      Answers tree base ∧ ∀ below, tree.stands? (base ++ below) = some none →
        ∃ part, filesFrom tree false (base ++ below) [.pieces pieces] = .ok part := by
  rw [exists_filesFrom_cons_iff]
  simp only [choose_anyDepth_eq_ok_iff h hbase, and_assoc, exists_and_left, exists_eq_left',
    List.forall_mem_map, mem_directories_below_iff h hbase]

theorem select_eq_ok_iff (hbase : tree.found? base = some child) :
    select tree base components onlyDirectories = .ok selected ↔ Answers tree base ∧
      (if child.isDirectory then filesFrom tree onlyDirectories base components else .ok []) =
        .ok selected := by
  rw [select, enter, h.probe_eq hbase, Answers]
  cases tree.reaches { names := base } with
  | error error => simp [Except.map, bind, Except.bind]
  | ok found =>
    cases child <;>
      simp [Except.map, bind, Except.bind, Option.filter, FileNode.isDirectory, pure, Except.pure]

/-- **When something is selected**: if the system can tell what stands at the places that it is
asked for. -/
theorem exists_select_iff (hbase : (tree.stands? base).isSome = true) :
    (∃ selected, select tree base [.anyDepth, .pieces pieces] false = .ok selected) ↔
      ∀ place, Asked tree base pieces place → Answers tree place := by
  obtain ⟨child, hbase⟩ := Option.isSome_iff_exists.mp ((Option.isSome_map).symm.trans hbase)
  simp only [select_eq_ok_iff h hbase, exists_and_left]
  cases child with
  | file content =>
    -- below a file there is nothing to ask for
    have hnone : ∀ {names}, names ≠ [] → tree.stands? (base ++ names) = none := fun hnames =>
      FileTree.stands?_append_of_file hbase hnames
    simp only [FileNode.isDirectory, Bool.false_eq_true, if_false, exists_eq', and_true,
      Except.ok.injEq]
    refine ⟨fun hanswers place hasked => ?_, fun hall => hall _ .base⟩
    cases hasked with
    | base => exact hanswers
    | @directory below hstanding =>
      by_cases hbelow : below = []
      · subst hbelow
        rwa [List.append_nil]
      · rw [hnone hbelow] at hstanding
        cases hstanding
    | entry haccept hstanding =>
      rw [List.append_assoc, hnone (by simp)] at hstanding
      cases hstanding
  | directory entries =>
    simp only [FileNode.isDirectory, if_true, exists_filesFrom_anyDepth_iff h hbase]
    constructor
    · rintro ⟨hanswers, -, hbelow⟩ place hasked
      cases hasked with
      | base => exact hanswers
      | @directory below hstanding =>
        obtain ⟨others, hfound⟩ := FileTree.stands?_eq_directory_iff.mp hstanding
        exact ((exists_filesFrom_pieces_iff h hfound).mp (hbelow below hstanding)).1
      | @entry below name haccept hstanding =>
        obtain ⟨child, hchild⟩ :=
          Option.isSome_iff_exists.mp ((Option.isSome_map).symm.trans hstanding)
        obtain ⟨others, hfound, hentry⟩ := exists_mem_of_found? h hchild
        have hpart := hbelow below (FileTree.stands?_eq_directory_iff.mpr ⟨others, hfound⟩)
        exact ((exists_filesFrom_pieces_iff h hfound).mp hpart).2 _ hentry haccept
    · intro hall
      refine ⟨hall _ .base, hall _ .base, fun below hstanding => ?_⟩
      obtain ⟨others, hfound⟩ := FileTree.stands?_eq_directory_iff.mp hstanding
      refine (exists_filesFrom_pieces_iff h hfound).mpr ⟨hall _ (.directory hstanding), ?_⟩
      rintro ⟨name, child⟩ hentry haccept
      refine hall _ (.entry haccept ?_)
      rw [FileTree.stands?, found?_of_mem h hfound hentry]
      rfl

/-- **What is selected**: the files below the base whose names the pieces stand for. -/
theorem mem_select_iff (hbase : (tree.stands? base).isSome = true)
    (hselect : select tree base [.anyDepth, .pieces pieces] false = .ok selected) :
    names ∈ selected ↔ Selects tree base pieces names := by
  obtain ⟨child, hbase⟩ := Option.isSome_iff_exists.mp ((Option.isSome_map).symm.trans hbase)
  obtain ⟨-, hselect⟩ := (select_eq_ok_iff h hbase).mp hselect
  cases child with
  | file content =>
    cases hselect
    refine iff_of_false nofun ?_
    rintro ⟨-, hstanding⟩
    rw [List.append_assoc, FileTree.stands?_append_of_file hbase (by simp)] at hstanding
    cases hstanding
  | directory entries =>
    have hparts := ((exists_filesFrom_anyDepth_iff h hbase).mp ⟨selected, hselect⟩).2
    obtain ⟨chosen, hchosen, -, hmem⟩ := filesFrom_cons_eq_ok hselect
    obtain ⟨-, rfl⟩ := (choose_anyDepth_eq_ok_iff h hbase).mp hchosen
    rw [hmem]
    constructor
    · rintro ⟨place, hplace, part, hpart, hnames⟩
      obtain ⟨below, hbelow, rfl⟩ := List.mem_map.mp hplace
      obtain ⟨others, hfound⟩ := FileTree.stands?_eq_directory_iff.mp
        ((mem_directories_below_iff h hbase).mp hbelow)
      obtain ⟨name, content, rfl, haccept, hstanding⟩ :=
        (mem_filesFrom_pieces_iff h hfound hpart).mp hnames
      exact .file haccept hstanding
    · rintro ⟨haccept, hstanding⟩
      next below name content =>
      obtain ⟨others, hfound, -⟩ :=
        exists_mem_of_found? h (FileTree.stands?_eq_file_iff.mp hstanding)
      have hdirectory := FileTree.stands?_eq_directory_iff.mpr ⟨others, hfound⟩
      obtain ⟨part, hpart⟩ := hparts below hdirectory
      have hbelow := (mem_directories_below_iff h hbase).mpr hdirectory
      refine ⟨base ++ below, List.mem_map.mpr ⟨below, hbelow, rfl⟩, part, hpart, ?_⟩
      exact (mem_filesFrom_pieces_iff h hfound hpart).mpr ⟨name, content, rfl, haccept, hstanding⟩

/-- Nothing is selected twice. -/
theorem nodup_select (hbase : tree.found? base = some child)
    (hselect : select tree base (component :: components) onlyDirectories = .ok selected) :
    selected.Nodup := by
  obtain ⟨-, hselect⟩ := (select_eq_ok_iff h hbase).mp hselect
  split at hselect
  · obtain ⟨-, -, hnodup, -⟩ := filesFrom_cons_eq_ok hselect
    exact hnodup
  · cases hselect
    exact List.nodup_nil

end Proper

end Glob

end StubVector
