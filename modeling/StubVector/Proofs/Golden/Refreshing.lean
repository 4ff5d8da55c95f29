import StubVector.Proofs.FileTree.Standing
import StubVector.Proofs.Golden.Refreshed

/-!
# What a refresh changes

A refresh stops at the first target that fails. Whether a target fails can be told before anything
is written, since no golden output lies on the way to a header or to another golden output. So a
refresh writes what its targets give before it starts, in the places of the golden outputs before
the first target that fails, and leaves everything else; another refresh changes nothing. Only the
golden output of the target that fails may be spoiled: where its text cannot be stored it is left
empty.

* `Refresh.Clear`: targets whose golden outputs lie on the way to nothing else.
* `Refresh.fails_refreshAll_iff`: a refresh does not change whether other targets fail.
* `Refresh.Wrote`: what a refresh leaves.
* `Refresh.refreshDirectory_effect`: **a refresh changes only what it reports**, and what it spoils.
* `Refresh.not_forall_completed`: not every refresh ends whose targets are generated and opened.
* `Refresh.exists_wrote_run`: so does the program, whatever its arguments.
-/

namespace StubVector.Refresh

open FileTree (Descends Writes storedNames)

variable {host : Host} {files before after next : FileTree} {directory path : Path}
  {charset : Option WideText} {target other : Target} {targets front rest : List Target}
  {content : Bytes} {error : Error} {left : Option Bytes}

/-! ## Targets that are clear of each other -/

/-- Whether the golden outputs of targets lie on the way to nothing else that a refresh opens. -/
structure Clear (targets : List Target) : Prop where
  header_descends : ∀ target ∈ targets, Descends target.header
  golden_descends : ∀ target ∈ targets, Descends target.golden
  header_clear : ∀ target ∈ targets, ∀ other ∈ targets,
    ¬ storedNames other.golden <+: storedNames target.header
  golden_clear : targets.Pairwise fun target other =>
    ¬ storedNames target.golden <+: storedNames other.golden ∧
      ¬ storedNames other.golden <+: storedNames target.golden

/-- The golden outputs that are refreshed lie on the way to nothing else. -/
theorem clear_targets : Clear Refresh.targets where
  header_descends := apart_targets.header_descends
  golden_descends := apart_targets.golden_descends
  header_clear := by decide +kernel
  golden_clear := by decide +kernel

theorem Clear.apart (h : Clear targets) : Apart targets where
  header_descends := h.header_descends
  golden_descends := h.golden_descends
  header_ne target htarget other hother heq :=
    h.header_clear target htarget other hother (heq ▸ List.prefix_refl _)
  golden_nodup := by
    rw [List.Nodup, List.pairwise_map]
    refine h.golden_clear.imp ?_
    rintro target other ⟨hclear, -⟩ heq
    exact hclear (heq ▸ List.prefix_refl _)

theorem Clear.sublist {some all : List Target} (h : Clear all) (hsub : some.Sublist all) :
    Clear some where
  header_descends target htarget := h.header_descends target (hsub.subset htarget)
  golden_descends target htarget := h.golden_descends target (hsub.subset htarget)
  header_clear target htarget other hother :=
    h.header_clear target (hsub.subset htarget) other (hsub.subset hother)
  golden_clear := h.golden_clear.sublist hsub

/-! ## Beside the targets that are refreshed -/

/-- The text of a target depends on what reading its header gives. -/
theorem textOf_congr
    (h : after.read (directory ++ target.header) = before.read (directory ++ target.header)) :
    textOf host directory charset after target = textOf host directory charset before target := by
  simp only [textOf, HeaderFile.generate, HeaderFile.readLines, h]

/-- Whether a file can be written depends on whether its place is found. -/
theorem write_eq_error_congr {cause : FileError}
    (h : after.locateTarget path = before.locateTarget path) :
    after.write path content = .error cause ↔ before.write path content = .error cause := by
  rw [FileTree.write, FileTree.write, h]
  cases FileTree.checkText path with
  | error error => rfl
  | ok _ => cases before.locateTarget path <;> simp [Except.bind, Except.map, FileTree.refuse]

theorem exists_write_congr {opened : FileTree}
    (h : after.locateTarget path = before.locateTarget path)
    (hopen : before.write path content = .ok opened) :
    ∃ opened, after.write path content = .ok opened := by
  cases hafter : after.write path content with
  | ok opened => exact ⟨opened, rfl⟩
  | error cause =>
    rw [(write_eq_error_congr h).mp hafter] at hopen
    cases hopen

theorem Fails.congr
    (hread : after.read (directory ++ target.header) = before.read (directory ++ target.header))
    (hplace : after.locateTarget (directory ++ target.golden) =
      before.locateTarget (directory ++ target.golden))
    (h : Fails host before directory charset target error left) :
    Fails host after directory charset target error left := by
  have htextOf : textOf host directory charset after target =
      textOf host directory charset before target := textOf_congr hread
  cases h with
  | ungenerated htext => exact .ungenerated (htextOf.trans htext)
  | unopened htext hopen =>
    exact .unopened (htextOf.trans htext) ((write_eq_error_congr hplace).mpr hopen)
  | unstorable htext hopen hhalves =>
    obtain ⟨opened, hopen⟩ := exists_write_congr hplace hopen
    exact .unstorable (htextOf.trans htext) hopen hhalves
  | unprintable htext hopen hhalves =>
    obtain ⟨opened, hopen⟩ := exists_write_congr hplace hopen
    exact .unprintable (htextOf.trans htext) hopen hhalves

namespace Leaves

theorem standing?_of_ne {names : List WideText} (h : Leaves before after path left)
    (hne : before.locateTarget path ≠ .ok names) :
    after.standing? names = before.standing? names := by
  cases left with
  | none =>
    obtain rfl : after = before := h
    rfl
  | some content =>
    obtain ⟨place, hplace, hframes⟩ := Writes.frames h
    exact hframes.unchanged names fun heq => hne (heq ▸ hplace)

variable {golden : Path} (h : Leaves before after (directory ++ golden) left)
  (hgolden : Descends golden) (hpath : Descends path)
  (hclear : ¬ storedNames golden <+: storedNames path)
include h hgolden hpath hclear

theorem read_append : after.read (directory ++ path) = before.read (directory ++ path) := by
  cases left with
  | none =>
    obtain rfl : after = before := h
    rfl
  | some content => exact Writes.read_append h hgolden hclear hpath

theorem locateTarget_append :
    after.locateTarget (directory ++ path) = before.locateTarget (directory ++ path) := by
  cases left with
  | none =>
    obtain rfl : after = before := h
    rfl
  | some content => exact Writes.locateTarget_append h hgolden hclear hpath

end Leaves

section Beside

variable (hpath : Descends path) (hclear : ∀ target ∈ targets,
  Descends target.golden ∧ ¬ storedNames target.golden <+: storedNames path)
include hpath hclear

/-- What is read where no golden output lies on the way. -/
theorem read_refreshAll_eq :
    (refreshAll host directory charset files targets).files.read (directory ++ path) =
      files.read (directory ++ path) := by
  refine refreshAll_preserves (·.read (directory ++ path) = files.read (directory ++ path))
    (fun target htarget before hsame => ?_) rfl
  obtain ⟨left, hleaves⟩ := exists_leaves_refresh host before directory charset target
  exact (hleaves.read_append (hclear target htarget).1 hpath (hclear target htarget).2).trans hsame

/-- Where a file may be written when no golden output lies on the way. -/
theorem locateTarget_refreshAll_eq :
    (refreshAll host directory charset files targets).files.locateTarget (directory ++ path) =
      files.locateTarget (directory ++ path) := by
  refine refreshAll_preserves
    (·.locateTarget (directory ++ path) = files.locateTarget (directory ++ path))
    (fun target htarget before hsame => ?_) rfl
  obtain ⟨left, hleaves⟩ := exists_leaves_refresh host before directory charset target
  exact (hleaves.locateTarget_append (hclear target htarget).1 hpath
    (hclear target htarget).2).trans hsame

end Beside

section Run

variable (hclear : Clear (front ++ rest))
include hclear

theorem Clear.golden_beside (hother : other ∈ rest) : ∀ target ∈ front,
    Descends target.golden ∧ ¬ storedNames target.golden <+: storedNames other.golden :=
  fun target htarget => ⟨hclear.golden_descends target (List.mem_append_left _ htarget),
    ((List.pairwise_append.mp hclear.golden_clear).2.2 target htarget other hother).1⟩

theorem Clear.header_beside (hother : other ∈ front ++ rest) : ∀ target ∈ front,
    Descends target.golden ∧ ¬ storedNames target.golden <+: storedNames other.header :=
  fun target htarget => ⟨hclear.golden_descends target (List.mem_append_left _ htarget),
    hclear.header_clear other hother target (List.mem_append_left _ htarget)⟩

/-- The golden output of a target that is not refreshed stays. -/
theorem read_golden_refreshAll_eq (hother : other ∈ rest) :
    (refreshAll host directory charset files front).files.read (directory ++ other.golden) =
      files.read (directory ++ other.golden) :=
  read_refreshAll_eq (hclear.golden_descends other (List.mem_append_right _ hother))
    (hclear.golden_beside hother)

/-- **A refresh does not change whether other targets fail.** -/
theorem fails_refreshAll_iff (hother : other ∈ rest) :
    Fails host (refreshAll host directory charset files front).files directory charset other error
        left ↔
      Fails host files directory charset other error left := by
  have hmem : other ∈ front ++ rest := List.mem_append_right front hother
  have hread : (refreshAll host directory charset files front).files.read
      (directory ++ other.header) = files.read (directory ++ other.header) :=
    read_refreshAll_eq (hclear.header_descends other hmem) (hclear.header_beside hmem)
  have hplace : (refreshAll host directory charset files front).files.locateTarget
      (directory ++ other.golden) = files.locateTarget (directory ++ other.golden) :=
    locateTarget_refreshAll_eq (hclear.golden_descends other hmem) (hclear.golden_beside hother)
  exact ⟨Fails.congr hread.symm hplace.symm, Fails.congr hread hplace⟩

end Run

/-! ## The run -/

/-- A target that does not fail is refreshed. -/
theorem refresh_error_eq_none
    (h : ∀ error left, ¬ Fails host files directory charset target error left) :
    (refresh host directory charset files target).error = none := by
  obtain ⟨error, left, hfails⟩ | ⟨text, after, -, -, hrefresh⟩ :=
    fails_or_refreshed host files directory charset target
  · exact absurd hfails (h error left)
  · rw [hrefresh]

/-- A target that is refreshed does not change whether those after it fail. -/
theorem fails_next_iff (hclear : Clear (target :: rest))
    (h : (refresh host directory charset files target).error = none) (hother : other ∈ rest) :
    Fails host (refresh host directory charset files target).files directory charset other error
        left ↔
      Fails host files directory charset other error left := by
  have hsingle : (refreshAll host directory charset files [target]).files =
      (refresh host directory charset files target).files := files_refreshAll_cons h
  have hsplit : Clear ([target] ++ rest) := hclear
  exact hsingle ▸ fails_refreshAll_iff hsplit hother

/-- A refresh goes on while no target fails. -/
theorem refreshAll_append (hclear : Clear (front ++ rest))
    (h : ∀ target ∈ front, ∀ error left, ¬ Fails host files directory charset target error left) :
    (refreshAll host directory charset files front).error = none ∧
    refreshAll host directory charset files (front ++ rest) =
      let after := (refreshAll host directory charset files front).files
      { refreshAll host directory charset after rest with
        updated := front.map (directory ++ ·.golden) ++
          (refreshAll host directory charset after rest).updated } := by
  induction front generalizing files with
  | nil => exact ⟨rfl, rfl⟩
  | cons target front ih =>
    rw [List.forall_mem_cons] at h
    have hnone := refresh_error_eq_none h.1
    have hothers : ∀ other ∈ front, ∀ error left, ¬ Fails host
        (refresh host directory charset files target).files directory charset other error left :=
      fun other hother error left hfails => h.2 other hother error left
        ((fails_next_iff hclear hnone (List.mem_append_left rest hother)).mp hfails)
    obtain ⟨hend, hall⟩ := ih (hclear.sublist (List.sublist_cons_self target _)) hothers
    obtain ⟨text, after, -, -, hrefresh⟩ := exists_writes_of_refresh hnone
    refine ⟨refreshAll_cons_eq_none_iff.mpr ⟨hnone, hend⟩, ?_⟩
    rw [hrefresh] at hall
    simp only [List.cons_append, refreshAll, hrefresh, hall, List.map_cons, Option.isSome_none,
      Bool.false_eq_true, if_false, List.nil_append]

/-- A refresh changes only what stands in the places of golden outputs. -/
theorem standing?_refreshAll_of_ne {names : List WideText} (hclear : Clear targets)
    (hne : ∀ target ∈ targets, files.locateTarget (directory ++ target.golden) ≠ .ok names) :
    (refreshAll host directory charset files targets).files.standing? names =
      files.standing? names := by
  induction targets generalizing files with
  | nil => rfl
  | cons target targets ih =>
    rw [List.forall_mem_cons] at hne
    obtain ⟨left, hleaves⟩ := exists_leaves_refresh host files directory charset target
    have hfirst : (refresh host directory charset files target).files.standing? names =
        files.standing? names := hleaves.standing?_of_ne hne.1
    rw [refreshAll]
    split
    · exact hfirst
    · refine (ih (hclear.sublist (List.sublist_cons_self target _)) fun other hother => ?_).trans
        hfirst
      rw [hleaves.locateTarget_append (hclear.golden_descends target List.mem_cons_self)
        (hclear.golden_descends other (List.mem_cons_of_mem target hother))
        ((List.pairwise_cons.mp hclear.golden_clear).1 other hother).1]
      exact hne.2 other hother

/-! ## What a refresh leaves -/

/-- Whether a tree comes from an earlier one by writing the golden outputs of some targets, and by
spoiling that of another one: the former hold what the earlier tree gives, and everything else is as
it was there. -/
structure Wrote (host : Host) (before after : FileTree) (directory : Path)
    (charset : Option WideText) (done : List Target) (spoiled : Option (Target × Bytes)) :
    Prop where
  written : ∀ target ∈ done, ∃ text : Text,
    textOf host directory charset before target = .ok (.ofText text) ∧
      after.read (directory ++ target.golden) = .ok (Utf8.encode text)
  spoilt : ∀ target content, spoiled = some (target, content) →
    after.read (directory ++ target.golden) = .ok content
  /-- Outside the places of these golden outputs the same stands. -/
  unchanged : ∀ names,
    (∀ target ∈ done ++ spoiled.toList.map (·.1),
      before.locateTarget (directory ++ target.golden) ≠ .ok names) →
      after.standing? names = before.standing? names

theorem wrote_refreshAll (hclear : Clear targets)
    (h : (refreshAll host directory charset files targets).error = none) :
    Wrote host files (refreshAll host directory charset files targets).files directory charset
      targets none where
  written target htarget := by
    obtain ⟨text, htext, hread⟩ := upToDate_of_refreshAll hclear.apart h target htarget
    have hheader : ∀ other ∈ targets, Descends other.golden ∧
        ¬ storedNames other.golden <+: storedNames target.header := fun other hother =>
      ⟨hclear.golden_descends other hother, hclear.header_clear target htarget other hother⟩
    refine ⟨text, Eq.trans (textOf_congr ?_).symm htext, hread⟩
    exact read_refreshAll_eq (hclear.header_descends target htarget) hheader
  spoilt := nofun
  unchanged names hne :=
    standing?_refreshAll_of_ne hclear fun target htarget => hne target (by simpa using htarget)

/-- The golden output of the target that fails is spoiled, if it was opened. -/
theorem Wrote.spoil (h : Wrote host files before directory charset front none)
    (hclear : Clear (front ++ target :: rest))
    (hplace : before.locateTarget (directory ++ target.golden) =
      files.locateTarget (directory ++ target.golden))
    (hleaves : Leaves before after (directory ++ target.golden) left) :
    Wrote host files after directory charset front (left.map (target, ·)) where
  written earlier hearlier := by
    obtain ⟨text, htext, hread⟩ := h.written earlier hearlier
    have hbeside := (List.pairwise_append.mp hclear.golden_clear).2.2 earlier hearlier target
      List.mem_cons_self
    have hmem : target ∈ front ++ target :: rest :=
      List.mem_append_right front List.mem_cons_self
    have hkept := hleaves.read_append (hclear.golden_descends target hmem)
      (hclear.golden_descends earlier (List.mem_append_left _ hearlier)) hbeside.2
    exact ⟨text, htext, hkept.trans hread⟩
  spoilt other content hother := by
    obtain ⟨content, rfl, heq⟩ := Option.map_eq_some_iff.mp hother
    cases heq
    exact Writes.read_eq hleaves
  unchanged names hne := by
    have hbefore : before.standing? names = files.standing? names :=
      h.unchanged names fun earlier hearlier => hne earlier (by simp_all)
    cases left with
    | none =>
      obtain rfl : after = before := hleaves
      exact hbefore
    | some content =>
      refine (hleaves.standing?_of_ne ?_).trans hbefore
      rw [hplace]
      exact hne target (by simp)

/-- What is reported of a target that does not fail is printed, if its text is generated. -/
theorem refused?_of_not_fails
    (h : ∀ error left, ¬ Fails host files directory charset target error left) :
    host.console.refused? (updatedLine (directory ++ target.golden)) = none := by
  obtain ⟨text, after, htext, hwrites, -⟩ := exists_writes_of_refresh (refresh_error_eq_none h)
  cases hline : host.console.refused? (updatedLine (directory ++ target.golden)) with
  | none => rfl
  | some halves =>
    cases hopen : files.write (directory ++ target.golden) [] with
    | error cause => exact (h _ _ (.unopened htext hopen)).elim
    | ok opened => exact (h _ _ (.unprintable htext hopen hline)).elim

/-- A target that is up to date is refreshed without a change. -/
theorem refresh_of_upToDate (hgolden : Descends target.golden)
    (hline : host.console.refused? (updatedLine (directory ++ target.golden)) = none)
    (h : UpToDate host files directory charset target) :
    refresh host directory charset files target =
      { updated := [directory ++ target.golden], files } := by
  obtain ⟨text, htext, hread⟩ := h
  simp only [refresh, htext, FileTree.writeText, WideText.asText_ofText,
    FileTree.write_of_read hgolden hread, hline]

/-- Where all is up to date, a refresh changes nothing and reports every golden output. -/
theorem refreshAll_of_upToDate (hgolden : ∀ target ∈ targets, Descends target.golden)
    (hline : ∀ target ∈ targets,
      host.console.refused? (updatedLine (directory ++ target.golden)) = none)
    (h : ∀ target ∈ targets, UpToDate host files directory charset target) :
    refreshAll host directory charset files targets =
      { updated := targets.map (directory ++ ·.golden), files } := by
  induction targets with
  | nil => rfl
  | cons target targets ih =>
    rw [List.forall_mem_cons] at hgolden hline h
    simp only [refreshAll, refresh_of_upToDate hgolden.1 hline.1 h.1, ih hgolden.2 hline.2 h.2,
      List.map_cons, Option.isSome_none, Bool.false_eq_true, if_false, List.singleton_append]

/-- What is printed for targets that are refreshed. -/
def report (directory : Path) (done : List Target) : WideText :=
  Text.unlines (done.map fun target => updatedLine (directory ++ target.golden))

/-- The result of a refresh that comes to its end. -/
def completed (after : FileTree) (directory : Path) : Result where
  outcome := { exitCode := 0, stdout := report directory Refresh.targets, files := after }

/-- The result of a refresh that ends after the targets that are done, with an error. -/
def interrupted (after : FileTree) (directory : Path) (done : List Target) (error : Error) :
    Result where
  fault := some (.error error)
  outcome := { exitCode := 1, stdout := report directory done, files := after }

/-- A refresh comes to its end if no target fails. -/
theorem refreshDirectory_of_not_fails
    (h : ∀ target ∈ Refresh.targets, ∀ error left,
      ¬ Fails host files directory charset target error left) :
    ∃ after, Wrote host files after directory charset Refresh.targets none ∧
      refreshDirectory host files directory charset = completed after directory ∧
      refreshDirectory host after directory charset = completed after directory := by
  have hclear : Clear (Refresh.targets ++ []) := by simpa using clear_targets
  obtain ⟨hnone, hall⟩ := refreshAll_append hclear h
  refine ⟨_, wrote_refreshAll clear_targets hnone, ?_, ?_⟩
  · rw [List.append_nil] at hall
    rw [refreshDirectory, hall]
    simp only [refreshAll, List.append_nil, List.map_map]
    rfl
  · have hagain := refreshAll_of_upToDate clear_targets.golden_descends
      (fun target htarget => refused?_of_not_fails (h target htarget))
      (upToDate_of_refreshAll apart_targets hnone)
    simp only [refreshDirectory, hagain, List.map_map]
    rfl

/-- A refresh ends at the first target that fails. -/
theorem refreshDirectory_of_fails (hsplit : Refresh.targets = front ++ target :: rest)
    (hfront : ∀ earlier ∈ front, ∀ error left,
      ¬ Fails host files directory charset earlier error left)
    (hfails : Fails host files directory charset target error left) :
    ∃ after, Wrote host files after directory charset front (left.map (target, ·)) ∧
      (left = none → after.read (directory ++ target.golden) =
        files.read (directory ++ target.golden)) ∧
      (∀ later ∈ rest, after.read (directory ++ later.golden) =
        files.read (directory ++ later.golden)) ∧
      refreshDirectory host files directory charset = interrupted after directory front error := by
  have hclear : Clear (front ++ target :: rest) := hsplit ▸ clear_targets
  obtain ⟨hnone, hall⟩ := refreshAll_append hclear hfront
  obtain ⟨after, hleaves, hstop⟩ := refresh_of_fails
    ((fails_refreshAll_iff hclear List.mem_cons_self).mpr hfails)
  have hwrote := wrote_refreshAll (hclear.sublist (List.sublist_append_left _ _)) hnone
  have hmem : target ∈ front ++ target :: rest := List.mem_append_right front List.mem_cons_self
  have hplace : (refreshAll host directory charset files front).files.locateTarget
      (directory ++ target.golden) = files.locateTarget (directory ++ target.golden) :=
    locateTarget_refreshAll_eq (hclear.golden_descends target hmem)
      (hclear.golden_beside List.mem_cons_self)
  refine ⟨after, hwrote.spoil hclear hplace hleaves, ?_, fun later hlater => ?_, ?_⟩
  · rintro rfl
    obtain rfl := hleaves
    exact read_golden_refreshAll_eq hclear List.mem_cons_self
  · have hbeside := (List.pairwise_cons.mp
      (List.pairwise_append.mp hclear.golden_clear).2.1).1 later hlater
    have hlaterMem : later ∈ front ++ target :: rest :=
      List.mem_append_right front (List.mem_cons_of_mem target hlater)
    exact (hleaves.read_append (hclear.golden_descends target hmem)
      (hclear.golden_descends later hlaterMem) hbeside.1).trans
        (read_golden_refreshAll_eq hclear (List.mem_cons_of_mem target hlater))
  · rw [← hsplit] at hall
    simp only [refreshDirectory, hall, refreshAll, hstop, Option.isSome_some, if_true,
      List.append_nil, List.map_map]
    rfl

/-- **A refresh changes only what it reports, and what it spoils.** In any tree, for any golden
directory and charset: unless a target fails in the tree as it is, the refresh reports all golden
outputs, which hold what the tree gave before, and leaves everything else; another refresh then
prints the same and changes nothing. If a target fails, the refresh ends with the error of the first
one. The golden outputs before it are written and reported, and all else is as it was. Its own
golden output is as it was too, unless it was opened: if its text cannot be stored it is empty then,
and if it cannot be reported it holds its text. -/
theorem refreshDirectory_effect (host : Host) (files : FileTree) (directory : Path)
    (charset : Option WideText) :
    ((∀ target ∈ Refresh.targets, ∀ error left,
        ¬ Fails host files directory charset target error left) →
      ∃ after, Wrote host files after directory charset Refresh.targets none ∧
        refreshDirectory host files directory charset = completed after directory ∧
        refreshDirectory host after directory charset = completed after directory) ∧
    ∀ front target rest error left, Refresh.targets = front ++ target :: rest →
      (∀ earlier ∈ front, ∀ error left,
        ¬ Fails host files directory charset earlier error left) →
      Fails host files directory charset target error left →
      ∃ after, Wrote host files after directory charset front (left.map (target, ·)) ∧
        (left = none → after.read (directory ++ target.golden) =
          files.read (directory ++ target.golden)) ∧
        (∀ later ∈ rest, after.read (directory ++ later.golden) =
          files.read (directory ++ later.golden)) ∧
        refreshDirectory host files directory charset =
          interrupted after directory front error :=
  ⟨refreshDirectory_of_not_fails,
    fun _ _ _ _ _ hsplit hfront hfails => refreshDirectory_of_fails hsplit hfront hfails⟩

/-- A golden directory in which the header of the last target is missing, and an earlier golden
output of it is there. -/
def headlessFiles : FileTree := .ofEntries [
  ("g".toList, .directory [
    ("basic".toList, .directory [
      ("test_zisstubs.h".toList, .file (Utf8.encode "#define ZIS_STUB_A 1 /* f */\n".toList))]),
    ("empty".toList, .directory [("test_no_stubs.asm".toList, .file [0x2A])])])]

/-- The three targets before the missing header are written, and the fourth golden output stays. -/
theorem refreshDirectory_effect_missing_header :
    let directory : Path := { names := ["g".toList] }
    let charset : Option WideText := some "utf-8".toList
    let missing : Path := directory ++ inDirectory "empty" "test_no_stubs.h"
    ∃ after,
      Wrote .lenient headlessFiles after directory charset (Refresh.targets.take 3) none ∧
      after.read (directory ++ inDirectory "empty" "test_no_stubs.asm") = .ok [0x2A] ∧
      refreshDirectory .lenient headlessFiles directory charset =
        interrupted after directory (Refresh.targets.take 3)
          (.header (.refused .notFound missing)) := by
  intro directory charset missing
  have hpass : ∀ earlier ∈ Refresh.targets.take 3,
      (refresh .lenient directory charset headlessFiles earlier).error = none := by
    decide +kernel
  have hfront : ∀ earlier ∈ Refresh.targets.take 3, ∀ error left,
      ¬ Fails .lenient headlessFiles directory charset earlier error left := by
    intro earlier hearlier error left hfails
    obtain ⟨after, -, hrefresh⟩ := refresh_of_fails hfails
    have hnone := hpass earlier hearlier
    rw [hrefresh] at hnone
    cases hnone
  have htext : textOf .lenient directory charset headlessFiles
      { header := inDirectory "empty" "test_no_stubs.h"
        golden := inDirectory "empty" "test_no_stubs.asm"
        kind := .asm
        mode := .zvte } =
      .error (.header (.refused .notFound missing)) := by
    decide +kernel
  obtain ⟨after, hwrote, hkept, -, hresult⟩ :=
    (refreshDirectory_effect .lenient headlessFiles directory charset).2 _ _ [] _ _ rfl hfront
      (.ungenerated htext)
  exact ⟨after, hwrote, (hkept rfl).trans rfl, hresult⟩

/-- A golden directory with a header that names a function with half of a pair, by an escape. -/
def escapedGoldens : FileTree := .ofEntries [
  ("g".toList, .directory [
    ("basic".toList, .directory [
      ("test_zisstubs.h".toList,
        .file (Utf8.encode "#define ZIS_STUB_A 1 /* f\\ud800 */\n".toList))]),
    ("empty".toList, .directory [("test_no_stubs.h".toList, .file [])])])]

/-- Not every refresh comes to its end whose texts are generated, and whose golden outputs can be
opened: a text with half of a pair is not stored. -/
theorem not_forall_completed :
    ¬ ∀ (files : FileTree) (directory : Path) (charset : Option WideText),
      (∀ target ∈ Refresh.targets,
        (textOf .lenient directory charset files target).toOption.isSome = true ∧
        (files.write (directory ++ target.golden) []).toOption.isSome = true) →
      (refreshDirectory .lenient files directory charset).fault = none := by
  intro h
  have hended := h escapedGoldens { names := ["g".toList] } (some "raw_unicode_escape".toList)
    (by decide +kernel)
  revert hended
  decide +kernel

/-! ## The program -/

/-- Either no target fails, or there is a first one that does. -/
theorem exists_first_fails (host : Host) (files : FileTree) (directory : Path)
    (charset : Option WideText) (targets : List Target) :
    (∀ target ∈ targets, ∀ error left,
      ¬ Fails host files directory charset target error left) ∨
      ∃ front target rest error left, targets = front ++ target :: rest ∧
        (∀ earlier ∈ front, ∀ error left,
          ¬ Fails host files directory charset earlier error left) ∧
        Fails host files directory charset target error left := by
  induction targets with
  | nil => exact .inl nofun
  | cons target targets ih =>
    by_cases hfails : ∃ error left, Fails host files directory charset target error left
    · obtain ⟨error, left, hfails⟩ := hfails
      exact .inr ⟨[], target, targets, error, left, rfl, nofun, hfails⟩
    · have hpass : ∀ error left, ¬ Fails host files directory charset target error left :=
        fun error left h => hfails ⟨error, left, h⟩
      obtain hall | ⟨front, other, rest, error, left, rfl, hfront, hother⟩ := ih
      · exact .inl (List.forall_mem_cons.mpr ⟨hpass, hall⟩)
      · exact .inr ⟨target :: front, other, rest, error, left, rfl,
          List.forall_mem_cons.mpr ⟨hpass, hfront⟩, hother⟩

/-- A run of the program refreshes a directory or leaves the files. -/
theorem run_cases (host : Host) (files : FileTree) (arguments : List WideText) :
    (∃ directory charset, run host files arguments =
      refreshDirectory host files directory charset) ∨
      (run host files arguments).outcome.files = files := by
  rw [run]
  split
  · next halt _ =>
    cases halt <;> exact .inr rfl
  · split
    · exact .inr rfl
    · dsimp only
      split
      · exact .inr rfl
      · exact .inr rfl
      · exact .inl ⟨_, _, rfl⟩

/-- **A run writes golden outputs from the first on, and nothing else**, whatever its arguments. -/
theorem exists_wrote_run (host : Host) (files : FileTree) (arguments : List WideText) :
    ∃ directory charset done spoiled,
      done ++ spoiled.toList.map (·.1) <+: Refresh.targets ∧
      Wrote host files (run host files arguments).outcome.files directory charset done spoiled := by
  obtain ⟨directory, charset, hrun⟩ | hkept := run_cases host files arguments
  · rw [hrun]
    obtain hall | ⟨front, target, rest, error, left, hsplit, hfront, hfails⟩ :=
      exists_first_fails host files directory charset Refresh.targets
    · obtain ⟨after, hwrote, hresult, -⟩ := refreshDirectory_of_not_fails hall
      rw [hresult]
      exact ⟨directory, charset, _, none, by simp, hwrote⟩
    · obtain ⟨after, hwrote, -, -, hresult⟩ := refreshDirectory_of_fails hsplit hfront hfails
      rw [hresult]
      refine ⟨directory, charset, front, _, ?_, hwrote⟩
      rw [hsplit]
      cases left with
      | none => simp
      | some content => exact ⟨rest, by simp⟩
  · rw [hkept]
    exact ⟨{ names := [] }, none, [], none, List.nil_prefix, nofun, nofun, fun _ _ => rfl⟩

end StubVector.Refresh
