import Mathlib.Data.List.Nodup
import StubVector.Golden.Refresh
import StubVector.Proofs.FileTree.Below
import StubVector.Proofs.Fragment.Output
import StubVector.Proofs.HeaderFile.Reading
import StubVector.Proofs.Pipeline.Letters

/-!
# Refreshed golden outputs

A refresh writes golden outputs and nothing else. Where no golden output is the header or the golden
output of another target, none that is written is spoiled by those after it: if the refresh comes to
its end, all of them are up to date.

* `HeaderFile.unifyNewlines_of_generate`: a generated text has unified newlines.
* `Refresh.Fails`: why a target cannot be refreshed, and what its golden output holds then.
* `Refresh.UpToDate`: a golden output is what is generated from its header now.
* `Refresh.Apart`: targets that do not get in each other's way.
* `Refresh.read_refreshAll`: what a refresh leaves.
* `Refresh.upToDate_of_refreshAll`: **a refresh that comes to its end leaves all up to date**.
-/

namespace StubVector

open FileTree (Descends Writes storedNames)

/-! ## Generated texts -/

/-- A text without carriage returns has unified newlines. -/
theorem Text.unifyNewlines_of_not_mem {text : Text} (h : '\r' ∉ text) :
    unifyNewlines text = text := by
  fun_induction unifyNewlines text with
  | case1 => rfl
  | case2 rest ih => exact absurd List.mem_cons_self h
  | case3 c rest hpair ih =>
    rw [List.mem_cons, not_or] at h
    rw [if_neg (Ne.symm h.1), ih h.2]

/-- There is no carriage return among unbroken lines. -/
theorem Text.not_mem_unlines {lines : List Text} (h : ∀ line ∈ lines, Unbroken line) :
    '\r' ∉ unlines lines := by
  intro hmem
  obtain ⟨line, hline, hmem⟩ := List.mem_flatMap.mp hmem
  rcases List.mem_append.mp hmem with hmem | hmem
  · have hbreak := h line hline _ hmem
    exact absurd hbreak (by decide)
  · exact absurd (List.mem_singleton.mp hmem) (by decide)

namespace HeaderFile

variable {charsets : Charsets} {tree : FileTree} {path : Path} {kind mode : Selector}
  {name : WideText}

theorem generate_eq_ok_iff {text : WideText} :
    generate charsets tree path kind mode name = .ok text ↔
      ∃ lines, Reads charsets tree path name lines ∧
        StubVector.generate path.toText lines kind mode = .ok text := by
  simp only [← readLines_eq_ok_iff, generate]
  cases readLines charsets tree path name with
  | error error => simp
  | ok lines => cases hlines : StubVector.generate path.toText lines kind mode <;>
      simp [Except.mapError, hlines]

/-- A generated text has unified newlines. -/
theorem unifyNewlines_of_generate {text : Text}
    (h : generate charsets tree path kind mode name = .ok (.ofText text)) :
    Text.unifyNewlines text = text := by
  obtain ⟨_, @⟨_, header, _, _, -, -, -, -⟩, hgenerate⟩ := generate_eq_ok_iff.mp h
  -- the lines, read as the characters that their letters count as, give the same text
  have hface := Letter.keeps_face.generate_map path.toText header.splitLines kind mode
  rw [← WideText.splitLines_map_face, hgenerate] at hface
  have htext : (WideText.ofText text).map Letter.face = text := Letter.keeps_face.ofText_map text
  simp only [Except.map, Except.mapError, htext] at hface
  obtain ⟨definitions, lines, hread, hemit, rfl⟩ := StubVector.generate_eq_ok_iff.mp hface
  have hintact := intact_of_mem_emitLines hemit (Header.wellFormed_of_parseText hread)
  exact Text.unifyNewlines_of_not_mem
    (Text.not_mem_unlines fun line hline => (hintact line hline).2)

end HeaderFile

/-! ## Targets -/

namespace Refresh

variable {host : Host} {files before after : FileTree} {directory path : Path}
  {charset : Option WideText} {target other : Target} {targets : List Target} {text : Text}
  {content : Bytes} {error : Error} {left : Option Bytes}

/-- Whether the golden output of a target is what is generated from its header now. -/
def UpToDate (host : Host) (files : FileTree) (directory : Path) (charset : Option WideText)
    (target : Target) : Prop :=
  ∃ text : Text, textOf host directory charset files target = .ok (.ofText text) ∧
    files.read (directory ++ target.golden) = .ok (Utf8.encode text)

/-- Whether targets do not get in each other's way: no golden output is a header, or the golden
output of another target. -/
structure Apart (targets : List Target) : Prop where
  header_descends : ∀ target ∈ targets, Descends target.header
  golden_descends : ∀ target ∈ targets, Descends target.golden
  header_ne : ∀ target ∈ targets, ∀ other ∈ targets,
    storedNames target.header ≠ storedNames other.golden
  golden_nodup : (targets.map fun target => storedNames target.golden).Nodup

theorem Apart.sublist {some all : List Target} (h : Apart all) (hsub : some.Sublist all) :
    Apart some where
  header_descends target htarget := h.header_descends target (hsub.subset htarget)
  golden_descends target htarget := h.golden_descends target (hsub.subset htarget)
  header_ne first hfirst second hsecond :=
    h.header_ne first (hsub.subset hfirst) second (hsub.subset hsecond)
  golden_nodup := h.golden_nodup.sublist (hsub.map _)

theorem Apart.golden_ne (h : Apart (target :: targets)) (hother : other ∈ targets) :
    storedNames target.golden ≠ storedNames other.golden := fun heq =>
  (List.nodup_cons.mp h.golden_nodup).1 (List.mem_map.mpr ⟨other, hother, heq.symm⟩)

/-- The golden outputs that are refreshed do not get in each other's way. -/
theorem apart_targets : Apart Refresh.targets where
  header_descends := by decide +kernel
  golden_descends := by decide +kernel
  header_ne := by decide +kernel
  golden_nodup := by decide +kernel

/-! ## One target -/

/-- Why a target cannot be refreshed, and what its golden output holds then, if it was opened. -/
inductive Fails (host : Host) (files : FileTree) (directory : Path) (charset : Option WideText)
    (target : Target) : Error → Option Bytes → Prop
  /-- No text is generated. -/
  | ungenerated {error : Error}
      (htext : textOf host directory charset files target = .error error) :
      Fails host files directory charset target error none
  /-- The golden output cannot be opened. -/
  | unopened {text : WideText} {cause : FileError}
      (htext : textOf host directory charset files target = .ok text)
      (hopen : files.write (directory ++ target.golden) [] = .error cause) :
      Fails host files directory charset target (.file cause) none
  /-- The text holds halves of pairs, which no file can store. -/
  | unstorable {text : WideText} {opened : FileTree} {halves : HalfRow}
      (htext : textOf host directory charset files target = .ok text)
      (hopen : files.write (directory ++ target.golden) [] = .ok opened)
      (hhalves : text.asText = .error halves) :
      Fails host files directory charset target (.file (.unencodable halves)) (some [])
  /-- The console refuses to report the golden output, which is written. -/
  | unprintable {text : Text} {opened : FileTree} {halves : HalfRow}
      (htext : textOf host directory charset files target = .ok (.ofText text))
      (hopen : files.write (directory ++ target.golden) [] = .ok opened)
      (hhalves : host.console.refused? (updatedLine (directory ++ target.golden)) = some halves) :
      Fails host files directory charset target (.unprintable halves) (some (Utf8.encode text))

/-- Whether a tree comes from an earlier one by writing a file, if it is opened at all. -/
def Leaves (before after : FileTree) (path : Path) : Option Bytes → Prop
  | none => after = before
  | some content => Writes before after path content

/-- A target that fails ends the refresh. -/
theorem refresh_of_fails (h : Fails host files directory charset target error left) :
    ∃ after, Leaves files after (directory ++ target.golden) left ∧
      refresh host directory charset files target = { error := some error, files := after } := by
  cases h with
  | ungenerated htext => exact ⟨files, rfl, by simp only [refresh, htext]⟩
  | @unopened text cause htext hopen =>
    refine ⟨files, rfl, ?_⟩
    cases hstored : text.asText with
    | ok stored =>
      simp only [refresh, htext, FileTree.writeText, hstored,
        FileTree.write_eq_error_of_write hopen]
    | error halves => simp only [refresh, htext, FileTree.writeText, hstored, hopen]
  | unstorable htext hopen hhalves =>
    refine ⟨_, FileTree.writes_of_write hopen, ?_⟩
    simp only [refresh, htext, FileTree.writeText, hhalves, hopen]
  | @unprintable text opened halves htext hopen hhalves =>
    obtain ⟨after, hwrite⟩ := FileTree.exists_write_eq_ok_of_write hopen (Utf8.encode text)
    refine ⟨after, FileTree.writes_of_write hwrite, ?_⟩
    simp only [refresh, htext, FileTree.writeText, WideText.asText_ofText, hwrite, hhalves]

/-- A target fails, or its golden output is written and reported. -/
theorem fails_or_refreshed (host : Host) (files : FileTree) (directory : Path)
    (charset : Option WideText) (target : Target) :
    (∃ error left, Fails host files directory charset target error left) ∨
      ∃ (text : Text) (after : FileTree),
        textOf host directory charset files target = .ok (.ofText text) ∧
        files.write (directory ++ target.golden) (Utf8.encode text) = .ok after ∧
        refresh host directory charset files target =
          { updated := [directory ++ target.golden], files := after } := by
  cases htext : textOf host directory charset files target with
  | error error => exact .inl ⟨error, none, .ungenerated htext⟩
  | ok text =>
    cases hopen : files.write (directory ++ target.golden) [] with
    | error cause => exact .inl ⟨_, none, .unopened htext hopen⟩
    | ok opened =>
      cases hstored : text.asText with
      | error halves => exact .inl ⟨_, _, .unstorable htext hopen hstored⟩
      | ok stored =>
        rw [WideText.asText_eq_ok_iff] at hstored
        subst hstored
        cases hline : host.console.refused? (updatedLine (directory ++ target.golden)) with
        | some halves => exact .inl ⟨_, _, .unprintable htext hopen hline⟩
        | none =>
          obtain ⟨after, hwrite⟩ := FileTree.exists_write_eq_ok_of_write hopen (Utf8.encode stored)
          refine .inr ⟨stored, after, rfl, hwrite, ?_⟩
          simp only [refresh, htext, FileTree.writeText, WideText.asText_ofText, hwrite, hline]

/-- What a refresh of a target that does not fail leaves. -/
theorem exists_writes_of_refresh
    (h : (refresh host directory charset files target).error = none) :
    ∃ (text : Text) (after : FileTree),
      textOf host directory charset files target = .ok (.ofText text) ∧
      Writes files after (directory ++ target.golden) (Utf8.encode text) ∧
      refresh host directory charset files target =
        { updated := [directory ++ target.golden], files := after } := by
  obtain ⟨error, left, hfails⟩ | ⟨text, after, htext, hwrite, hrefresh⟩ :=
    fails_or_refreshed host files directory charset target
  · obtain ⟨after, -, hrefresh⟩ := refresh_of_fails hfails
    rw [hrefresh] at h
    cases h
  · exact ⟨text, after, htext, FileTree.writes_of_write hwrite, hrefresh⟩

/-- A refresh of a target writes its golden output, if anything. -/
theorem exists_leaves_refresh (host : Host) (files : FileTree) (directory : Path)
    (charset : Option WideText) (target : Target) :
    ∃ left, Leaves files (refresh host directory charset files target).files
      (directory ++ target.golden) left := by
  obtain ⟨error, left, hfails⟩ | ⟨text, after, -, hwrite, hrefresh⟩ :=
    fails_or_refreshed host files directory charset target
  · obtain ⟨after, hleaves, hrefresh⟩ := refresh_of_fails hfails
    exact ⟨left, by rwa [hrefresh]⟩
  · exact ⟨some _, by rw [hrefresh]; exact FileTree.writes_of_write hwrite⟩

/-- The text of a target depends on its header only. -/
theorem textOf_of_read {text : WideText}
    (htext : textOf host directory charset before target = .ok text)
    (h : ∀ bytes, before.read (directory ++ target.header) = .ok bytes →
      after.read (directory ++ target.header) = .ok bytes) :
    textOf host directory charset after target = .ok text := by
  unfold textOf at htext ⊢
  cases charset with
  | none => cases htext
  | some name =>
    obtain ⟨_, ⟨hname, hread, hcharset, hdecode⟩, hgenerate⟩ :=
      HeaderFile.generate_eq_ok_iff.mp htext
    exact HeaderFile.generate_eq_ok_iff.mpr
      ⟨_, ⟨hname, h _ hread, hcharset, hdecode⟩, hgenerate⟩

/-- A refreshed target is up to date. -/
theorem upToDate_of_refresh (hheader : Descends target.header) (hgolden : Descends target.golden)
    (hne : storedNames target.header ≠ storedNames target.golden)
    (h : (refresh host directory charset files target).error = none) :
    UpToDate host (refresh host directory charset files target).files directory charset target := by
  obtain ⟨text, after, htext, hwrites, hrefresh⟩ := exists_writes_of_refresh h
  rw [hrefresh]
  exact ⟨text, textOf_of_read htext fun _ => hwrites.read_append_eq hgolden hheader hne,
    hwrites.read_eq⟩

/-! ## All targets -/

/-- What no refresh of a single target changes is not changed by a refresh. -/
theorem refreshAll_preserves (holds : FileTree → Prop)
    (hstep : ∀ target ∈ targets, ∀ files, holds files →
      holds (refresh host directory charset files target).files)
    (hfiles : holds files) : holds (refreshAll host directory charset files targets).files := by
  induction targets generalizing files with
  | nil => exact hfiles
  | cons target targets ih =>
    rw [List.forall_mem_cons] at hstep
    have hfirst := hstep.1 files hfiles
    rw [refreshAll]
    split
    · exact hfirst
    · exact ih hstep.2 hfirst

/-- A refresh leaves the files that are no golden outputs. -/
theorem read_refreshAll {bytes : Bytes} (hpath : Descends path)
    (hgoldens : ∀ target ∈ targets,
      Descends target.golden ∧ storedNames path ≠ storedNames target.golden)
    (hread : files.read (directory ++ path) = .ok bytes) :
    (refreshAll host directory charset files targets).files.read (directory ++ path) =
      .ok bytes := by
  refine refreshAll_preserves (·.read (directory ++ path) = .ok bytes)
    (fun target htarget files hread => ?_) hread
  obtain ⟨left, hleaves⟩ := exists_leaves_refresh host files directory charset target
  obtain ⟨hgolden, hne⟩ := hgoldens target htarget
  cases left with
  | none =>
    have hsame : (refresh host directory charset files target).files = files := hleaves
    rw [hsame]
    exact hread
  | some content => exact Writes.read_append_eq hleaves hgolden hpath hne hread

/-- A target that is up to date stays so while other ones are refreshed. -/
theorem UpToDate.refreshAll (h : UpToDate host files directory charset target)
    (hapart : Apart (target :: targets)) :
    UpToDate host (refreshAll host directory charset files targets).files directory charset
      target := by
  obtain ⟨text, htext, hread⟩ := h
  have hself : target ∈ target :: targets := List.mem_cons_self
  have hdescends : ∀ other ∈ targets, Descends other.golden := fun other hother =>
    hapart.golden_descends other (List.mem_cons_of_mem target hother)
  refine ⟨text, textOf_of_read htext fun _ => ?_, ?_⟩
  · refine read_refreshAll (hapart.header_descends target hself) fun other hother => ?_
    exact ⟨hdescends other hother,
      hapart.header_ne target hself other (List.mem_cons_of_mem target hother)⟩
  · refine read_refreshAll (hapart.golden_descends target hself) (fun other hother => ?_) hread
    exact ⟨hdescends other hother, hapart.golden_ne hother⟩

/-- A refresh that comes to its end has refreshed its first target, and then the others. -/
theorem refreshAll_cons_eq_none_iff :
    (refreshAll host directory charset files (target :: targets)).error = none ↔
      (refresh host directory charset files target).error = none ∧
      (refreshAll host directory charset (refresh host directory charset files target).files
        targets).error = none := by
  rw [refreshAll]
  cases herror : (refresh host directory charset files target).error <;> simp [herror]

theorem files_refreshAll_cons (h : (refresh host directory charset files target).error = none) :
    (refreshAll host directory charset files (target :: targets)).files =
      (refreshAll host directory charset (refresh host directory charset files target).files
        targets).files := by
  simp only [refreshAll, h, Option.isSome_none, Bool.false_eq_true, if_false]

/-- **A refresh that comes to its end leaves all up to date.** -/
theorem upToDate_of_refreshAll (hapart : Apart targets)
    (h : (Refresh.refreshAll host directory charset files targets).error = none) :
    ∀ target ∈ targets,
      UpToDate host (Refresh.refreshAll host directory charset files targets).files directory
        charset target := by
  induction targets generalizing files with
  | nil => exact fun _ => nofun
  | cons target targets ih =>
    obtain ⟨hfirst, hothers⟩ := refreshAll_cons_eq_none_iff.mp h
    have hself : target ∈ target :: targets := List.mem_cons_self
    have hnext := upToDate_of_refresh (hapart.header_descends target hself)
      (hapart.golden_descends target hself) (hapart.header_ne target hself target hself) hfirst
    rw [files_refreshAll_cons hfirst, List.forall_mem_cons]
    exact ⟨hnext.refreshAll hapart,
      ih (hapart.sublist (List.sublist_cons_self target targets)) hothers⟩

end Refresh

end StubVector
