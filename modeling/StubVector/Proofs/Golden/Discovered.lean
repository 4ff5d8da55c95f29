import Mathlib.Data.List.Infix
import Mathlib.Data.List.Lex
import Mathlib.Data.List.Nodup
import StubVector.Golden.Discovery
import StubVector.Proofs.Glob.Selected
import StubVector.Proofs.Golden.Loading

/-!
# What a discovery finds

Without another pattern, a discovery finds a test for each header below the golden directory, in
ascending order of their names, or ends with the fault of the first header in this order whose spec
cannot be loaded. What it finds depends on what stands where, not on how it is listed.

* `Discovery.IsHeader`: the headers.
* `Discovery.precede_iff`: the order of headers, as a linear order of their names.
* `Discovery.mem_headers_iff`, `Discovery.ascending_headers`: the headers are found, in that order.
* `Discovery.exists_headers_of_isShort`: they are found where no path is too long.
* `Discovery.Discovered`, `Discovery.FirstFault`: what a discovery gives.
* `Discovery.tests_discovered`: **each header is found once, in order, or all is given up**.
-/

namespace StubVector

/-- A code point is known by its number. -/
theorem CodePoint.value_injective : Function.Injective CodePoint.value := by
  -- no character has the number of half of a pair
  have hne : ∀ (c : Char) (offset : Fin 0x800), c.toNat ≠ 0xD800 + offset.val := by
    intro c offset heq
    have hvalid : c.toNat < 0xD800 ∨ 0xDFFF < c.toNat ∧ c.toNat < 0x110000 := c.valid
    omega
  rintro (c | offset) (d | other) h
  · exact congrArg char (Char.toNat_inj.mp h)
  · exact absurd h (hne c other)
  · exact absurd h.symm (hne d offset)
  · exact congrArg half (Fin.ext (Nat.add_left_cancel h))

namespace Discovery

open FileTree (Proper Alike)
open Glob (affixes accept_affixes_iff Selects Asked Answers)

variable {loader : Yaml.Loader} {files other : FileTree} {workingDirectory : Text}
  {names others : List WideText} {name : WideText} {selected : List (List WideText)}
  {header : Path} {found : List Path} {tests : List GoldenTest} {fault : SpecFault}

/-! ## The order of headers -/

theorem orderKey_injective : Function.Injective orderKey :=
  List.map_injective_iff.mpr (List.map_injective_iff.mpr CodePoint.value_injective)

/-- Names come before others if the rows of their numbers do, name by name. -/
theorem precede_iff : precede names others = true ↔ orderKey names < orderKey others := by
  have hname : ∀ name other : List Nat, name.lex other Nat.blt = true ↔ name < other := by
    intro name other
    rw [List.lex_eq_true_iff_lex]
    simp only [Nat.blt_eq]
    rfl
  rw [precede, List.lex_eq_true_iff_lex]
  simp only [hname]
  rfl

-- The texts of the paths would come in the other order, since a hyphen comes before a separator.
example : precede ["a".toList, "test_x.h".toList] ["a-b".toList, "test_x.h".toList] = true := by
  decide

/-- The order in which names are sorted. -/
theorem not_precede_iff : (!precede others names) = true ↔ orderKey names ≤ orderKey others := by
  rw [Bool.not_eq_true', ← Bool.not_eq_true, precede_iff, not_lt]

/-- Whether paths are in strictly ascending order, name by name. -/
def Ascending (paths : List Path) : Prop :=
  paths.Pairwise fun path later => orderKey path.names < orderKey later.names

instance (paths : List Path) : Decidable (Ascending paths) :=
  inferInstanceAs (Decidable (paths.Pairwise _))

/-- Sorting puts names that differ in strictly ascending order. -/
theorem ascending_inOrder (h : selected.Nodup) : Ascending (inOrder selected) := by
  let before (names others : List WideText) : Bool := !precede others names
  have htrans : ∀ a b c, before a b = true → before b c = true → before a c = true :=
    fun a b c hab hbc => not_precede_iff.mpr
      ((not_precede_iff.mp hab).trans (not_precede_iff.mp hbc))
  have htotal : ∀ a b, (before a b || before b a) = true := fun a b =>
    Bool.or_eq_true _ _ |>.mpr <|
      (le_total _ _).imp not_precede_iff.mpr not_precede_iff.mpr
  have hsorted := List.pairwise_mergeSort htrans htotal selected
  have hnodup := (List.mergeSort_perm selected before).nodup_iff.mpr h
  rw [Ascending, inOrder, List.pairwise_map]
  refine (hsorted.and hnodup).imp ?_
  rintro names others ⟨hpair, hne⟩
  exact lt_of_le_of_ne (not_precede_iff.mp hpair) fun heq => hne (orderKey_injective heq)

theorem mem_inOrder_iff : header ∈ inOrder selected ↔ ∃ names ∈ selected, { names } = header := by
  simp [inOrder, List.mem_mergeSort]

theorem Ascending.nodup {paths : List Path} (h : Ascending paths) : paths.Nodup := by
  refine h.imp ?_
  rintro path _ hlt rfl
  exact lt_irrefl _ hlt

/-- Paths in strictly ascending order are known by which they are. -/
theorem Ascending.eq_of_mem_iff {paths others : List Path} (h : Ascending paths)
    (hothers : Ascending others) (hmem : ∀ path, path ∈ paths ↔ path ∈ others) :
    paths = others := by
  have hperm : paths.Perm others :=
    (List.perm_ext_iff_of_nodup h.nodup hothers.nodup).mpr hmem
  exact hperm.eq_of_pairwise (fun _ _ _ _ hlt hgt => absurd hlt (lt_asymm hgt)) h hothers

/-! ## Headers -/

/-- How the name of a header starts. -/
def headerFront : WideText := "test_".toList

/-- How the name of a header ends. -/
def headerBack : WideText := ".h".toList

/-- Whether a name is that of a header. -/
structure IsHeaderName (name : WideText) : Prop where
  starts : headerFront <+: name
  ends : headerBack <:+ name

/-- The headers: the files below the golden directory that have the name of a header. -/
inductive IsHeader (files : FileTree) : Path → Prop
  | file {below : List WideText} {name : WideText} {content : Bytes} (hname : IsHeaderName name)
      (hstanding : files.stands? (root ++ below ++ [name]) = some (some content)) :
      IsHeader files { names := root ++ below ++ [name] }

/-- The pieces for the names of headers. -/
def headerPieces : List Glob.Piece := affixes headerFront headerBack

theorem parse_defaultPattern :
    Glob.parse (patternOf none) = .ok ([.anyDepth, .pieces headerPieces], false) := by
  decide +kernel

/-- The pieces stand for the names of headers; their front and back do not overlap. -/
theorem accept_headerPieces_iff : Glob.accept headerPieces name = true ↔ IsHeaderName name := by
  rw [headerPieces, accept_affixes_iff]
  constructor
  · rintro ⟨middle, rfl⟩
    exact ⟨⟨middle ++ headerBack, (List.append_assoc _ _ _).symm⟩, ⟨_, rfl⟩⟩
  · rintro ⟨⟨rest, rfl⟩, hends⟩
    by_cases hlong : headerBack.length ≤ rest.length
    · obtain ⟨middle, rfl⟩ := List.suffix_of_suffix_length_le hends
        (List.suffix_append headerFront rest) hlong
      exact ⟨middle, (List.append_assoc _ _ _).symm⟩
    · -- otherwise the rest ends the back, and the name is too short for both
      have hrest : rest ∈ headerBack.tails := (List.mem_tails _ _).mpr <|
        List.suffix_of_suffix_length_le (List.suffix_append headerFront rest) hends
          (Nat.le_of_not_le hlong)
      have hshort : ∀ rest ∈ headerBack.tails, ¬ headerBack.length ≤ rest.length →
          ¬ headerBack <:+ headerFront ++ rest := by
        decide
      exact absurd hends (hshort rest hrest hlong)

theorem selects_iff : Selects files root headerPieces names ↔ IsHeader files { names } := by
  constructor
  · rintro ⟨haccept, hstanding⟩
    exact .file (accept_headerPieces_iff.mp haccept) hstanding
  · rintro ⟨hname, hstanding⟩
    exact .file (accept_headerPieces_iff.mpr hname) hstanding

/-- The golden directory is found where its names lead. -/
theorem node?_root (files : FileTree) : files.node? { names := root } = files.found? root := by
  have hstored : FileTree.storedNames { names := root } = root := by decide
  have hdown : ∀ name ∈ root, name ≠ Path.above := by decide
  have hshort : FileTree.IsShort root := by decide +kernel
  rw [FileTree.node?]
  cases hfound : files.found? root with
  | some child =>
    obtain hlocate | ⟨-, hlong⟩ := FileTree.locate_of_found? hstored hdown hfound
    · rw [hlocate]
      exact hfound
    · exact absurd hshort hlong
  | none =>
    cases hlocate : files.locate { names := root } with
    | error refusal => rfl
    | ok place =>
      obtain ⟨⟨⟩, -, hwalk⟩ := bind_eq_ok_iff.mp hlocate
      rw [hstored] at hwalk
      rw [FileTree.walk_down hdown hwalk]
      exact hfound

/-- A discovery sorts what the pattern for headers selects. -/
theorem headers_eq_ok_iff : headers files none = .ok found ↔
    (files.found? root = none ∧ [] = found) ∨ ((files.found? root).isSome = true ∧
      ∃ selected, Glob.select files root [.anyDepth, .pieces headerPieces] false = .ok selected ∧
        inOrder selected = found) := by
  rw [headers, node?_root]
  cases files.found? root with
  | none => simp
  | some child =>
    simp only [parse_defaultPattern, Except.mapError, bind, Except.bind, reduceCtorEq, false_and,
      false_or, Option.isSome_some, true_and]
    cases Glob.select files root [.anyDepth, .pieces headerPieces] false <;>
      simp [pure, Except.pure]

section Headers

variable (h : files.Proper)
include h

/-- When the headers are found: if the system can tell what stands at the places that it is asked
for. -/
theorem exists_headers_iff : (∃ found, headers files none = .ok found) ↔
    ((files.found? root).isSome = true →
      ∀ place, Asked files root headerPieces place → Answers files place) := by
  simp only [headers_eq_ok_iff]
  cases hroot : files.found? root with
  | none => simp
  | some child =>
    have hstanding : (files.stands? root).isSome = true := by simp [FileTree.stands?, hroot]
    simp [← Glob.exists_select_iff h hstanding]

/-- So they are found where no path is too long for the system. -/
theorem exists_headers_of_isShort (hshort : ∀ below,
    (files.stands? (root ++ below)).isSome = true → FileTree.IsShort (root ++ below)) :
    ∃ found, headers files none = .ok found := by
  have hanswers : ∀ below, (files.stands? (root ++ below)).isSome = true →
      Answers files (root ++ below) := by
    intro below hstanding
    obtain ⟨child, hchild⟩ :=
      Option.isSome_iff_exists.mp ((Option.isSome_map).symm.trans hstanding)
    exact ⟨true, h.reaches_of_isShort hchild (hshort below hstanding)⟩
  rw [exists_headers_iff h]
  rintro hroot _ (_ | hstanding | ⟨-, hstanding⟩)
  · have hbase := hanswers []
    rw [List.append_nil, FileTree.stands?, Option.isSome_map] at hbase
    exact hbase hroot
  · exact hanswers _ (by rw [hstanding]; rfl)
  · rw [List.append_assoc] at hstanding ⊢
    exact hanswers _ hstanding

/-- What is found are the headers. -/
theorem mem_headers_iff (hfound : headers files none = .ok found) :
    header ∈ found ↔ IsHeader files header := by
  obtain ⟨hroot, rfl⟩ | ⟨hroot, selected, hselect, rfl⟩ := headers_eq_ok_iff.mp hfound
  · refine iff_of_false nofun ?_
    rintro ⟨-, hstanding⟩
    rw [FileTree.stands?, List.append_assoc, FileTree.found?_append, hroot] at hstanding
    cases hstanding
  · have hstanding : (files.stands? root).isSome = true := by
      rwa [FileTree.stands?, Option.isSome_map]
    rw [mem_inOrder_iff]
    constructor
    · rintro ⟨names, hnames, rfl⟩
      exact selects_iff.mp ((Glob.mem_select_iff h hstanding hselect).mp hnames)
    · intro hheader
      obtain ⟨hname, hfile⟩ := hheader
      refine ⟨_, (Glob.mem_select_iff h hstanding hselect).mpr ?_, rfl⟩
      exact selects_iff.mpr (.file hname hfile)

/-- They are found in strictly ascending order. -/
theorem ascending_headers (hfound : headers files none = .ok found) : Ascending found := by
  obtain ⟨-, rfl⟩ | ⟨hroot, selected, hselect, rfl⟩ := headers_eq_ok_iff.mp hfound
  · exact .nil
  · obtain ⟨child, hchild⟩ := Option.isSome_iff_exists.mp hroot
    exact ascending_inOrder (Glob.nodup_select h hchild hselect)

/-- What is found does not depend on how directories are listed. -/
theorem headers_congr (hother : other.Proper) (halike : Alike files other)
    (hfound : headers files none = .ok found) : headers other none = .ok found := by
  have hasked : ∀ place, Asked other root headerPieces place →
      Asked files root headerPieces place := by
    rintro _ (_ | hstanding | ⟨haccept, hstanding⟩)
    · exact .base
    · exact .directory (halike.stands?_eq.trans hstanding)
    · exact .entry haccept (halike.stands?_eq ▸ hstanding)
  have hexists : ∃ found, headers other none = .ok found := by
    rw [exists_headers_iff hother, ← halike.isSome_found?]
    intro hroot place hplace
    obtain ⟨answer, hanswer⟩ :=
      (exists_headers_iff h).mp ⟨found, hfound⟩ hroot place (hasked place hplace)
    exact ⟨answer, halike.reaches_eq ▸ hanswer⟩
  obtain ⟨others, hothers⟩ := hexists
  have hheader : ∀ header, IsHeader files header ↔ IsHeader other header := by
    intro header
    constructor
    · rintro ⟨hname, hstanding⟩
      exact .file hname (halike.stands?_eq.symm.trans hstanding)
    · rintro ⟨hname, hstanding⟩
      exact .file hname (halike.stands?_eq.trans hstanding)
  have heq : others = found := by
    refine (ascending_headers hother hothers).eq_of_mem_iff (ascending_headers h hfound) ?_
    intro header
    rw [mem_headers_iff hother hothers, mem_headers_iff h hfound, hheader]
  rw [hothers, heq]

end Headers

/-! ## Specs -/

/-- Headers are loaded if each of their specs is. -/
theorem load_eq_ok_iff {headers : List Path} :
    load loader files workingDirectory headers = .ok tests ↔ headers = tests.map (·.header) ∧
      ∀ test ∈ tests, Spec.load loader files workingDirectory test.header = .ok test := by
  induction headers generalizing tests with
  | nil => cases tests <;> simp [load]
  | cons header headers ih =>
    rw [load]
    constructor
    · intro h
      obtain ⟨test, htest, h⟩ := bind_eq_ok_iff.mp h
      obtain ⟨others, hothers, h⟩ := bind_eq_ok_iff.mp h
      cases h
      obtain ⟨rfl, hloaded⟩ := ih.mp hothers
      obtain ⟨-, rfl, -⟩ := Spec.load_eq_ok_iff.mp htest
      exact ⟨rfl, List.forall_mem_cons.mpr ⟨htest, hloaded⟩⟩
    · rintro ⟨hheaders, hloaded⟩
      cases tests with
      | nil => cases hheaders
      | cons test others =>
        cases hheaders
        rw [List.forall_mem_cons] at hloaded
        simp only [hloaded.1, ih.mpr ⟨rfl, hloaded.2⟩, bind, Except.bind]
        rfl

/-- Otherwise the first fault is given. -/
theorem load_eq_error_iff {headers : List Path} :
    load loader files workingDirectory headers = .error fault ↔
      ∃ front header back, headers = front ++ header :: back ∧
        (∀ earlier ∈ front, ∃ test, Spec.load loader files workingDirectory earlier = .ok test) ∧
        Spec.load loader files workingDirectory header = .error fault := by
  induction headers with
  | nil => simp [load]
  | cons header headers ih =>
    rw [load]
    cases hload : Spec.load loader files workingDirectory header with
    | error cause =>
      constructor
      · intro h
        cases h
        exact ⟨[], header, headers, rfl, nofun, hload⟩
      · rintro ⟨front, other, back, hsplit, hfront, hother⟩
        cases front with
        | nil =>
          cases hsplit
          cases hload.symm.trans hother
          rfl
        | cons first front =>
          cases hsplit
          obtain ⟨test, htest⟩ := hfront header List.mem_cons_self
          cases hload.symm.trans htest
    | ok test =>
      have hrest : ((Except.ok test).bind fun test =>
          (load loader files workingDirectory headers).bind fun tests => .ok (test :: tests)) =
            .error fault ↔ load loader files workingDirectory headers = .error fault := by
        cases load loader files workingDirectory headers <;> simp [Except.bind]
      refine hrest.trans (ih.trans ?_)
      constructor
      · rintro ⟨front, other, back, rfl, hfront, hother⟩
        exact ⟨header :: front, other, back, rfl,
          List.forall_mem_cons.mpr ⟨⟨test, hload⟩, hfront⟩, hother⟩
      · rintro ⟨front, other, back, hsplit, hfront, hother⟩
        cases front with
        | nil =>
          cases hsplit
          cases hload.symm.trans hother
        | cons first front =>
          cases hsplit
          exact ⟨front, other, back, rfl, (List.forall_mem_cons.mp hfront).2, hother⟩

/-- A spec is loaded from what stands beside its header. -/
theorem load_congr (halike : Alike files other) (loader : Yaml.Loader) (workingDirectory : Text)
    (header : Path) :
    Spec.load loader files workingDirectory header =
      Spec.load loader other workingDirectory header := by
  have hread : files.read = other.read := funext fun _ => halike.read_eq
  have hbeside : Spec.readBeside files = Spec.readBeside other := by
    funext workingDirectory spec name
    simp only [Spec.readBeside, hread]
  simp only [Spec.load, halike.reaches_eq, hread, hbeside]

/-! ## What a discovery gives -/

/-- Whether tests are those of all headers, each once, in ascending order, and as their specs are
loaded. -/
structure Discovered (loader : Yaml.Loader) (files : FileTree) (workingDirectory : Text)
    (tests : List GoldenTest) : Prop where
  ascending : Ascending (tests.map (·.header))
  isHeader : ∀ test ∈ tests, IsHeader files test.header
  complete : ∀ header, IsHeader files header → ∃ test ∈ tests, test.header = header
  loaded : ∀ test ∈ tests, Spec.load loader files workingDirectory test.header = .ok test

/-- Whether the fault is that of a header while the specs of all headers before it can be loaded. -/
structure FirstFault (loader : Yaml.Loader) (files : FileTree) (workingDirectory : Text)
    (header : Path) (fault : SpecFault) : Prop where
  isHeader : IsHeader files header
  faulty : Spec.load loader files workingDirectory header = .error fault
  first : ∀ earlier, IsHeader files earlier → orderKey earlier.names < orderKey header.names →
    ∃ test, Spec.load loader files workingDirectory earlier = .ok test

section Headers

variable (h : files.Proper) (hfound : headers files none = .ok found)
include h hfound

theorem load_eq_ok_iff_discovered :
    load loader files workingDirectory found = .ok tests ↔
      Discovered loader files workingDirectory tests := by
  have hsorted := ascending_headers h hfound
  rw [load_eq_ok_iff]
  constructor
  · rintro ⟨rfl, hloaded⟩
    refine ⟨hsorted, fun test htest => ?_, fun header hheader => ?_, hloaded⟩
    · exact (mem_headers_iff h hfound).mp (List.mem_map_of_mem htest)
    · exact List.mem_map.mp ((mem_headers_iff h hfound).mpr hheader)
  · intro hdiscovered
    refine ⟨hsorted.eq_of_mem_iff hdiscovered.ascending fun header => ?_, hdiscovered.loaded⟩
    rw [mem_headers_iff h hfound, List.mem_map]
    constructor
    · exact hdiscovered.complete header
    · rintro ⟨test, htest, rfl⟩
      exact hdiscovered.isHeader test htest

theorem load_eq_error_iff_firstFault :
    load loader files workingDirectory found = .error fault ↔
      ∃ header, FirstFault loader files workingDirectory header fault := by
  have hsorted := ascending_headers h hfound
  rw [load_eq_error_iff]
  constructor
  · rintro ⟨front, header, back, rfl, hfront, hfaulty⟩
    have hheader : header ∈ front ++ header :: back := List.mem_append_right _ List.mem_cons_self
    refine ⟨header, (mem_headers_iff h hfound).mp hheader, hfaulty, fun earlier hearlier hlt => ?_⟩
    have hlater := (List.pairwise_cons.mp (List.pairwise_append.mp hsorted).2.1).1
    -- what comes before the header stands in front of it
    rcases List.mem_append.mp ((mem_headers_iff h hfound).mpr hearlier) with hmem | hmem
    · exact hfront earlier hmem
    · rcases List.mem_cons.mp hmem with rfl | hmem
      · exact absurd hlt (lt_irrefl _)
      · exact absurd hlt (lt_asymm (hlater earlier hmem))
  · rintro ⟨header, hheader, hfaulty, hfirst⟩
    obtain ⟨front, back, rfl⟩ := List.append_of_mem ((mem_headers_iff h hfound).mpr hheader)
    refine ⟨front, header, back, rfl, fun earlier hearlier => ?_, hfaulty⟩
    refine hfirst earlier ((mem_headers_iff h hfound).mp (List.mem_append_left _ hearlier)) ?_
    exact (List.pairwise_append.mp hsorted).2.2 earlier hearlier header List.mem_cons_self

end Headers

/-- A spec with one run. -/
def plainSpec : Text := [
  "\x7b\"runs\": [\x7b\"name\": \"r\",",
  "\"input\": \x7b\"args\": [\"\x7bheader\x7d\"]\x7d\x7d]\x7d"].flatMap String.toList

/-- Two directories with a header each, the one listed first that comes last, and a directory with
the name of a header. -/
def nestedFiles : FileTree := .ofEntries [
  ("tests".toList, .directory [
    ("golden".toList, .directory [
      ("a-b".toList, .directory [
        ("test_x.h".toList, .file []),
        ("test_x_spec.yaml".toList, .file (Utf8.encode plainSpec))]),
      ("a".toList, .directory [
        ("test_d.h".toList, .directory []),
        ("test_x_spec.yaml".toList, .file (Utf8.encode plainSpec)),
        ("test_x.h".toList, .file [])])])])]

/-- The names of a file in a directory of the golden directory. -/
def namesIn (directory name : String) : List WideText :=
  root ++ [.ofText directory.toList, .ofText name.toList]

/-- The test of the header in a directory. -/
def plainTest (directory : String) : GoldenTest where
  header := { names := namesIn directory "test_x.h" }
  spec := { names := namesIn directory "test_x_spec.yaml" }
  runs := [{ name := "r".toList, arguments := ["\x7bheader\x7d".toList], expect := {} }]

theorem headers_nestedFiles : headers nestedFiles none =
    .ok [(plainTest "a").header, (plainTest "a-b").header] := by
  have hselect : Glob.select nestedFiles root [.anyDepth, .pieces headerPieces] false =
      .ok [namesIn "a-b" "test_x.h", namesIn "a" "test_x.h"] := by
    decide +kernel
  refine headers_eq_ok_iff.mpr (.inr ⟨by decide +kernel, _, hselect, ?_⟩)
  refine (ascending_inOrder (by decide +kernel)).eq_of_mem_iff (by decide +kernel) ?_
  intro header
  simp only [mem_inOrder_iff, List.mem_cons, List.not_mem_nil, or_false, exists_eq_or_imp,
    exists_eq_left, plainTest]
  rw [or_comm, eq_comm, @eq_comm _ _ header]

end Discovery

end StubVector
