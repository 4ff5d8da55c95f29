import Mathlib.Data.List.Forall2
import StubVector.Golden.Verdict

/-!
# Sound verdicts

A verdict says no more and no less than which expectations fail.

* `Verdict.Meets`: everything holds that is expected of a run.
* `Verdict.Fails`: the expectations that fail, as mismatches.
* `Verdict.Describes`: lines that tell all of them, in order, and then the error output.
* `Verdict.passes_verdict_iff`: **a run passes if everything holds that is expected of it**.
* `Verdict.describes_details`: **the details of a verdict describe what fails**.
* `Verdict.passes_testVerdict_iff`: a golden test passes if all its runs do.
-/

namespace StubVector

/-- The place of a mismatch among those of a run. -/
def Mismatch.rank : Mismatch → Nat
  | exitCode _ _ => 0
  | stdout => 1
  | stderr => 2
  | success => 3
  | error _ => 4

namespace Verdict

/-- Everything holds that is expected of a run. -/
structure Meets (expect : Expectation) (exit : Exit) : Prop where
  exitCode : ∀ expected ∈ expect.exitCode, exit.code = expected.code
  stdout : ∀ text ∈ expect.stdout, exit.stdout = text
  stderr : ∀ text ∈ expect.stderr, exit.stderr = text
  /-- An expected error is that of a run that fails. -/
  failure : ∀ part ∈ expect.error, exit.code ≠ 0
  error : ∀ part ∈ expect.error, part <:+: exit.stderr

/-- An expectation of a run fails. -/
inductive Fails (expect : Expectation) (exit : Exit) : Mismatch → Prop where
  | exitCode {expected : ExpectedExit} (expects : expected ∈ expect.exitCode)
    (fails : exit.code ≠ expected.code) : Fails expect exit (.exitCode expected exit.code)
  | stdout {text : WideText} (expects : text ∈ expect.stdout) (fails : exit.stdout ≠ text) :
    Fails expect exit .stdout
  | stderr {text : WideText} (expects : text ∈ expect.stderr) (fails : exit.stderr ≠ text) :
    Fails expect exit .stderr
  | success {part : WideText} (expects : part ∈ expect.error) (fails : exit.code = 0) :
    Fails expect exit .success
  | error {part : WideText} (expects : part ∈ expect.error) (fails : ¬ part <:+: exit.stderr) :
    Fails expect exit (.error part)

/-- Whether a line begins a block with what a run printed to its error output. -/
def beginsBlock (line : WideText) : Bool :=
  Text.startsWith (WideText.ofText "captured stderr:".toList) line

/-- The line of the error output that a line of such a block shows. -/
def captured? (line : WideText) : Option WideText :=
  Text.dropFront? (WideText.ofText "stderr | ".toList) line

/-- Lines that describe what fails of a run. There are none if nothing fails; otherwise there is one
for every expectation that fails, in order, and then one block with the error output. -/
inductive Describes (expect : Expectation) (exit : Exit) : List WideText → Prop where
  | meets (meets : Meets expect exit) : Describes expect exit []
  | fails {failing : List Mismatch} {block : List WideText} (nonempty : failing ≠ [])
    (ascending : failing.Pairwise (·.rank < ·.rank))
    (complete : ∀ mismatch, mismatch ∈ failing ↔ Fails expect exit mismatch)
    (apart : ∀ mismatch ∈ failing, beginsBlock mismatch.message = false)
    (begins : block.map beginsBlock = true :: exit.stderr.splitLines.map fun _ => false)
    (shows : block.filterMap captured? = exit.stderr.splitLines) :
    Describes expect exit (failing.map (·.message) ++ block)

variable {expect : Expectation} {exit : Exit} {mismatch : Mismatch} {holds : Bool}

/-! ## Expectations that fail -/

theorem meets_iff_not_fails : Meets expect exit ↔ ∀ mismatch, ¬ Fails expect exit mismatch := by
  constructor
  · intro h mismatch hfails
    cases hfails with
    | exitCode hexpects hfails => exact hfails (h.exitCode _ hexpects)
    | stdout hexpects hfails => exact hfails (h.stdout _ hexpects)
    | stderr hexpects hfails => exact hfails (h.stderr _ hexpects)
    | success hexpects hfails => exact h.failure _ hexpects hfails
    | error hexpects hfails => exact hfails (h.error _ hexpects)
  · intro h
    constructor
    · exact fun _ hexpects => by_contra fun hfails => h _ (.exitCode hexpects hfails)
    · exact fun _ hexpects => by_contra fun hfails => h _ (.stdout hexpects hfails)
    · exact fun _ hexpects => by_contra fun hfails => h _ (.stderr hexpects hfails)
    · exact fun _ hexpects hfails => h _ (.success hexpects hfails)
    · exact fun _ hexpects => by_contra fun hfails => h _ (.error hexpects hfails)

theorem mem_mismatchUnless_iff {other : Mismatch} :
    other ∈ mismatchUnless holds mismatch ↔ ¬ holds = true ∧ other = mismatch := by
  cases holds <;> simp [mismatchUnless]

/-- The mismatches of a run are the expectations that fail. -/
theorem mem_mismatches_iff : mismatch ∈ mismatches expect exit ↔ Fails expect exit mismatch := by
  simp only [mismatches, List.mem_append, List.mem_flatMap, Option.mem_toList,
    mem_mismatchUnless_iff, beq_iff_eq, bne_iff_ne, not_not, Text.occursIn_iff]
  constructor
  · rintro (((⟨_, hexpects, hfails, rfl⟩ | ⟨_, hexpects, hfails, rfl⟩) |
      ⟨_, hexpects, hfails, rfl⟩) | ⟨_, hexpects, ⟨hfails, rfl⟩ | ⟨hfails, rfl⟩⟩)
    · exact .exitCode hexpects hfails
    · exact .stdout hexpects hfails
    · exact .stderr hexpects hfails
    · exact .success hexpects hfails
    · exact .error hexpects hfails
  · intro h
    cases h with
    | exitCode hexpects hfails => exact .inl (.inl (.inl ⟨_, hexpects, hfails, rfl⟩))
    | stdout hexpects hfails => exact .inl (.inl (.inr ⟨_, hexpects, hfails, rfl⟩))
    | stderr hexpects hfails => exact .inl (.inr ⟨_, hexpects, hfails, rfl⟩)
    | success hexpects hfails => exact .inr ⟨_, hexpects, .inl ⟨hfails, rfl⟩⟩
    | error hexpects hfails => exact .inr ⟨_, hexpects, .inr ⟨hfails, rfl⟩⟩

theorem mismatches_eq_nil_iff : mismatches expect exit = [] ↔ Meets expect exit := by
  rw [meets_iff_not_fails, List.eq_nil_iff_forall_not_mem]
  exact forall_congr' fun mismatch => not_congr mem_mismatches_iff

theorem pairwise_mismatchUnless (R : Mismatch → Mismatch → Prop) :
    (mismatchUnless holds mismatch).Pairwise R := by
  cases holds <;> simp [mismatchUnless]

/-- What fails of one thing that may be expected. -/
theorem pairwise_flatMap_toList {α : Type} {R : Mismatch → Mismatch → Prop} {found : Option α}
    {failing : α → List Mismatch} (h : ∀ value, (failing value).Pairwise R) :
    (found.toList.flatMap failing).Pairwise R := by
  cases found with
  | none => exact .nil
  | some value => simpa using h value

/-- The mismatches of a run are in order, and no two are of the same kind. -/
theorem pairwise_rank_mismatches : (mismatches expect exit).Pairwise (·.rank < ·.rank) := by
  have hone {α : Type} {found : Option α} {holds : α → Bool} {mismatch : α → Mismatch} :
      (found.toList.flatMap fun value => mismatchUnless (holds value) (mismatch value)).Pairwise
        (·.rank < ·.rank) :=
    pairwise_flatMap_toList fun value => pairwise_mismatchUnless _
  -- what is left compares mismatches of different kinds
  simp only [mismatches, List.pairwise_append, hone, true_and, List.mem_append, List.mem_flatMap,
    mem_mismatchUnless_iff]
  refine ⟨⟨?_, ?_⟩, pairwise_flatMap_toList fun part => ?_, ?_⟩
  · rintro _ ⟨_, -, -, rfl⟩ _ ⟨_, -, -, rfl⟩
    simp [Mismatch.rank]
  · rintro _ (⟨_, -, -, rfl⟩ | ⟨_, -, -, rfl⟩) _ ⟨_, -, -, rfl⟩ <;> simp [Mismatch.rank]
  · rw [List.pairwise_append]
    refine ⟨pairwise_mismatchUnless _, pairwise_mismatchUnless _, fun _ hfirst _ hsecond => ?_⟩
    rw [(mem_mismatchUnless_iff.mp hfirst).2, (mem_mismatchUnless_iff.mp hsecond).2]
    simp [Mismatch.rank]
  · rintro _ ((⟨_, -, -, rfl⟩ | ⟨_, -, -, rfl⟩) | ⟨_, -, -, rfl⟩) _
      ⟨_, -, ⟨-, rfl⟩ | ⟨-, rfl⟩⟩ <;> simp [Mismatch.rank]

/-! ## Details -/

/-- No message of a mismatch looks like the beginning of a block. -/
theorem beginsBlock_message (mismatch : Mismatch) : beginsBlock mismatch.message = false := by
  cases mismatch <;> rfl

theorem map_beginsBlock_stderrBlock (stderr : WideText) :
    (stderrBlock stderr).map beginsBlock = true :: stderr.splitLines.map fun _ => false := by
  cases stderr with
  | nil => rfl
  | cons point rest =>
    rw [stderrBlock, if_neg (by simp), List.map_cons, List.map_map]
    rfl

theorem filterMap_captured?_stderrBlock (stderr : WideText) :
    (stderrBlock stderr).filterMap captured? = stderr.splitLines := by
  cases stderr with
  | nil => rfl
  | cons point rest =>
    have hline (line : WideText) : captured? ("stderr | ".toList ++ line) = some line :=
      Text.dropFront?_eq_some_iff.mpr rfl
    rw [stderrBlock, if_neg (by simp), List.filterMap_cons_none (by rfl), List.filterMap_map]
    exact (List.filterMap_congr fun line _ => hline line).trans List.filterMap_some

theorem details_eq (h : mismatches expect exit ≠ []) :
    details expect exit =
      (mismatches expect exit).map (·.message) ++ stderrBlock exit.stderr := by
  unfold details
  split
  · next hnil => exact absurd hnil h
  · next hcons => rw [hcons]

theorem details_eq_nil_iff : details expect exit = [] ↔ Meets expect exit := by
  rw [← mismatches_eq_nil_iff]
  by_cases h : mismatches expect exit = []
  · simp only [details, h]
  · simp [details_eq h, h]

/-- **The details of a verdict describe what fails.** -/
theorem describes_details : Describes expect exit (details expect exit) := by
  by_cases h : Meets expect exit
  · rw [details_eq_nil_iff.mpr h]
    exact .meets h
  · have hne := mismatches_eq_nil_iff.not.mpr h
    rw [details_eq hne]
    exact .fails hne pairwise_rank_mismatches (fun _ => mem_mismatches_iff)
      (fun mismatch _ => beginsBlock_message mismatch) (map_beginsBlock_stderrBlock _)
      (filterMap_captured?_stderrBlock _)

/-! ## Verdicts -/

/-- **A run passes if everything holds that is expected of it**, and only then. -/
theorem passes_verdict_iff {case : RunCase} :
    (case.verdict exit).passes = true ↔ Meets case.expect exit := by
  rw [RunVerdict.passes, List.isEmpty_iff]
  exact details_eq_nil_iff

end Verdict

/-- The verdict on a golden test, from the exits of its runs. -/
def GoldenTest.verdict (test : GoldenTest) (exits : List Exit) : TestVerdict where
  header := test.header
  runs := List.zipWith RunCase.verdict test.runs exits

namespace Verdict

/-- A golden test passes if everything holds that is expected of its runs, and only then. -/
theorem passes_testVerdict_iff {test : GoldenTest} {exits : List Exit}
    (h : exits.length = test.runs.length) :
    (test.verdict exits).passes = true ↔
      List.Forall₂ (fun case exit => Meets case.expect exit) test.runs exits := by
  rw [TestVerdict.passes, GoldenTest.verdict]
  generalize test.runs = cases at h ⊢
  induction cases generalizing exits with
  | nil => simp [List.length_eq_zero_iff.mp h]
  | cons case cases ih =>
    cases exits with
    | nil => cases h
    | cons exit exits =>
      rw [List.zipWith_cons_cons, List.all_cons, Bool.and_eq_true, List.forall₂_cons,
        passes_verdict_iff, ih (Nat.succ.inj h)]

end Verdict

end StubVector
