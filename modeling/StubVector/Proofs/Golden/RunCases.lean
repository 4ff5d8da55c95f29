import Mathlib.Data.List.Forall2
import Mathlib.Data.List.Nodup
import StubVector.Golden.Spec
import StubVector.Proofs.FileTree.Writing

/-!
# Run cases of a document

What the items of a spec say, as relations between values of a document and the parts of a run case,
and that the reading of a spec decides exactly these relations.

* `Spec.Prints`: what a run is expected to print.
* `Spec.Expects`: what is expected of a run.
* `Spec.IsRun`: an item describes a run case.
* `runCase_eq_ok_iff`: an item is read as the run case that it describes, if its name is new.
* `runCases_eq_ok_iff`: so are all items, if their names are distinct.
* `ofDocument_eq_ok_iff`: the documents that are read.
-/

namespace StubVector

/-- The value that stands for an exit code in a document. -/
def ExpectedExit.toYaml : ExpectedExit → Yaml
  | number code => .int code
  | flag failing => .bool failing

namespace Spec

/-- The value that stands in a document for something that may be missing. -/
def orNull {α : Type} (encode : α → Yaml) : Option α → Yaml
  | none => .null
  | some value => encode value

/-- What a run is expected to print, where a document has these values for the text itself and for
the name of a file with the text. -/
inductive Prints (readFile : WideText → Except SpecFault Text) : Yaml → Yaml →
    Option WideText → Prop where
  | nothing : Prints readFile .null .null none
  | given (text : WideText) : Prints readFile (.text text) .null (some text)
  | named {name : WideText} {text : Text} (read : readFile name = .ok text) :
    Prints readFile .null (.text name) (some (.ofText text))

/-- What is expected of a run, where a document has this value for it. -/
inductive Expects (readFile : WideText → Except SpecFault Text) : Yaml → Expectation → Prop where
  | nothing : Expects readFile .null {}
  | fields {fields : List (Yaml × Yaml)} {expect : Expectation}
    (exitCode : get fields "exit_code".toList = orNull ExpectedExit.toYaml expect.exitCode)
    (error : get fields "error".toList = orNull .text expect.error)
    (stdout : Prints readFile (get fields "stdout".toList) (get fields "stdout_file".toList)
      expect.stdout)
    (stderr : Prints readFile (get fields "stderr".toList) (get fields "stderr_file".toList)
      expect.stderr) :
    Expects readFile (.map fields) expect

/-- An item of a document describes a run case. -/
inductive IsRun (readFile : WideText → Except SpecFault Text) : Yaml → RunCase → Prop where
  | fields {fields given : List (Yaml × Yaml)} {case : RunCase}
    (name : get fields "name".toList = .text case.name)
    (input : get fields "input".toList = .map given)
    (arguments : get given "args".toList = .list (case.arguments.map .text))
    (header : .ofText headerPlaceholder ∈ case.arguments)
    (expect : Expects readFile (get fields "expect".toList) case.expect) :
    IsRun readFile (.map fields) case

variable {spec : Path} {readFile : WideText → Except SpecFault Text} {names : List WideText}
  {run : WideText} {index : Nat} {value item : Yaml} {items : List Yaml}
  {fields : List (Yaml × Yaml)} {case : RunCase} {cases : List RunCase}

/-! ## Values -/

/-- A step that succeeds before others, as `do` writes it. -/
theorem step_eq_ok_iff {α β : Type} {first : Except SpecFault α} {next : α → Except SpecFault β}
    {result : β} :
    (first >>= next) = .ok result ↔ ∃ value, first = .ok value ∧ next value = .ok result :=
  bind_eq_ok_iff

theorem pure_eq_ok_iff {α : Type} {value result : α} :
    (pure value : Except SpecFault α) = .ok result ↔ value = result :=
  Except.ok.injEq value result ▸ Iff.rfl

theorem map_some_eq_ok_iff {α : Type} {first : Except SpecFault α} {result : Option α} :
    first.map some = .ok result ↔ ∃ value, first = .ok value ∧ some value = result := by
  cases first <;> simp [Except.map]

theorem text?_eq_some_iff {text : WideText} : text? value = some text ↔ value = .text text := by
  cases value <;> simp [text?]

theorem map?_eq_some_iff : map? value = some fields ↔ value = .map fields := by
  cases value <;> simp [map?]

theorem list?_eq_some_iff : list? value = some items ↔ value = .list items := by
  cases value <;> simp [list?]

theorem exit?_eq_some_iff {exit : ExpectedExit} :
    exit? value = some exit ↔ value = exit.toYaml := by
  cases exit <;> cases value <;> simp [exit?, ExpectedExit.toYaml]

theorem require_eq_ok_iff {α : Type} {part : SpecPart} {type : SpecType} {found : Option α}
    {value : α} : require spec part type found = .ok value ↔ found = some value := by
  cases found <;> simp [require]

/-- A value that may be missing is null or can be read. -/
theorem optional_eq_ok_iff {α : Type} {read : Yaml → Except SpecFault α} {found : Option α} :
    optional value read = .ok found ↔
      value = .null ∧ found = none ∨
        value ≠ .null ∧ ∃ result, read value = .ok result ∧ found = some result := by
  unfold optional
  split
  · simp [eq_comm]
  · next hvalue =>
    have hne : value ≠ .null := hvalue
    cases read value <;> simp [Except.map, hne, eq_comm]

/-- A value that may be missing stands for what is read from it. -/
theorem optional_require_eq_ok_iff {α : Type} {part : SpecPart} {type : SpecType}
    {view? : Yaml → Option α} {encode : α → Yaml}
    (hview : ∀ value result, view? value = some result ↔ value = encode result)
    (hnull : view? .null = none) {found : Option α} :
    optional value (fun value => require spec part type (view? value)) = .ok found ↔
      value = orNull encode found := by
  simp only [optional_eq_ok_iff, require_eq_ok_iff, hview]
  cases found with
  | none => simp [orNull]
  | some result =>
    have hne : encode result ≠ .null := by
      intro h
      rw [← h, (hview _ _).mpr rfl] at hnull
      cases hnull
    simp only [orNull, reduceCtorEq, and_false, false_or, Option.some.injEq, exists_eq_right']
    constructor
    · exact fun h => h.2
    · rintro rfl
      exact ⟨hne, rfl⟩

/-! ## Parts of a run case -/

theorem argumentsFrom_eq_ok_iff {arguments : List WideText} :
    argumentsFrom spec run index items = .ok arguments ↔ items = arguments.map .text := by
  induction items generalizing index arguments with
  | nil => cases arguments <;> simp [argumentsFrom]
  | cons item items ih =>
    simp only [argumentsFrom, step_eq_ok_iff, pure_eq_ok_iff, require_eq_ok_iff, text?_eq_some_iff,
      ih]
    constructor
    · rintro ⟨argument, rfl, others, rfl, rfl⟩
      rfl
    · intro h
      obtain ⟨argument, others, rfl, rfl, rfl⟩ := List.map_eq_cons_iff.mp h.symm
      exact ⟨argument, rfl, others, rfl, rfl⟩

/-- The arguments of a run are a list of texts, one of which stands for the header. -/
theorem input_eq_ok_iff {arguments : List WideText} :
    input spec run value = .ok arguments ↔
      ∃ fields, value = .map fields ∧ get fields "args".toList = .list (arguments.map .text) ∧
        .ofText headerPlaceholder ∈ arguments := by
  simp only [input, step_eq_ok_iff, require_eq_ok_iff, map?_eq_some_iff, list?_eq_some_iff,
    argumentsFrom_eq_ok_iff]
  constructor
  · rintro ⟨fields, rfl, items, hitems, found, rfl, h⟩
    split at h
    · next hmem =>
      obtain rfl := pure_eq_ok_iff.mp h
      exact ⟨fields, rfl, hitems, hmem⟩
    · cases h
  · rintro ⟨fields, rfl, hargs, hmem⟩
    exact ⟨fields, rfl, _, hargs, arguments, rfl, if_pos hmem⟩

/-- What a run is expected to print is given, or read from a named file, but not both. -/
theorem expectedText_eq_ok_iff {key : Text} {expected : Option WideText} :
    expectedText spec readFile run fields key = .ok expected ↔
      Prints readFile (get fields key) (get fields (key ++ "_file".toList)) expected := by
  unfold expectedText
  dsimp only
  generalize get fields key = text
  generalize get fields (key ++ "_file".toList) = file
  constructor
  · intro h
    split at h
    · simp only [optional_eq_ok_iff, step_eq_ok_iff, require_eq_ok_iff, text?_eq_some_iff,
        pure_eq_ok_iff] at h
      rcases h with ⟨rfl, rfl⟩ | ⟨-, _, ⟨name, rfl, content, hread, rfl⟩, rfl⟩
      · exact .nothing
      · exact .named hread
    · simp only [map_some_eq_ok_iff, require_eq_ok_iff, text?_eq_some_iff] at h
      obtain ⟨given, rfl, rfl⟩ := h
      exact .given given
    · cases h
  · intro h
    cases h with
    | nothing => rfl
    | given text => rfl
    | named hread =>
      simp only [optional_eq_ok_iff, step_eq_ok_iff, require_eq_ok_iff, text?_eq_some_iff,
        pure_eq_ok_iff]
      exact .inr ⟨nofun, _, ⟨_, rfl, _, hread, rfl⟩, rfl⟩

/-- What is expected of a run. -/
theorem expectation_eq_ok_iff {expect : Expectation} :
    expectation spec readFile run value = .ok expect ↔ Expects readFile value expect := by
  by_cases hnull : value = .null
  · subst hnull
    constructor
    · intro h
      cases h
      exact .nothing
    · intro h
      cases h
      rfl
  · have hdo : expectation spec readFile run value = (do
        let fields ← require spec (.expect run) .map (map? value)
        let exitCode ← optional (get fields "exit_code".toList) fun value =>
          require spec (.expectation run "exit_code".toList) .integer (exit? value)
        let error ← optional (get fields "error".toList) fun value =>
          require spec (.expectation run "error".toList) .text (text? value)
        let stdout ← expectedText spec readFile run fields "stdout".toList
        let stderr ← expectedText spec readFile run fields "stderr".toList
        return { exitCode, stdout, stderr, error }) := by
      cases value <;> first | rfl | exact absurd rfl hnull
    rw [hdo]
    simp only [step_eq_ok_iff, require_eq_ok_iff, map?_eq_some_iff, pure_eq_ok_iff,
      optional_require_eq_ok_iff (fun _ _ => exit?_eq_some_iff) rfl,
      optional_require_eq_ok_iff (fun _ _ => text?_eq_some_iff) rfl, expectedText_eq_ok_iff]
    constructor
    · rintro ⟨fields, rfl, exitCode, hexit, error, herror, stdout, hstdout, stderr, hstderr, rfl⟩
      exact .fields hexit herror hstdout hstderr
    · intro h
      cases h with
      | nothing => exact absurd rfl hnull
      | fields hexit herror hstdout hstderr =>
        exact ⟨_, rfl, _, hexit, _, herror, _, hstdout, _, hstderr, rfl⟩

/-! ## Items -/

/-- **An item is read as the run case that it describes**, if none before it has its name. -/
theorem runCase_eq_ok_iff :
    runCase spec readFile names index item = .ok case ↔
      IsRun readFile item case ∧ case.name ∉ names := by
  simp only [runCase, step_eq_ok_iff, require_eq_ok_iff, map?_eq_some_iff, text?_eq_some_iff]
  constructor
  · rintro ⟨fields, rfl, name, hname, h⟩
    split at h
    · cases h
    · next hnew =>
      simp only [step_eq_ok_iff, pure_eq_ok_iff, input_eq_ok_iff, expectation_eq_ok_iff] at h
      obtain ⟨arguments, ⟨given, hinput, hargs, hmem⟩, expect, hexpect, rfl⟩ := h
      exact ⟨.fields hname hinput hargs hmem hexpect, hnew⟩
  · rintro ⟨h, hnew⟩
    cases h with
    | fields hname hinput hargs hmem hexpect =>
      refine ⟨_, rfl, _, hname, ?_⟩
      simp only [hnew, if_false, step_eq_ok_iff, pure_eq_ok_iff, input_eq_ok_iff,
        expectation_eq_ok_iff]
      exact ⟨_, ⟨_, hinput, hargs, hmem⟩, _, hexpect, rfl⟩

/-- **Items are read as the run cases that they describe, in order**, if the names are distinct and
new. -/
theorem runCases_eq_ok_iff :
    runCases spec readFile names items = .ok cases ↔
      List.Forall₂ (IsRun readFile) items cases ∧ (cases.map (·.name)).Nodup ∧
        ∀ case ∈ cases, case.name ∉ names := by
  induction items generalizing names cases with
  | nil =>
    rw [runCases, List.forall₂_nil_left_iff]
    constructor
    · intro h
      cases h
      exact ⟨rfl, List.nodup_nil, nofun⟩
    · rintro ⟨rfl, -⟩
      rfl
  | cons item items ih =>
    simp only [runCases, step_eq_ok_iff, pure_eq_ok_iff, runCase_eq_ok_iff, ih]
    constructor
    · rintro ⟨first, ⟨hfirst, hnew⟩, others, ⟨hothers, hnodup, hfresh⟩, rfl⟩
      have hne : ∀ case ∈ others, case.name ∉ names ∧ case.name ≠ first.name := by
        intro case hcase
        simpa using hfresh case hcase
      refine ⟨.cons hfirst hothers, List.nodup_cons.mpr ⟨?_, hnodup⟩, ?_⟩
      · rintro hmem
        obtain ⟨case, hcase, hname⟩ := List.mem_map.mp hmem
        exact (hne case hcase).2 hname
      · exact List.forall_mem_cons.mpr ⟨hnew, fun case hcase => (hne case hcase).1⟩
    · rintro ⟨hitems, hnodup, hfresh⟩
      cases hitems with
      | cons hfirst hothers =>
        obtain ⟨hnot, hnodup⟩ := List.nodup_cons.mp hnodup
        obtain ⟨hnew, hfresh⟩ := List.forall_mem_cons.mp hfresh
        refine ⟨_, ⟨hfirst, hnew⟩, _, ⟨hothers, hnodup, fun case hcase hmem => ?_⟩, rfl⟩
        rcases List.mem_append.mp hmem with hmem | hmem
        · exact hfresh case hcase hmem
        · exact hnot (List.mem_map.mpr ⟨case, hcase, List.mem_singleton.mp hmem⟩)

/-- The run cases of a document are those of its items, if there are any. -/
theorem ofDocument_map {fields : List (Yaml × Yaml)}
    (h : get fields "runs".toList = .list items) :
    ofDocument spec readFile (.map fields) =
      if items = [] then .error (.emptyRuns spec) else runCases spec readFile [] items := by
  simp only [ofDocument, map?, require, bind, Except.bind, h, list?]
  cases items with
  | nil => rfl
  | cons item items => rfl

/-- The documents that are read: maps whose `runs` is a list that is not empty, of items that
describe run cases with distinct names. -/
theorem ofDocument_eq_ok_iff :
    ofDocument spec readFile value = .ok cases ↔
      ∃ fields items, value = .map fields ∧ get fields "runs".toList = .list items ∧ items ≠ [] ∧
        List.Forall₂ (IsRun readFile) items cases ∧ (cases.map (·.name)).Nodup := by
  constructor
  · intro h
    cases value with
    | map fields =>
      simp only [ofDocument, step_eq_ok_iff, require_eq_ok_iff] at h
      obtain ⟨found, hfound, h⟩ := h
      cases hfound
      split at h
      · cases h
      · obtain ⟨items, hitems, h⟩ := step_eq_ok_iff.mp h
        have hruns := list?_eq_some_iff.mp (require_eq_ok_iff.mp hitems)
        split at h
        · cases h
        · next hne =>
          obtain ⟨hcases, hnodup, -⟩ := runCases_eq_ok_iff.mp h
          exact ⟨fields, items, rfl, hruns, hne, hcases, hnodup⟩
    | null => cases h
    | bool | int | text | list | other => cases h
  · rintro ⟨fields, items, rfl, hruns, hne, hcases, hnodup⟩
    have hread : runCases spec readFile [] items = .ok cases :=
      runCases_eq_ok_iff.mpr ⟨hcases, hnodup, fun case _ => List.not_mem_nil⟩
    rw [ofDocument_map hruns, if_neg hne, hread]

end Spec

end StubVector
