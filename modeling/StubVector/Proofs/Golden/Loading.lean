import StubVector.Proofs.FileTree.Below
import StubVector.Proofs.Golden.RunCases

/-!
# What a spec lists

A spec that can be loaded lists items under `runs`, and each of them is read as a run case, in
order.

* `Spec.Lists`: the items of a spec.
* `Spec.stdoutFile?`: the file that an item names for what a run prints.
* `Spec.load_eq_ok_iff`: when a spec is loaded.
* `Spec.exists_items_of_load`: a loaded spec lists items, one for each run case.
* `Spec.exists_text_of_runCase`: what a run is expected to print is the text of that file.
-/

namespace StubVector.Spec

variable {loader : Yaml.Loader} {files : FileTree} {workingDirectory : Text}
  {header spec : Path} {test : GoldenTest} {readFile : WideText → Except SpecFault Text}
  {names : List WideText} {index : Nat} {item : Yaml} {case : RunCase}

/-- Whether the document of a spec has these items under `runs`. -/
def Lists (loader : Yaml.Loader) (files : FileTree) (spec : Path) (items : List Yaml) : Prop :=
  ∃ source fields, decodeFile (files.read spec) = .ok source ∧
    document loader source = .ok (.map fields) ∧ get fields "runs".toList = .list items

/-- The file that an item names for what a run is expected to print. -/
def stdoutFile? (item : Yaml) : Option WideText := do
  let fields ← map? item
  let expect ← map? (get fields "expect".toList)
  text? (get expect "stdout_file".toList)

/-- When a spec is loaded. -/
theorem load_eq_ok_iff : load loader files workingDirectory header = .ok test ↔
    pathFor header = .ok test.spec ∧ test.header = header ∧
      files.reaches test.spec = .ok true ∧ ∃ source value,
        decodeFile (files.read test.spec) = .ok source ∧ document loader source = .ok value ∧
        ofDocument test.spec (readBeside files workingDirectory test.spec) value =
          .ok test.runs := by
  constructor
  · intro h
    obtain ⟨spec, hspec, h⟩ := bind_eq_ok_iff.mp h
    obtain ⟨found, hfound, h⟩ := bind_eq_ok_iff.mp h
    cases found with
    | false => cases h
    | true =>
      obtain ⟨source, hsource, h⟩ := bind_eq_ok_iff.mp h
      obtain ⟨value, hvalue, h⟩ := bind_eq_ok_iff.mp h
      obtain ⟨runs, hruns, h⟩ := bind_eq_ok_iff.mp h
      cases h
      refine ⟨hspec, rfl, ?_, source, value, hsource, hvalue, hruns⟩
      cases hreaches : files.reaches spec <;> rw [hreaches] at hfound <;> cases hfound
      rfl
  · rintro ⟨hspec, rfl, hreaches, source, value, hsource, hvalue, hruns⟩
    simp only [load, hspec, hreaches, hsource, hvalue, hruns, bind, Except.bind, Except.mapError]
    rfl

/-- A loaded spec lists items that describe its run cases, with distinct names. -/
theorem exists_isRun_of_load (h : load loader files workingDirectory header = .ok test) :
    ∃ items, Lists loader files test.spec items ∧ items ≠ [] ∧
      List.Forall₂ (IsRun (readBeside files workingDirectory test.spec)) items test.runs ∧
        (test.runs.map (·.name)).Nodup := by
  obtain ⟨-, -, -, source, value, hsource, hvalue, hruns⟩ := load_eq_ok_iff.mp h
  obtain ⟨fields, items, rfl, hitems, hne, hcases, hnodup⟩ := ofDocument_eq_ok_iff.mp hruns
  exact ⟨items, ⟨source, fields, hsource, hvalue, hitems⟩, hne, hcases, hnodup⟩

/-- A loaded spec lists items, one for each run case. -/
theorem exists_items_of_load (h : load loader files workingDirectory header = .ok test) :
    ∃ items, Lists loader files test.spec items ∧
      List.Forall₂ (fun item case => ∃ names index,
        runCase test.spec (readBeside files workingDirectory test.spec) names index item = .ok case)
          items test.runs := by
  obtain ⟨items, hlists, -, hcases, -⟩ := exists_isRun_of_load h
  refine ⟨items, hlists, hcases.imp fun item case hcase => ⟨[], 0, ?_⟩⟩
  exact runCase_eq_ok_iff.mpr ⟨hcase, List.not_mem_nil⟩

/-- What a run is expected to print is the text of the file that its item names. -/
theorem exists_text_of_runCase {name : WideText}
    (h : runCase spec readFile names index item = .ok case) (hfile : stdoutFile? item = some name) :
    ∃ text, readFile name = .ok text ∧ case.expect.stdout = some (.ofText text) := by
  obtain ⟨⟨-, -, -, -, hexpect⟩, -⟩ := runCase_eq_ok_iff.mp h
  obtain ⟨fields, hmap, hname⟩ := Option.bind_eq_some_iff.mp hfile
  rw [map?_eq_some_iff.mp hmap] at hexpect
  cases hexpect with
  | fields _ _ hstdout =>
    rw [text?_eq_some_iff.mp hname] at hstdout
    generalize get fields "stdout".toList = given at hstdout
    generalize case.expect.stdout = expected at hstdout ⊢
    cases hstdout with
    | named hread => exact ⟨_, hread, rfl⟩

/-- The text of a file that is named relative to its spec. -/
theorem readBeside_eq_ok {name : WideText} {path : Path} {text : Text}
    (hpath : FileTree.collapse (spec.parent ++ Path.ofText name) = .ok path)
    (hread : files.read path = .ok (Utf8.encode text)) :
    readBeside files workingDirectory spec name = decodeFile (.ok (Utf8.encode text)) := by
  simp only [readBeside, hpath, Except.bind, hread]

end StubVector.Spec
