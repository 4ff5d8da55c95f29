import Mathlib.Data.Option.Basic
import StubVector.Proofs.Golden.Loading

/-!
# Well-formed specs

The conditions under which a spec is loaded, as conditions on its document alone, and what becomes
of a spec that does not meet them.

* `Spec.WellFormedText`: what a run is expected to print is given in at most one of two ways.
* `Spec.WellFormedExpect`: the expectations of a run have the right types.
* `Spec.WellFormedRun`: an item describes a run.
* `Spec.WellFormed`: there is a spec beside a header, and it lists such items with distinct names.
* `Spec.FirstFault`: the fault of the first item that describes no run, or one whose name is taken.
* `Spec.exists_load_iff`: a spec is loaded if and only if it is well-formed.
* `Spec.load_accepts_exactly_well_formed`: **exactly the well-formed specs are loaded**, as the run
  cases that their items describe, and the first item that describes none decides the fault.
-/

namespace StubVector.Spec

variable {loader : Yaml.Loader} {files : FileTree} {workingDirectory : Text} {header spec : Path}
  {readFile : WideText → Except SpecFault Text} {names : List WideText} {index : Nat}
  {value text file item : Yaml} {items : List Yaml} {case : RunCase} {cases : List RunCase}
  {fault : SpecFault}

/-! ## Conditions on a document -/

/-- Whether a value is text. -/
def IsText (value : Yaml) : Prop := ∃ text, value = .text text

/-- Of the text itself and the name of a file with the text, one at most is not null: a text, or the
name of a file that can be read. -/
structure WellFormedText (readFile : WideText → Except SpecFault Text) (text file : Yaml) :
    Prop where
  exclusive : text = .null ∨ file = .null
  given : text = .null ∨ IsText text
  named : file = .null ∨ ∃ name content, file = .text name ∧ readFile name = .ok content

/-- The expectations of a run are null or have the right types. -/
structure WellFormedExpect (readFile : WideText → Except SpecFault Text)
    (fields : List (Yaml × Yaml)) : Prop where
  exitCode : get fields "exit_code".toList = .null ∨
    (∃ code, get fields "exit_code".toList = .int code) ∨
      ∃ failing, get fields "exit_code".toList = .bool failing
  error : get fields "error".toList = .null ∨ IsText (get fields "error".toList)
  stdout : WellFormedText readFile (get fields "stdout".toList) (get fields "stdout_file".toList)
  stderr : WellFormedText readFile (get fields "stderr".toList) (get fields "stderr_file".toList)

/-- An item has a name, arguments of which one stands for the header, and expectations, unless these
are missing or null. -/
structure WellFormedRun (readFile : WideText → Except SpecFault Text)
    (fields : List (Yaml × Yaml)) : Prop where
  name : IsText (get fields "name".toList)
  input : ∃ given arguments, get fields "input".toList = .map given ∧
    get given "args".toList = .list arguments ∧ (∀ argument ∈ arguments, IsText argument) ∧
      .text (.ofText headerPlaceholder) ∈ arguments
  expect : get fields "expect".toList = .null ∨
    ∃ expected, get fields "expect".toList = .map expected ∧ WellFormedExpect readFile expected

/-- The name of an item. -/
def runName? (item : Yaml) : Option WideText :=
  (map? item).bind fun fields => text? (get fields "name".toList)

/-- The path of the spec beside a header of that name. -/
def pathBeside (header : Path) (name : WideText) : Path :=
  header.withName (Path.stem name ++ "_spec.yaml".toList)

/-- A document is a map whose `runs` is a list of at least one item, each of them with a name of its
own. -/
def WellFormedDocument (readFile : WideText → Except SpecFault Text) (value : Yaml) : Prop :=
  ∃ fields items, value = .map fields ∧ get fields "runs".toList = .list items ∧ items ≠ [] ∧
    (∀ item ∈ items, ∃ fields, item = .map fields ∧ WellFormedRun readFile fields) ∧
    (items.map runName?).Nodup

/-- Beside a header stands a spec that can be read, and what the loader makes of it is a well-formed
document. -/
def WellFormed (loader : Yaml.Loader) (files : FileTree) (workingDirectory : Text)
    (header : Path) : Prop :=
  ∃ name source value, header.name? = some name ∧
    decodeFile (files.read (pathBeside header name)) = .ok source ∧ loader source = .ok value ∧
    WellFormedDocument (readBeside files workingDirectory (pathBeside header name)) value

/-! ## What such documents describe -/

theorem exists_orNull_text_iff :
    (∃ found, value = orNull .text found) ↔ value = .null ∨ IsText value := by
  constructor
  · rintro ⟨_ | text, rfl⟩
    · exact .inl rfl
    · exact .inr ⟨text, rfl⟩
  · rintro (rfl | ⟨text, rfl⟩)
    · exact ⟨none, rfl⟩
    · exact ⟨some text, rfl⟩

theorem exists_orNull_exit_iff :
    (∃ found, value = orNull ExpectedExit.toYaml found) ↔
      value = .null ∨ (∃ code, value = .int code) ∨ ∃ failing, value = .bool failing := by
  constructor
  · rintro ⟨_ | code | failing, rfl⟩
    · exact .inl rfl
    · exact .inr (.inl ⟨code, rfl⟩)
    · exact .inr (.inr ⟨failing, rfl⟩)
  · rintro (rfl | ⟨code, rfl⟩ | ⟨failing, rfl⟩)
    · exact ⟨none, rfl⟩
    · exact ⟨some (.number code), rfl⟩
    · exact ⟨some (.flag failing), rfl⟩

theorem exists_prints_iff :
    (∃ expected, Prints readFile text file expected) ↔ WellFormedText readFile text file := by
  constructor
  · rintro ⟨expected, h⟩
    cases h with
    | nothing => exact ⟨.inl rfl, .inl rfl, .inl rfl⟩
    | given text => exact ⟨.inr rfl, .inr ⟨text, rfl⟩, .inl rfl⟩
    | named hread => exact ⟨.inl rfl, .inl rfl, .inr ⟨_, _, rfl, hread⟩⟩
  · rintro ⟨hexclusive, rfl | ⟨text, rfl⟩, rfl | ⟨name, content, rfl, hread⟩⟩
    · exact ⟨none, .nothing⟩
    · exact ⟨some (.ofText content), .named hread⟩
    · exact ⟨some text, .given text⟩
    · rcases hexclusive with h | h <;> cases h

theorem exists_expects_iff :
    (∃ expect, Expects readFile value expect) ↔
      value = .null ∨ ∃ fields, value = .map fields ∧ WellFormedExpect readFile fields := by
  constructor
  · rintro ⟨expect, h⟩
    cases h with
    | nothing => exact .inl rfl
    | fields hexit herror hstdout hstderr =>
      exact .inr ⟨_, rfl, exists_orNull_exit_iff.mp ⟨_, hexit⟩,
        exists_orNull_text_iff.mp ⟨_, herror⟩, exists_prints_iff.mp ⟨_, hstdout⟩,
        exists_prints_iff.mp ⟨_, hstderr⟩⟩
  · rintro (rfl | ⟨fields, rfl, h⟩)
    · exact ⟨{}, .nothing⟩
    · obtain ⟨exitCode, hexit⟩ := exists_orNull_exit_iff.mpr h.exitCode
      obtain ⟨error, herror⟩ := exists_orNull_text_iff.mpr h.error
      obtain ⟨stdout, hstdout⟩ := exists_prints_iff.mpr h.stdout
      obtain ⟨stderr, hstderr⟩ := exists_prints_iff.mpr h.stderr
      exact ⟨{ exitCode, stdout, stderr, error }, .fields hexit herror hstdout hstderr⟩

/-- A list of texts is the list of the values of texts. -/
theorem exists_map_text_eq (h : ∀ item ∈ items, IsText item) :
    ∃ texts : List WideText, items = texts.map .text := by
  induction items with
  | nil => exact ⟨[], rfl⟩
  | cons item items ih =>
    obtain ⟨⟨text, rfl⟩, hrest⟩ := List.forall_mem_cons.mp h
    obtain ⟨texts, rfl⟩ := ih hrest
    exact ⟨text :: texts, rfl⟩

theorem text_mem_map_text_iff {text : WideText} {texts : List WideText} :
    Yaml.text text ∈ texts.map .text ↔ text ∈ texts := by
  simp

theorem exists_isRun_iff :
    (∃ case, IsRun readFile item case) ↔
      ∃ fields, item = .map fields ∧ WellFormedRun readFile fields := by
  constructor
  · rintro ⟨case, h⟩
    cases h with
    | fields hname hinput hargs hmem hexpect =>
      refine ⟨_, rfl, ⟨_, hname⟩, ⟨_, _, hinput, hargs, ?_, ?_⟩, exists_expects_iff.mp ⟨_, hexpect⟩⟩
      · intro argument hargument
        obtain ⟨text, -, rfl⟩ := List.mem_map.mp hargument
        exact ⟨text, rfl⟩
      · exact text_mem_map_text_iff.mpr hmem
  · rintro ⟨fields, rfl, ⟨name, hname⟩, ⟨given, arguments, hinput, hargs, htexts, hmem⟩, hexpect⟩
    obtain ⟨texts, rfl⟩ := exists_map_text_eq htexts
    obtain ⟨expect, hexpect⟩ := exists_expects_iff.mpr hexpect
    exact ⟨{ name, arguments := texts, expect },
      .fields hname hinput hargs (text_mem_map_text_iff.mp hmem) hexpect⟩

theorem runName?_of_isRun (h : IsRun readFile item case) : runName? item = some case.name := by
  cases h with
  | fields hname =>
    rw [runName?, map?, Option.bind_some, hname]
    rfl

/-- The names of items are those of the run cases that they describe. -/
theorem nodup_runName?_iff (h : List.Forall₂ (IsRun readFile) items cases) :
    (items.map runName?).Nodup ↔ (cases.map (·.name)).Nodup := by
  have hnames : items.map runName? = (cases.map (·.name)).map some := by
    induction h with
    | nil => rfl
    | cons hfirst _ ih =>
      rw [List.map_cons, List.map_cons, List.map_cons, ih, runName?_of_isRun hfirst]
  rw [hnames, List.nodup_map_iff (Option.some_injective WideText)]

theorem exists_forall₂_isRun_iff :
    (∃ cases, List.Forall₂ (IsRun readFile) items cases) ↔
      ∀ item ∈ items, ∃ fields, item = .map fields ∧ WellFormedRun readFile fields := by
  simp only [← exists_isRun_iff]
  induction items with
  | nil => simp
  | cons item items ih =>
    rw [List.forall_mem_cons, ← ih]
    constructor
    · rintro ⟨cases, h⟩
      cases h with
      | cons hfirst hrest => exact ⟨⟨_, hfirst⟩, _, hrest⟩
    · rintro ⟨⟨case, hfirst⟩, cases, hrest⟩
      exact ⟨case :: cases, .cons hfirst hrest⟩

/-- The documents that are read are the well-formed ones. -/
theorem exists_ofDocument_iff :
    (∃ cases, ofDocument spec readFile value = .ok cases) ↔ WellFormedDocument readFile value := by
  simp only [ofDocument_eq_ok_iff]
  constructor
  · rintro ⟨cases, fields, items, rfl, hruns, hne, hcases, hnodup⟩
    exact ⟨fields, items, rfl, hruns, hne, exists_forall₂_isRun_iff.mp ⟨_, hcases⟩,
      (nodup_runName?_iff hcases).mpr hnodup⟩
  · rintro ⟨fields, items, rfl, hruns, hne, hitems, hnodup⟩
    obtain ⟨cases, hcases⟩ := exists_forall₂_isRun_iff.mpr hitems
    exact ⟨cases, fields, items, rfl, hruns, hne, hcases, (nodup_runName?_iff hcases).mp hnodup⟩

/-! ## The first fault -/

/-- A step that fails, or that succeeds before others which fail. -/
theorem step_eq_error_iff {α β : Type} {first : Except SpecFault α}
    {next : α → Except SpecFault β} :
    (first >>= next) = .error fault ↔
      first = .error fault ∨ ∃ value, first = .ok value ∧ next value = .error fault := by
  cases first with
  | error other => simp [bind, Except.bind]
  | ok value => simp [bind, Except.bind]

/-- The fault of the first item that describes no run, or one with the name of a run before it. -/
def FirstFault (spec : Path) (readFile : WideText → Except SpecFault Text) (items : List Yaml)
    (fault : SpecFault) : Prop :=
  ∃ front item rest cases, items = front ++ item :: rest ∧
    List.Forall₂ (IsRun readFile) front cases ∧ (cases.map (·.name)).Nodup ∧
    (∀ case, IsRun readFile item case → case.name ∈ cases.map (·.name)) ∧
    runCase spec readFile (cases.map (·.name)) front.length item = .error fault

/-- Items that cannot be read have a first one that cannot. -/
theorem exists_front_of_runCases_eq_error
    (h : runCases spec readFile names items = .error fault) :
    ∃ front item rest cases, items = front ++ item :: rest ∧
      runCases spec readFile names front = .ok cases ∧
      runCase spec readFile (names ++ cases.map (·.name)) (names.length + front.length) item =
        .error fault := by
  -- every item is read with the names of all before it, so these vary in the induction
  induction items generalizing names with
  | nil => cases h
  | cons item items ih =>
    rcases step_eq_error_iff.mp h with hitem | ⟨first, hfirst, h⟩
    · exact ⟨[], item, items, [], rfl, rfl, by simpa using hitem⟩
    · rcases step_eq_error_iff.mp h with hitems | ⟨others, -, h⟩
      · obtain ⟨front, next, rest, cases, rfl, hfront, hnext⟩ := ih hitems
        refine ⟨item :: front, next, rest, first :: cases, rfl, ?_, ?_⟩
        · exact step_eq_ok_iff.mpr ⟨first, hfirst, step_eq_ok_iff.mpr ⟨cases, hfront, rfl⟩⟩
        · have hnames : names ++ (first :: cases).map (·.name) =
              names ++ [first.name] ++ cases.map (·.name) := by simp
          have hlength : names.length + (item :: front).length =
              (names ++ [first.name]).length + front.length := by
            simp only [List.length_append, List.length_cons, List.length_nil]
            omega
          rw [hnames, hlength, hnext]
      · cases h

theorem firstFault_of_runCases_eq_error (h : runCases spec readFile [] items = .error fault) :
    FirstFault spec readFile items fault := by
  obtain ⟨front, item, rest, cases, rfl, hfront, hitem⟩ := exists_front_of_runCases_eq_error h
  obtain ⟨hcases, hnodup, -⟩ := runCases_eq_ok_iff.mp hfront
  rw [List.nil_append, List.length_nil, Nat.zero_add] at hitem
  refine ⟨front, item, rest, cases, rfl, hcases, hnodup, fun case hcase => ?_, hitem⟩
  by_contra hnew
  rw [runCase_eq_ok_iff.mpr ⟨hcase, hnew⟩] at hitem
  cases hitem

/-! ## Loading -/

theorem pathFor_eq_ok_iff :
    pathFor header = .ok spec ↔
      ∃ name, header.name? = some name ∧ spec = pathBeside header name := by
  unfold pathFor
  cases header.name? <;> simp [pathBeside, eq_comm]

/-- A spec that can be decoded is there. -/
theorem reaches_of_decodeFile {source : Text} (h : decodeFile (files.read spec) = .ok source) :
    files.reaches spec = .ok true := by
  cases hread : files.read spec with
  | error error =>
    rw [hread] at h
    cases h
  | ok bytes => exact FileTree.reaches_of_read hread

theorem document_eq_ok_iff {source : Text} :
    document loader source = .ok value ↔ loader source = .ok value := by
  rw [document]
  cases loader source <;> simp [Except.mapError]

/-- A spec with a document is loaded as its document is read. -/
theorem load_of_document {name : WideText} {source : Text} (hname : header.name? = some name)
    (hsource : decodeFile (files.read (pathBeside header name)) = .ok source)
    (hvalue : loader source = .ok value) :
    load loader files workingDirectory header =
      (ofDocument (pathBeside header name)
        (readBeside files workingDirectory (pathBeside header name)) value).map fun runs =>
          { header, spec := pathBeside header name, runs } := by
  have hpath := pathFor_eq_ok_iff.mpr ⟨name, hname, rfl⟩
  have hreaches := reaches_of_decodeFile hsource
  have hdocument := document_eq_ok_iff.mpr hvalue
  simp only [load, hpath, hreaches, hsource, hdocument, bind, Except.bind, Except.mapError]
  rfl

/-- A spec whose items are known is loaded if they are read. -/
theorem load_of_lists {name : WideText} (hname : header.name? = some name)
    (hlists : Lists loader files (pathBeside header name) items) :
    load loader files workingDirectory header =
      if items = [] then .error (.emptyRuns (pathBeside header name))
      else (runCases (pathBeside header name)
        (readBeside files workingDirectory (pathBeside header name)) [] items).map fun runs =>
          { header, spec := pathBeside header name, runs } := by
  obtain ⟨source, fields, hsource, hdocument, hitems⟩ := hlists
  rw [load_of_document hname hsource (document_eq_ok_iff.mp hdocument), ofDocument_map hitems]
  split <;> rfl

/-- A spec with a document is loaded if and only if the document is well-formed. -/
theorem exists_load_iff_of_document {name : WideText} {source : Text}
    (hname : header.name? = some name)
    (hsource : decodeFile (files.read (pathBeside header name)) = .ok source)
    (hvalue : loader source = .ok value) :
    (∃ test, load loader files workingDirectory header = .ok test) ↔
      WellFormedDocument (readBeside files workingDirectory (pathBeside header name)) value := by
  have hdocument : (∃ runs, ofDocument (pathBeside header name)
        (readBeside files workingDirectory (pathBeside header name)) value = .ok runs) ↔
      WellFormedDocument (readBeside files workingDirectory (pathBeside header name)) value :=
    exists_ofDocument_iff
  rw [load_of_document hname hsource hvalue, ← hdocument]
  cases ofDocument (pathBeside header name)
    (readBeside files workingDirectory (pathBeside header name)) value <;> simp [Except.map]

/-- A spec is loaded if and only if it is well-formed. -/
theorem exists_load_iff : (∃ test, load loader files workingDirectory header = .ok test) ↔
    WellFormed loader files workingDirectory header := by
  constructor
  · rintro ⟨test, h⟩
    obtain ⟨hpath, -, -, source, value, hsource, hvalue, -⟩ := load_eq_ok_iff.mp h
    obtain ⟨name, hname, hspec⟩ := pathFor_eq_ok_iff.mp hpath
    rw [hspec] at hsource
    rw [document_eq_ok_iff] at hvalue
    exact ⟨name, source, value, hname, hsource, hvalue,
      (exists_load_iff_of_document hname hsource hvalue).mp ⟨test, h⟩⟩
  · rintro ⟨name, source, value, hname, hsource, hvalue, hformed⟩
    exact (exists_load_iff_of_document hname hsource hvalue).mpr hformed

/-- Where the items of a spec are known, its fault is that there are none, or that of one of them.
-/
theorem fault_of_load_eq_error {name : WideText} (hname : header.name? = some name)
    (hlists : Lists loader files (pathBeside header name) items)
    (h : load loader files workingDirectory header = .error fault) :
    items = [] ∧ fault = .emptyRuns (pathBeside header name) ∨
      FirstFault (pathBeside header name)
        (readBeside files workingDirectory (pathBeside header name)) items fault := by
  rw [load_of_lists hname hlists] at h
  split at h
  · next hnil =>
    cases h
    exact .inl ⟨hnil, rfl⟩
  · refine .inr (firstFault_of_runCases_eq_error ?_)
    cases hread : runCases (pathBeside header name)
        (readBeside files workingDirectory (pathBeside header name)) [] items with
    | error other =>
      rw [hread] at h
      cases h
      rfl
    | ok cases =>
      rw [hread] at h
      cases h

/-- A spec without a document is refused since it lists no runs. -/
theorem load_of_null {name : WideText} {source : Text} (hname : header.name? = some name)
    (hsource : decodeFile (files.read (pathBeside header name)) = .ok source)
    (hvalue : loader source = .ok .null) :
    load loader files workingDirectory header = .error (.missingRuns (pathBeside header name)) := by
  rw [load_of_document hname hsource hvalue]
  rfl

/-- A spec with two runs: one of which much is expected, and one of which nothing is. -/
def twoRunsSpec : Text := [
  "\x7b\"runs\": [",
  "\x7b\"name\": \"bad\", \"input\": \x7b\"args\": [\"defs\", \"\x7bheader\x7d\"]\x7d,",
  " \"expect\": \x7b\"exit_code\": true, \"stdout\": \"\", \"stderr_file\": \"t.err\",",
  " \"error\": null\x7d\x7d,",
  "\x7b\"input\": \x7b\"args\": [\"\x7bheader\x7d\"]\x7d, \"name\": \"any\"\x7d]\x7d"
  ].flatMap String.toList

/-- A header with that spec beside it. -/
def twoRunsFiles : FileTree := .ofEntries [
  ("t.h".toList, .file []),
  ("t_spec.yaml".toList, .file (Utf8.encode twoRunsSpec)),
  ("t.err".toList, .file (Utf8.encode "t.h: é\r\n".toList))]

/-- The run cases of that spec. -/
def twoRuns : List RunCase := [
  { name := "bad".toList
    arguments := ["defs", "\x7bheader\x7d"].map (.ofText ·.toList)
    expect := {
      exitCode := some (.flag true)
      stdout := some []
      stderr := some "t.h: é\n".toList } },
  { name := "any".toList, arguments := [.ofText "\x7bheader\x7d".toList], expect := {} }]

end StubVector.Spec
