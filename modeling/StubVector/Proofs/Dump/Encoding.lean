import Mathlib.Data.List.Forall2
import StubVector.Dump
import StubVector.Proofs.Json.RoundTrip

/-!
# Dumps encode their definitions

A dump is printable text, and read as JSON it gives one object for every definition, in order, with
the fields of the definition in ascending order. So lists of definitions are told apart by their
dumps exactly as far as their fields are shown.

* `Dump.Describes`: the object of a definition.
* `Dump.Alike`: definitions that agree in what a dump shows of them.
* `Dump.print_faithful`: **dumps are faithful**, and when there is one.
-/

namespace StubVector

namespace Json

/-- The names of the fields of an object, in order. -/
def keys : Json → List Text
  | .obj fields => fields.map (·.1)
  | _ => []

/-- The field of that name of an object. -/
def field? (key : String) : Json → Option Json
  | .obj fields => fields.lookup key.toList
  | _ => none

end Json

namespace Dump

open Json

variable {withSources : Bool} {definition other : Definition} {definitions others : List Definition}
  {text : Text}

/-! ## Objects of definitions -/

/-- The names of the fields of a source line. -/
def sourceFieldNames : List Text :=
  ["line_number".toList, "node".toList, "path".toList, "text".toList]

/-- The names of the fields of a definition. -/
def fieldNames (withSources : Bool) : List Text :=
  ["function_name".toList, "index".toList, "is_mapped".toList, "node".toList] ++
    (if withSources then ["source".toList] else []) ++ ["symbol".toList]

/-- Whether a value is what a dump shows of a source line, or of none. -/
inductive DescribesSource : Option SourceLine → Json → Prop
  | absent : DescribesSource none .null
  | present {source : SourceLine} {value : Json}
      (keys : value.keys = sourceFieldNames) (sorted : value.keys.Pairwise (· < ·))
      (node : value.field? "node" = some (.str "SourceLine".toList))
      (path : value.field? "path" = some (.str source.path))
      (lineNumber : value.field? "line_number" = some (.int source.lineNumber))
      (text : value.field? "text" = some (.str source.text)) : DescribesSource (some source) value

/-- Whether a value is the object of a definition: it has exactly these fields, sorted by name. -/
structure Describes (withSources : Bool) (definition : Definition) (value : Json) : Prop where
  keys : value.keys = fieldNames withSources
  sorted : value.keys.Pairwise (· < ·)
  node : value.field? "node" = some (.str "StubDefinition".toList)
  symbol : value.field? "symbol" = some (.str definition.symbol)
  index : value.field? "index" = some (.int definition.index)
  functionName : value.field? "function_name" = some (.str definition.functionName)
  isMapped : value.field? "is_mapped" = some (.bool definition.isMapped)
  source : withSources = true →
    ∃ object, value.field? "source" = some object ∧ DescribesSource definition.source object

theorem keys_definitionData (withSources : Bool) (definition : Definition) :
    (definitionData withSources definition).keys = fieldNames withSources := by
  cases withSources <;> rfl

theorem sorted_fieldNames (withSources : Bool) : (fieldNames withSources).Pairwise (· < ·) := by
  cases withSources <;> decide

theorem describesSource_sourceData (source : Option SourceLine) :
    DescribesSource source ((source.map sourceData).getD .null) := by
  cases source with
  | none => exact .absent
  | some source =>
    have hsorted : sourceFieldNames.Pairwise (· < ·) := by decide
    exact .present rfl hsorted rfl rfl rfl rfl

/-- The value of a definition is its object. -/
theorem describes_definitionData (withSources : Bool) (definition : Definition) :
    Describes withSources definition (definitionData withSources definition) where
  keys := keys_definitionData withSources definition
  sorted := keys_definitionData withSources definition ▸ sorted_fieldNames withSources
  node := by cases withSources <;> rfl
  symbol := by cases withSources <;> rfl
  index := by cases withSources <;> rfl
  functionName := by cases withSources <;> rfl
  isMapped := by cases withSources <;> rfl
  source := by
    rintro rfl
    exact ⟨_, rfl, describesSource_sourceData definition.source⟩

theorem integral_sourceData (source : Option SourceLine) :
    Integral ((source.map sourceData).getD .null) := by
  cases source with
  | none => exact .null
  | some source =>
    refine .obj fun field hfield => ?_
    simp only [List.mem_cons, List.not_mem_nil, or_false] at hfield
    rcases hfield with rfl | rfl | rfl | rfl <;> constructor

theorem integral_definitionData (withSources : Bool) (definition : Definition) :
    Integral (definitionData withSources definition) := by
  refine .obj fun field hfield => ?_
  simp only [List.mem_append, List.mem_cons, List.not_mem_nil, or_false] at hfield
  rcases hfield with ((rfl | rfl | rfl | rfl) | hsource) | rfl
  case inl.inr =>
    split at hsource
    · rw [List.mem_singleton.mp hsource]
      exact integral_sourceData definition.source
    · cases hsource
  all_goals constructor

/-- Every number in a dump is an integer. -/
theorem integral_data (withSources : Bool) (definitions : List Definition) :
    Integral (data withSources definitions) := by
  refine .arr fun item hitem => ?_
  obtain ⟨definition, -, rfl⟩ := List.mem_map.mp hitem
  exact integral_definitionData withSources definition

/-! ## Definitions that agree -/

/-- Whether two definitions agree in what a dump shows of them. -/
structure Alike (withSources : Bool) (definition other : Definition) : Prop where
  symbol : definition.symbol = other.symbol
  index : definition.index = other.index
  functionName : definition.functionName = other.functionName
  isMapped : definition.isMapped = other.isMapped
  source : withSources = true → definition.source = other.source

theorem sourceData_inj {source other : Option SourceLine} :
    (source.map sourceData).getD .null = (other.map sourceData).getD .null ↔ source = other := by
  constructor
  · intro h
    cases source with
    | none =>
      cases other with
      | none => rfl
      | some other => cases h
    | some source =>
      cases other with
      | none => cases h
      | some other =>
        obtain ⟨path, lineNumber, text⟩ := source
        obtain ⟨path', lineNumber', text'⟩ := other
        simp [sourceData] at h
        simp [h]
  · rintro rfl
    rfl

theorem definitionData_inj :
    definitionData withSources definition = definitionData withSources other ↔
      Alike withSources definition other := by
  constructor
  · intro h
    cases withSources with
    | false =>
      simp only [definitionData, Bool.false_eq_true, if_false, List.append_nil, List.cons_append,
        List.nil_append, Json.obj.injEq, List.cons.injEq, Prod.mk.injEq, Json.str.injEq,
        Json.int.injEq, Json.bool.injEq, true_and, and_true] at h
      exact ⟨h.2.2.2, h.2.1, h.1, h.2.2.1, nofun⟩
    | true =>
      simp only [definitionData, if_true, List.cons_append,
        List.nil_append, Json.obj.injEq, List.cons.injEq, Prod.mk.injEq, Json.str.injEq,
        Json.int.injEq, Json.bool.injEq, true_and, and_true, sourceData_inj] at h
      exact ⟨h.2.2.2.2, h.2.1, h.1, h.2.2.1, fun _ => h.2.2.2.1⟩
  · rintro ⟨hsymbol, hindex, hname, hmapped, hsource⟩
    cases withSources with
    | false => simp [definitionData, hsymbol, hindex, hname, hmapped]
    | true => simp [definitionData, hsymbol, hindex, hname, hmapped, hsource rfl]

/-- Dumps have the same value exactly if their definitions agree one by one. -/
theorem data_inj :
    data withSources definitions = data withSources others ↔
      List.Forall₂ (Alike withSources) definitions others := by
  rw [data, data, Json.arr.injEq, ← List.forall₂_eq_eq_eq, List.forall₂_map_left_iff,
    List.forall₂_map_right_iff]
  simp only [definitionData_inj]

/-! ## Dumps -/

theorem isPrintable_iff {number : Int} :
    isPrintable number = true ↔ (Text.decimalNat number.natAbs).length ≤ 4300 := by
  have hpositive : 0 < Text.maxNumeralDigits := by decide
  rw [isPrintable, decide_eq_true_iff, ← Text.length_decimalNat_le_iff hpositive,
    Text.maxNumeralDigits]

/-- A dump is printed exactly if its integers can be, and it is the printed form of its value. -/
theorem print_eq_ok_iff :
    print withSources definitions = .ok text ↔
      (∀ definition ∈ definitions, ∀ number ∈ numbers withSources definition,
        (Text.decimalNat number.natAbs).length ≤ 4300) ∧
      (data withSources definitions).render = text := by
  have hall : (definitions.flatMap (numbers withSources)).all isPrintable = true ↔
      ∀ definition ∈ definitions, ∀ number ∈ numbers withSources definition,
        (Text.decimalNat number.natAbs).length ≤ 4300 := by
    simp only [List.all_flatMap, List.all_eq_true, isPrintable_iff]
  rw [print, ← hall]
  split
  · next h => simp only [h, true_and, Except.ok.injEq]
  · next h => simp only [h, false_and, reduceCtorEq]

/-- **Dumps are faithful.** There is a dump exactly if no integer in it has more than 4300 digits.
It has characters from the space to the tilde, and line feeds, only; read as JSON it is an array of
one object for every definition, in order; and it is the dump of those lists whose definitions agree
with it one by one in what is shown. -/
theorem print_faithful (withSources : Bool) (definitions : List Definition) :
    ((∃ text, print withSources definitions = .ok text) ↔
      ∀ definition ∈ definitions, ∀ number ∈ numbers withSources definition,
        (Text.decimalNat number.natAbs).length ≤ 4300) ∧
    ∀ text, print withSources definitions = .ok text →
      InPrint text ∧
      (∃ objects, parse? text = some (.arr objects) ∧
        List.Forall₂ (Describes withSources) definitions objects) ∧
      ∀ others other, print withSources others = .ok other →
        (text = other ↔ List.Forall₂ (Alike withSources) definitions others) := by
  simp only [print_eq_ok_iff]
  refine ⟨⟨fun ⟨_, h, _⟩ => h, fun h => ⟨_, h, rfl⟩⟩, ?_⟩
  rintro text ⟨-, rfl⟩
  refine ⟨inPrint_render (integral_data withSources definitions), ?_, ?_⟩
  · refine ⟨_, parse?_render (integral_data withSources definitions), ?_⟩
    rw [List.forall₂_map_right_iff]
    exact List.forall₂_same.mpr fun definition _ => describes_definitionData withSources definition
  · rintro others other ⟨-, rfl⟩
    rw [render_inj (integral_data withSources definitions) (integral_data withSources others),
      data_inj]

/-- A definition with a pair of units beside backslashes, and without a source line. -/
def escapedDefinition : Definition where
  symbol := ['\\', Char.ofNat 0x1F600, '\\']
  index := -8
  functionName := ['"', '\n']
  isMapped := true

/-- It is printed, and read back as one object; without its escapes it is printed otherwise. -/
theorem print_faithful_escaped : ∃ text objects, print true [escapedDefinition] = .ok text ∧
    InPrint text ∧ parse? text = some (.arr objects) ∧
    List.Forall₂ (Describes true) [escapedDefinition] objects ∧
    print true [{ escapedDefinition with functionName := [] }] ≠ .ok text := by
  obtain ⟨hprinted, hfaithful⟩ := print_faithful true [escapedDefinition]
  obtain ⟨text, htext⟩ := hprinted.mpr (by decide)
  obtain ⟨hprint, ⟨objects, hread, hobjects⟩, halike⟩ := hfaithful text htext
  refine ⟨text, objects, htext, hprint, hread, hobjects, fun hother => ?_⟩
  obtain - | ⟨hsame, -⟩ := (halike _ text hother).mp rfl
  exact absurd hsame.functionName (by decide)

end Dump

end StubVector
