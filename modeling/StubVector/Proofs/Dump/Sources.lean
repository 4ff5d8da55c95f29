import StubVector.Proofs.Dump.Encoding

/-!
# Dumps with and without source lines

Nested data has a JSON value unless a value of some other type stands in it, and it is refused for
the first one, from left to right. Whether source lines are shown makes no other difference: the
value without them is the value with them, less every field that holds one.

* `DebugNode.unsupportedTypes`: the types in nested data that have no JSON value, in order.
* `Json.without`: a value less the fields of a name, in every object in it.
* `DebugNode.data_eq_error_iff`: for which type nested data is refused.
* `DebugNode.data_less_sources`: **leaving out source lines**, before or after.
-/

namespace StubVector

/-! ## Values less a field -/

namespace Json

mutual

/-- A value less the fields of that name, in every object in it. -/
def without (key : Text) : Json → Json
  | .arr items => .arr (itemsWithout key items)
  | .obj fields => .obj (fieldsWithout key fields)
  | value => value

/-- Elements less the fields of that name, in every object in them. -/
def itemsWithout (key : Text) : List Json → List Json
  | [] => []
  | item :: items => item.without key :: itemsWithout key items

/-- Fields less those of that name, also in every object in them. -/
def fieldsWithout (key : Text) : List (Text × Json) → List (Text × Json)
  | [] => []
  | (name, value) :: fields =>
    if name = key then fieldsWithout key fields
    else (name, value.without key) :: fieldsWithout key fields

end

end Json

namespace Dump

open Json

variable {withSources : Bool}

mutual

/-- The types in nested data that have no JSON value, from left to right. -/
def DebugNode.unsupportedTypes : DebugNode → List Text
  | .list items => unsupportedTypesOf items
  | .unsupported typeName => [typeName]
  | _ => []

/-- The types in the elements of a list that have no JSON value, from left to right. -/
def unsupportedTypesOf : List DebugNode → List Text
  | [] => []
  | item :: items => item.unsupportedTypes ++ unsupportedTypesOf items

end

/-! ## Refusals -/

mutual

/-- Nested data is refused for the first type that has no JSON value. -/
theorem DebugNode.data_eq_error_iff (withSources : Bool) (typeName : Text) (node : DebugNode) :
    node.data withSources = .error typeName ↔ node.unsupportedTypes.head? = some typeName := by
  cases node with
  | list items =>
    rw [DebugNode.data, DebugNode.unsupportedTypes,
      ← dataOfItems_eq_error_iff withSources typeName items]
    cases dataOfItems withSources items <;> simp [Except.map]
  | _ => simp [DebugNode.data, DebugNode.unsupportedTypes]

/-- The elements of a list are refused for the first type among them that has no JSON value. -/
theorem dataOfItems_eq_error_iff (withSources : Bool) (typeName : Text) (items : List DebugNode) :
    dataOfItems withSources items = .error typeName ↔
      (unsupportedTypesOf items).head? = some typeName := by
  cases items with
  | nil => simp [dataOfItems, unsupportedTypesOf]
  | cons item items =>
    have hitem : ∀ name, item.data withSources = .error name ↔
        item.unsupportedTypes.head? = some name :=
      fun name => DebugNode.data_eq_error_iff withSources name item
    have hitems := dataOfItems_eq_error_iff withSources typeName items
    rw [dataOfItems, unsupportedTypesOf]
    cases hdata : item.data withSources with
    | error other =>
      rw [List.head?_append, (hitem other).mp hdata]
      simp
    | ok value =>
      have hnone : item.unsupportedTypes = [] := by
        rw [← List.head?_eq_none_iff, Option.eq_none_iff_forall_ne_some]
        intro other hother
        rw [(hitem other).mpr hother] at hdata
        cases hdata
      rw [hnone, List.nil_append, ← hitems]
      cases dataOfItems withSources items <;> simp [Except.map]

end

/-! ## Values -/

theorem map_eq_ok_iff {ε α β : Type} {result : Except ε α} {change : α → β} {changed : β} :
    result.map change = .ok changed ↔ ∃ value, result = .ok value ∧ changed = change value := by
  cases result <;> simp [Except.map, eq_comm]

/-- Elements have values if each of them has one. -/
theorem dataOfItems_cons_eq_ok_iff {item : DebugNode} {items : List DebugNode}
    {values : List Json} :
    dataOfItems withSources (item :: items) = .ok values ↔
      ∃ first others, item.data withSources = .ok first ∧
        dataOfItems withSources items = .ok others ∧ values = first :: others := by
  rw [dataOfItems]
  cases item.data withSources with
  | error typeName => simp
  | ok first => simp [map_eq_ok_iff]

mutual

/-- Every number in the value of nested data is an integer. -/
theorem DebugNode.integral_data (node : DebugNode) (value : Json)
    (h : node.data withSources = .ok value) : Integral value := by
  cases node with
  | list items =>
    obtain ⟨values, hvalues, rfl⟩ := map_eq_ok_iff.mp h
    exact .arr (integral_dataOfItems items values hvalues)
  | definition definition =>
    cases h
    exact integral_definitionData withSources definition
  | source source =>
    cases h
    exact integral_sourceData (some source)
  | unsupported => cases h
  | _ => cases h; constructor

/-- Every number in the values of elements is an integer. -/
theorem integral_dataOfItems (items : List DebugNode) (values : List Json)
    (h : dataOfItems withSources items = .ok values) : ∀ value ∈ values, Integral value := by
  cases items with
  | nil =>
    cases h
    exact fun _ => nofun
  | cons item items =>
    obtain ⟨first, others, hfirst, hothers, rfl⟩ := dataOfItems_cons_eq_ok_iff.mp h
    rw [List.forall_mem_cons]
    exact ⟨item.integral_data first hfirst, integral_dataOfItems items others hothers⟩

end

/-! ## Leaving out source lines -/

/-- A definition less its source line. -/
theorem without_definitionData (definition : Definition) :
    (definitionData true definition).without "source".toList = definitionData false definition := by
  rfl

/-- A source line holds no other. -/
theorem without_sourceData (source : SourceLine) :
    (sourceData source).without "source".toList = sourceData source := by
  rfl

mutual

/-- The value without source lines is the one with them, less the fields that hold one. -/
theorem DebugNode.data_false (node : DebugNode) :
    node.data false = (node.data true).map (·.without "source".toList) := by
  cases node with
  | list items =>
    rw [DebugNode.data, DebugNode.data, dataOfItems_false items]
    cases dataOfItems true items <;> rfl
  | definition definition => exact congrArg Except.ok (without_definitionData definition).symm
  | source source => exact congrArg Except.ok (without_sourceData source).symm
  | _ => rfl

/-- So are the values of elements. -/
theorem dataOfItems_false (items : List DebugNode) :
    dataOfItems false items = (dataOfItems true items).map (itemsWithout "source".toList) := by
  cases items with
  | nil => rfl
  | cons item items =>
    rw [dataOfItems, dataOfItems, item.data_false, dataOfItems_false items]
    cases item.data true with
    | error typeName => rfl
    | ok value => cases dataOfItems true items <;> rfl

end

/-- **Leaving out source lines.** With source lines or without them, nested data has a value exactly
if no value of another type stands in it, and is refused for the first such type otherwise; its
value holds no number but integers. The value without source lines is the one with them, less the
fields that hold one, in every object at any depth. -/
theorem DebugNode.data_less_sources (node : DebugNode) :
    (∀ withSources,
      ((∃ value, node.data withSources = .ok value) ↔ node.unsupportedTypes = []) ∧
      (∀ typeName, node.data withSources = .error typeName ↔
        node.unsupportedTypes.head? = some typeName) ∧
      ∀ value, node.data withSources = .ok value → Integral value) ∧
    node.data false = (node.data true).map (·.without "source".toList) := by
  refine ⟨fun withSources => ⟨?_, fun typeName => ?_, fun value => ?_⟩, node.data_false⟩
  · rw [← List.head?_eq_none_iff, Option.eq_none_iff_forall_ne_some]
    simp only [ne_eq, ← DebugNode.data_eq_error_iff withSources]
    cases node.data withSources <;> simp
  · exact DebugNode.data_eq_error_iff withSources typeName node
  · exact node.integral_data value

-- Of two types without a value, the one further left is named, however deep it stands.
example : (DebugNode.list [.mode .zvte, .list [.list [], .unsupported "set".toList],
    .unsupported "dict".toList]).data true = .error "set".toList := rfl

end Dump

end StubVector
