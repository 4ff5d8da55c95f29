import StubVector.Failure
import StubVector.Json

/-!
# Dumps

Definitions, and data that hold them, as JSON for inspection. Every definition becomes an object
with its fields in ascending order; its source line is left out unless it is asked for.

* `Dump.DebugNode.data`: the JSON value of nested data, or the first value in it that has none.
* `Dump.print`: the printed form of a list of definitions.
-/

namespace StubVector.Dump

variable {α : Type} [Letter α]

/-- The JSON value of a source line. -/
def sourceData (source : SourceLine α) : Json α :=
  .obj [
    ("line_number".toList, .int source.lineNumber),
    ("node".toList, .str (Letter.ofText "SourceLine".toList)),
    ("path".toList, .str source.path),
    ("text".toList, .str source.text)]

/-- The JSON value of a definition, with its source line or without it. -/
def definitionData (withSources : Bool) (definition : Definition α) : Json α :=
  .obj ([
    ("function_name".toList, .str definition.functionName),
    ("index".toList, .int definition.index),
    ("is_mapped".toList, .bool definition.isMapped),
    ("node".toList, .str (Letter.ofText "StubDefinition".toList))] ++
    (if withSources then
      [("source".toList, (definition.source.map sourceData).getD .null)] else []) ++ [
    ("symbol".toList, .str definition.symbol)])

/-- Nested data in which definitions may occur. -/
inductive DebugNode where
  | null
  | bool (value : Bool)
  | str (value : Text)
  | int (value : Int)
  | kind (value : OutputKind)
  | mode (value : DispatchMode)
  | definition (value : Definition)
  | source (value : SourceLine)
  /-- A list or a tuple. -/
  | list (items : List DebugNode)
  /-- A value of a type that has no JSON value. -/
  | unsupported (typeName : Text)
  deriving Repr

mutual

/-- The JSON value of nested data, or the name of the first type in it that has none
(`definition_to_debug_data`). -/
def DebugNode.data (withSources : Bool) : DebugNode → Except Text Json
  | .null => .ok .null
  | .bool value => .ok (.bool value)
  | .str value => .ok (.str value)
  | .int value => .ok (.int value)
  | .kind value => .ok (.str value.name)
  | .mode value => .ok (.str value.name)
  | .definition value => .ok (definitionData withSources value)
  | .source value => .ok (sourceData value)
  | .list items => (dataOfItems withSources items).map .arr
  | .unsupported typeName => .error typeName

/-- The JSON values of the elements of a list. -/
def dataOfItems (withSources : Bool) : List DebugNode → Except Text (List Json)
  | [] => .ok []
  | item :: items =>
    match item.data withSources with
    | .error typeName => .error typeName
    | .ok value => (dataOfItems withSources items).map (value :: ·)

end

/-- The wording for a type that has no JSON value. -/
def unsupportedMessage (typeName : Text) : Text :=
  "Unsupported definition debug serialization value: ".toList ++ typeName

/-- Whether an integer has few enough digits to be printed. -/
def isPrintable (n : Int) : Bool := n.natAbs < Nat.pow 10 Text.maxNumeralDigits

/-- The JSON value of a list of definitions. -/
def data (withSources : Bool) (definitions : List (Definition α)) : Json α :=
  .arr (definitions.map (definitionData withSources))

/-- The integers that are printed for a definition. -/
def numbers (withSources : Bool) (definition : Definition α) : List Int :=
  definition.index ::
    if withSources then (definition.source.map (·.lineNumber)).toList else []

/-- The printed form of a list of definitions (`definitions_to_debug_json`). -/
def print (withSources : Bool) (definitions : List (Definition α)) : Except (Failure α) Text :=
  if (definitions.flatMap (numbers withSources)).all isPrintable then
    .ok (data withSources definitions).render
  else .error .oversizedNumber

end StubVector.Dump
