import StubVector.Json.Reader
import StubVector.Text.Wide

/-!
# YAML

The values that documents have. How text is read as a document is not stated here: a loader says it.

* `Yaml.Loader`: what a text is as a document, or why it is none.
* `Yaml.ofJson`: the value of a JSON text.
* `Yaml.Loader.ReadsJson`: a loader reads a JSON text as its value, and the empty text as null.
* `Yaml.Loader.json`: a loader that reads nothing else.
-/

namespace StubVector

/-- A value of a YAML document. -/
inductive Yaml where
  | null
  | bool (value : Bool)
  | int (value : Int)
  | text (value : WideText)
  | list (items : List Yaml)
  | map (fields : List (Yaml × Yaml))
  /-- A value of another type, such as a number with a fraction, or a date. -/
  | other
  deriving Repr

namespace Yaml

/-- What a text is as a document, or the wording of why it is none. -/
abbrev Loader := Text → Except Text Yaml

/-- Whether a value is a text of these characters. -/
def isText (key : Text) : Yaml → Bool
  | .text value => value = .ofText key
  | _ => false

mutual

/-- The value of a JSON text. -/
def ofJson : Json → Yaml
  | .null => .null
  | .bool value => .bool value
  | .int value => .int value
  | .fraction _ => .other
  | .str value => .text (.ofText value)
  | .arr items => .list (ofItems items)
  | .obj fields => .map (ofFields fields)

/-- The values of the items of an array. -/
def ofItems : List Json → List Yaml
  | [] => []
  | item :: items => ofJson item :: ofItems items

/-- The values of the fields of an object, with their names. -/
def ofFields : List (Text × Json) → List (Yaml × Yaml)
  | [] => []
  | (name, value) :: fields => (.text (.ofText name), ofJson value) :: ofFields fields

end

/-- That a loader reads a text as JSON is read, if it is a JSON text, and as null if it is empty. -/
structure Loader.ReadsJson (loader : Loader) (text : Text) : Prop where
  json : ∀ value, Json.parse? text = some value → loader text = .ok (ofJson value)
  empty : text = [] → loader text = .ok .null

/-- A loader of JSON texts alone. -/
def Loader.json : Loader := fun text =>
  match Json.parse? text with
  | some value => .ok (ofJson value)
  | none => if text.isEmpty then .ok .null else .error "the text is no document".toList

theorem Loader.readsJson_json (text : Text) : json.ReadsJson text where
  json value h := by rw [Loader.json, h]
  empty h := by
    have hnone : Json.parse? [] = none := rfl
    rw [h, Loader.json, hnone]
    rfl

end Yaml

end StubVector
