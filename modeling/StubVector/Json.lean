import StubVector.Text.Letter
import StubVector.Text.Numeral

/-!
# JSON

Values of JSON, whose strings may be of any letters, and their printed form: two spaces of
indentation for every level, one element or field per line, and only the characters from the space
to the tilde. The fields of an object stand in the order in which the value lists them.

* `Json.render`: the printed form of a value.
-/

namespace StubVector

/-- A value of JSON. -/
inductive Json (α : Type := Char) where
  | null
  | bool (value : Bool)
  | int (value : Int)
  /-- A number with a fraction or an exponent, as it is written. -/
  | fraction (numeral : Text)
  | str (value : List α)
  | arr (items : List (Json α))
  | obj (fields : List (Text × Json α))
  deriving Repr

namespace Json

variable {α : Type} [Letter α]

/-- A letter inside a printed string. -/
def escapeLetter (a : α) : Text :=
  let c := Letter.face a
  if c = '"' then "\\\"".toList
  else if c = '\\' then "\\\\".toList
  else if c = '\n' then "\\n".toList
  else if c = '\r' then "\\r".toList
  else if c = '\t' then "\\t".toList
  else if c.toNat = 0x08 then "\\b".toList
  else if c.toNat = 0x0C then "\\f".toList
  else if 0x20 ≤ c.toNat ∧ c.toNat ≤ 0x7E then [c]
  else (Letter.units a).flatMap fun unit => "\\u".toList ++ Text.hexOf 4 unit

/-- The printed form of a string. -/
def renderString (value : List α) : Text := '"' :: value.flatMap escapeLetter ++ ['"']

/-- The start of a new line at a level. -/
def newLine (level : Nat) : Text := '\n' :: List.replicate (2 * level) ' '

mutual

/-- The printed form of a value whose lines stand at `level`. -/
def renderAt (level : Nat) : Json α → Text
  | .null => "null".toList
  | .bool true => "true".toList
  | .bool false => "false".toList
  | .int value => Text.decimal value
  | .fraction numeral => numeral
  | .str value => renderString value
  | .arr [] => "[]".toList
  | .arr (item :: items) => '[' :: renderItems (level + 1) (item :: items) ++ newLine level ++ [']']
  | .obj [] => ['\x7b', '\x7d']
  | .obj (field :: fields) =>
    '\x7b' :: renderFields (level + 1) (field :: fields) ++ newLine level ++ ['\x7d']

/-- The printed form of elements, each on a line of its own at `level`. -/
def renderItems (level : Nat) : List (Json α) → Text
  | [] => []
  | item :: items =>
    newLine level ++ renderAt level item ++ (if items.isEmpty then [] else [',']) ++
      renderItems level items

/-- The printed form of fields, each on a line of its own at `level`. -/
def renderFields (level : Nat) : List (Text × Json α) → Text
  | [] => []
  | (name, value) :: fields =>
    newLine level ++ renderString name ++ ": ".toList ++ renderAt level value ++
      (if fields.isEmpty then [] else [',']) ++ renderFields level fields

end

/-- The printed form of a value. -/
def render (value : Json α) : Text := renderAt 0 value

end Json

end StubVector
