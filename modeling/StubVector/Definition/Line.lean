import StubVector.Failure
import StubVector.Text.Blank

/-!
# Definition lines

A definition stands on one line of the form

    #define ZIS_STUB_<symbol> <index> /* <function> */
    #define ZIS_STUB_<symbol> <index> /* <function> mapped */

Only the space separates symbol, index and comment, while blanks of every kind are trimmed around
the index and inside the comment. Every line that starts with the marker has to be a definition.

* `Line.isDefinition`: whether a line starts with the marker.
* `Line.parse`: the definition on a line, `none` for a line without the marker.
* `Line.render`: the line of a definition.
-/

namespace StubVector.Line

open Text

variable {α : Type} [DecidableEq α] [Letter α]

/-- What every definition line starts with. -/
def marker : Text := "#define ZIS_STUB_".toList

/-- What ends the comment of a mapped function, after its name. -/
def mappedMark : Text := " mapped".toList

/-- Whether a line starts with the marker (`is_stub_definition_line`). -/
def isDefinition (line : List α) : Bool := startsWith (Letter.ofText marker) line

/-- The index that a row of decimal digits stands for. -/
def readIndex (digits : List α) : Except (Failure α) Int :=
  if maxNumeralDigits < digits.length then .error (.oversizedIndex digits.length)
  else .ok (readDecimal digits)

/-- The index that a row of decimal digits stands for, with a sign in front if it is negative. -/
def readSignedIndex (numeral : Text) : Except Failure Int :=
  match dropFront? ['-'] numeral with
  | some digits => (readIndex digits).map fun index => -index
  | none => readIndex numeral

/-- The index in the field of a line (`_parse_index`). -/
def parseIndex (field : List α) (source : SourceLine α) : Except (Failure α) Int :=
  if !isDecimal field then .error (.faulty .badIndex source) else readIndex field

/-- What stands between the comment marks, trimmed. -/
def commentBody? (comment : List α) : Option (List α) :=
  let opened := dropFront? (Letter.ofText "/*".toList) comment
  (opened.bind (dropBack? (Letter.ofText "*/".toList))).map trim

/-- The function name in a comment, and whether it is marked as mapped (`_split_function_name`). -/
def splitMapped (body : List α) : List α × Bool :=
  match dropBack? (Letter.ofText mappedMark) body with
  | some name => (trimEnd name, true)
  | none => (body, false)

/-- The definition that follows the marker. -/
def parseAfterMarker (rest : List α) (source : SourceLine α) :
    Except (Failure α) (Definition α) :=
  match cutAt? (Letter.ofChar ' ') rest with
  | none => .error (.faulty .badDefine source)
  | some (symbol, afterSymbol) =>
    if symbol.isEmpty then .error (.faulty .badDefine source)
    else
      match cutAt? (Letter.ofChar ' ') (trim afterSymbol) with
      | none => .error (.faulty .badConstant source)
      | some (digits, afterIndex) =>
        match parseIndex digits source with
        | .error failure => .error failure
        | .ok index =>
          match commentBody? (trim afterIndex) with
          | none => .error (.faulty .missingComment source)
          | some body =>
            let (functionName, isMapped) := splitMapped body
            if functionName.isEmpty then .error (.faulty .missingFunctionName source)
            else .ok { symbol, index, functionName, isMapped, source := some source }

/-- The definition on a line, `none` for a line without the marker (`parse_stub_definition`). -/
def parse (line : List α) (source : SourceLine α) : Except (Failure α) (Option (Definition α)) :=
  match dropFront? (Letter.ofText marker) line with
  | none => .ok none
  | some rest => (parseAfterMarker rest source).map some

/-- The place of a line that comes from no file. -/
def placeless (line : Text) : SourceLine := { path := memoryPath, lineNumber := 1, text := line }

/-- The line of a definition. -/
def render (definition : Definition) : Text :=
  marker ++ definition.symbol ++ [' '] ++ decimal definition.index ++ " /* ".toList ++
    definition.functionName ++ (if definition.isMapped then mappedMark else []) ++ " */".toList

end StubVector.Line
