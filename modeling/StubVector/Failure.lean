import StubVector.Definition
import StubVector.Selector
import StubVector.Text.Letter
import StubVector.Text.Numeral

/-!
# Failures

Why no output can be generated. A `Fault` is what is wrong with one definition; a `Failure` adds
where it stands, or names one of the faults that no line is to blame for.

* `Failure.message`: the wording of a failure.
-/

namespace StubVector

/-- What is wrong with a definition. -/
inductive Fault where
  /-- No symbol, or nothing after the symbol. -/
  | badDefine
  /-- Nothing after the index. -/
  | badConstant
  /-- The index is not a row of decimal digits. -/
  | badIndex
  /-- No comment stands at the end of the line. -/
  | missingComment
  /-- The comment is blank. -/
  | missingFunctionName
  /-- The slot lies beyond the greatest displacement of a load instruction. -/
  | indexOutOfRange
  deriving DecidableEq, Repr

/-- The wording of a fault. -/
def Fault.message : Fault → Text
  | badDefine => "bad define".toList
  | badConstant => "bad define constant".toList
  | badIndex => "bad define index".toList
  | missingComment => "comment with function name missing".toList
  | missingFunctionName => "function name missing".toList
  | indexOutOfRange => "stub index out of range".toList

/-- Why no output can be generated. -/
inductive Failure (α : Type := Char) where
  /-- A definition is wrong. -/
  | faulty (fault : Fault) (source : SourceLine α)
  /-- An index has more digits than a numeral may have. -/
  | oversizedIndex (digits : Nat)
  /-- A number has more digits than may be printed. -/
  | oversizedNumber
  | unknownKind (given : Selector)
  | unknownMode (given : Selector)
  deriving DecidableEq, Repr

/-- The wording of an index that has too many digits. -/
def oversizedIndexMessage (digits : Nat) : Text :=
  "Exceeds the limit (".toList ++ Text.decimalNat Text.maxNumeralDigits ++
    " digits) for integer string conversion: value has ".toList ++ Text.decimalNat digits ++
    " digits; use sys.set_int_max_str_digits() to increase the limit".toList

/-- The wording of a number that has too many digits. -/
def oversizedNumberMessage : Text :=
  "Exceeds the limit (".toList ++ Text.decimalNat Text.maxNumeralDigits ++
    " digits) for integer string conversion".toList ++
    "; use sys.set_int_max_str_digits() to increase the limit".toList

section Wording

variable {α : Type} [Letter α]

open Letter (ofText)

/-- The wording of a fault at a line. -/
def Fault.messageAt (fault : Fault) (source : SourceLine α) : List α :=
  ofText (fault.message ++ " '".toList) ++ source.text ++ ofText "' at ".toList ++ source.path ++
    ofText (':' :: Text.decimal source.lineNumber)

/-- The wording of a failure. -/
def Failure.message : Failure α → List α
  | faulty fault source => fault.messageAt source
  | oversizedIndex digits => ofText (oversizedIndexMessage digits)
  | oversizedNumber => ofText oversizedNumberMessage
  | unknownKind given => ofText ("unknown output kind ".toList ++ given.describe)
  | unknownMode given => ofText ("unknown dispatch mode ".toList ++ given.describe)

end Wording

end StubVector
