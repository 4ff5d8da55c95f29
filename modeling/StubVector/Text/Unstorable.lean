import StubVector.Text.Numeral
import StubVector.Text.Quoted

/-!
# Code points that cannot be stored

The wording for a text that a charset has no bytes for. It names the first row of code points that
cannot be stored: a single one by its escape, more by the positions of the first and the last.
-/

namespace StubVector.Text

/-- The wording for a row of code points, after `position` others, that a charset cannot store. -/
def unstorable (charset : Text) (position : Nat) (row : List Nat) (reason : Text) : Text :=
  let place :=
    match row with
    | [point] => " '".toList ++ escapeOf point ++ "' in position ".toList ++ decimalNat position
    | row =>
      "s in position ".toList ++ decimalNat position ++ ['-'] ++
        decimalNat (position + row.length - 1)
  '\'' :: charset ++ "' codec can't encode character".toList ++ place ++ ": ".toList ++ reason

end StubVector.Text
