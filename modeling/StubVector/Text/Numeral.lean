import StubVector.Text.Letter

/-!
# Numerals

Decimal numerals of ASCII digits, and the numbers that stand in the output.

* `readDecimal`: the value of a row of decimal digits.
* `decimal`: an integer in decimal digits, with a sign in front if it is negative.
* `upperHex`: an integer in upper-case hexadecimal digits, padded with zeros after the sign.
* `maxNumeralDigits`: numerals with more digits than this are neither read nor printed in decimal.
-/

namespace StubVector.Text

/-- The greatest number of decimal digits that is read or printed. -/
def maxNumeralDigits : Nat := 4300

section Reading

variable {α : Type} [Letter α]

/-- Whether the text is a row of at least one ASCII decimal digit. -/
def isDecimal (text : List α) : Bool := !text.isEmpty && text.all fun a => (Letter.face a).isDigit

/-- The value of a row of decimal digits. -/
def readDecimal (digits : List α) : Nat :=
  digits.foldl (fun value a => 10 * value + ((Letter.face a).toNat - '0'.toNat)) 0

end Reading

/-- A natural number in decimal digits. -/
def decimalNat (n : Nat) : Text := Nat.toDigits 10 n

/-- An integer in decimal digits. -/
def decimal (n : Int) : Text :=
  if n < 0 then '-' :: decimalNat n.natAbs else decimalNat n.natAbs

/-- An integer in upper-case hexadecimal digits. The sign counts towards `width`; zeros between the
sign and the first digit fill what is missing. -/
def upperHex (width : Nat) (n : Int) : Text :=
  let digits := (Nat.toDigits 16 n.natAbs).map Char.toUpper
  if n < 0 then '-' :: padLeft '0' (width - 1) digits else padLeft '0' width digits

end StubVector.Text
