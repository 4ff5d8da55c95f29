import StubVector.Text.Blank
import StubVector.Text.Numeral

/-!
# Decimal digits of all scripts

Every script with decimal digits has its ten digits at ten consecutive code points of Unicode 14.

* `isDecimalDigit`: whether a character is such a digit.
* `isNegativeNumber`: the shape of a negative number on a command line.
* `isInteger`: the shape of an integer on a command line.
-/

namespace StubVector.Text

/-- The code points of the zeros. -/
def zeroDigits : List Nat :=
  [0x30, 0x660, 0x6F0, 0x7C0, 0x966, 0x9E6, 0xA66, 0xAE6, 0xB66, 0xBE6, 0xC66, 0xCE6, 0xD66,
    0xDE6, 0xE50, 0xED0, 0xF20, 0x1040, 0x1090, 0x17E0, 0x1810, 0x1946, 0x19D0, 0x1A80, 0x1A90,
    0x1B50, 0x1BB0, 0x1C40, 0x1C50, 0xA620, 0xA8D0, 0xA900, 0xA9D0, 0xA9F0, 0xAA50, 0xABF0, 0xFF10,
    0x104A0, 0x10D30, 0x11066, 0x110F0, 0x11136, 0x111D0, 0x112F0, 0x11450, 0x114D0, 0x11650,
    0x116C0, 0x11730, 0x118E0, 0x11950, 0x11C50, 0x11D50, 0x11DA0, 0x16A60, 0x16AC0, 0x16B50,
    0x1D7CE, 0x1D7D8, 0x1D7E2, 0x1D7EC, 0x1D7F6, 0x1E140, 0x1E2F0, 0x1E950, 0x1FBF0]

/-- Whether the character is a decimal digit of some script. -/
def isDecimalDigit (c : Char) : Bool := zeroDigits.any fun z => z ≤ c.toNat && c.toNat < z + 10

/-- Whether the text is a row of at least one decimal digit. -/
def isDigits (text : Text) : Bool := !text.isEmpty && text.all isDecimalDigit

/-- Whether the text has the shape of a negative number: a sign and digits, or a sign, optional
digits, a point and digits. One line feed may follow. -/
def isNegativeNumber (text : Text) : Bool :=
  match (dropBack? ['\n'] text).getD text with
  | '-' :: number =>
    isDigits number ||
      match cutAt? '.' number with
      | some (whole, fraction) => whole.all isDecimalDigit && isDigits fraction
      | none => false
  | _ => false

/-- Whether the text is a row of digits in which single underscores may stand between digits, with
no more digits than a numeral may have. -/
def isGroupedDigits (text : Text) : Bool :=
  (text.splitOn '_').all isDigits && text.countP (· != '_') ≤ maxNumeralDigits

/-- The blanks that may surround an integer: all but the separator controls. -/
def isNumberPadding (c : Char) : Bool := isBlank c && !(0x1C ≤ c.toNat && c.toNat ≤ 0x1F)

/-- Whether the text has the shape of an integer: an optional sign and grouped digits, with padding
at both ends. -/
def isInteger (text : Text) : Bool :=
  match ((text.dropWhile isNumberPadding).reverse.dropWhile isNumberPadding).reverse with
  | '+' :: digits => isGroupedDigits digits
  | '-' :: digits => isGroupedDigits digits
  | digits => isGroupedDigits digits

end StubVector.Text
