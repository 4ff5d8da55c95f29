import StubVector.Text.Printable

/-!
# Quoted text

The form in which messages show a text that came from outside: between single quotes, or between
double quotes if the text holds a single quote and no double quote. The quote itself and the
backslash are escaped, tab, line feed and carriage return have short escapes, and every other
character that cannot be printed is written as `\xNN`, `\uNNNN` or `\UNNNNNNNN`.
-/

namespace StubVector.Text

/-- The quote that surrounds a text. -/
def quoteFor (text : Text) : Char := if '\'' ∈ text ∧ '"' ∉ text then '"' else '\''

/-- The escape of a code point, in the shortest of its forms. -/
def escapeOf (point : Nat) : Text :=
  if point < 0x100 then "\\x".toList ++ hexOf 2 point
  else if point < 0x10000 then "\\u".toList ++ hexOf 4 point
  else "\\U".toList ++ hexOf 8 point

/-- A character inside a text between two `quote`s. -/
def quoteChar (quote c : Char) : Text :=
  if c = quote || c = '\\' then ['\\', c]
  else if c = '\t' then "\\t".toList
  else if c = '\n' then "\\n".toList
  else if c = '\r' then "\\r".toList
  else if isPrintable c then [c]
  else escapeOf c.toNat

/-- The text as messages show it. -/
def quoted (text : Text) : Text :=
  let quote := quoteFor text
  quote :: text.flatMap (quoteChar quote) ++ [quote]

end StubVector.Text
