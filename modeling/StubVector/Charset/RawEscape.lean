import StubVector.Text.Wide

/-!
# Raw escapes

A charset of one byte per character, as in Latin-1, in which `\u` and four hexadecimal digits, or
`\U` and eight, stand for the code point of that number. A backslash before anything else stands for
itself, and so does what follows it. Halves of pairs can be escaped too.

* `RawEscape.decode?`: the wide text of bytes.
-/

namespace StubVector.RawEscape

/-- What was read last. -/
inductive State where
  | plain
  | backslash
  /-- An escape of which `missing + 1` digits are missing, and the number that the others give. -/
  | digits (missing value : Nat)
  deriving DecidableEq, Repr

/-- The character that a byte stands for. -/
def ofByte (byte : UInt8) : CodePoint := .char (Char.ofNat byte.toNat)

/-- The byte of a backslash. -/
def backslashByte : UInt8 := 0x5C

/-- The number that a byte stands for as a hexadecimal digit. -/
def digit? (byte : UInt8) : Option Nat :=
  if 0x30 ≤ byte ∧ byte ≤ 0x39 then some (byte.toNat - 0x30)
  else if 0x41 ≤ byte ∧ byte ≤ 0x46 then some (byte.toNat - 0x41 + 10)
  else if 0x61 ≤ byte ∧ byte ≤ 0x66 then some (byte.toNat - 0x61 + 10)
  else none

/-- The code point of a number. -/
def point? (value : Nat) : Option CodePoint :=
  if value < 0x110000 then some (.ofUnit value) else none

/-- The wide text of the bytes after a state. -/
def decodeFrom : State → List UInt8 → Option WideText
  | .plain, [] => some []
  | .plain, byte :: bytes =>
    if byte = backslashByte then decodeFrom .backslash bytes
    else (decodeFrom .plain bytes).map (ofByte byte :: ·)
  | .backslash, [] => some [ofByte backslashByte]
  | .backslash, byte :: bytes =>
    if byte = 0x75 then decodeFrom (.digits 3 0) bytes
    else if byte = 0x55 then decodeFrom (.digits 7 0) bytes
    else (decodeFrom .plain bytes).map ([ofByte backslashByte, ofByte byte] ++ ·)
  | .digits _ _, [] => none
  | .digits missing value, byte :: bytes =>
    match digit? byte, missing with
    | none, _ => none
    | some digit, missing + 1 => decodeFrom (.digits missing (value * 16 + digit)) bytes
    | some digit, 0 =>
      (point? (value * 16 + digit)).bind fun point => (decodeFrom .plain bytes).map (point :: ·)

/-- The wide text of bytes, if every escape in them is complete. -/
def decode? (bytes : List UInt8) : Option WideText := decodeFrom .plain bytes

end StubVector.RawEscape
