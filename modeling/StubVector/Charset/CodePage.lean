import StubVector.Text.Unstorable

/-!
# Code pages

Charsets of one byte per character: ASCII and Latin-1, the EBCDIC pages 1047, 037, 500 and 1140, and
page 1252. The EBCDIC pages are stated as page 1047 and the bytes at which another page differs from
it. On page 1047 the byte 15 is the line feed and the byte 25 the next-line control.

* `CodePage.char?`: the character of a byte.
* `CodePage.byte?`: the byte of a character.
* `CodePage.encode`: the bytes of a text, or the first characters that have none.
-/

namespace StubVector

/-- A charset of one byte per character. -/
inductive CodePage where
  | ascii
  | latin1
  | ebcdic1047
  | ebcdic037
  | ebcdic500
  | ebcdic1140
  | windows1252
  deriving DecidableEq, Repr

namespace CodePage

/-- The code points of page 1047, by byte. -/
def ebcdicTable : List Nat :=
  [0x00, 0x01, 0x02, 0x03, 0x9C, 0x09, 0x86, 0x7F, 0x97, 0x8D, 0x8E, 0x0B, 0x0C, 0x0D, 0x0E, 0x0F,
   0x10, 0x11, 0x12, 0x13, 0x9D, 0x0A, 0x08, 0x87, 0x18, 0x19, 0x92, 0x8F, 0x1C, 0x1D, 0x1E, 0x1F,
   0x80, 0x81, 0x82, 0x83, 0x84, 0x85, 0x17, 0x1B, 0x88, 0x89, 0x8A, 0x8B, 0x8C, 0x05, 0x06, 0x07,
   0x90, 0x91, 0x16, 0x93, 0x94, 0x95, 0x96, 0x04, 0x98, 0x99, 0x9A, 0x9B, 0x14, 0x15, 0x9E, 0x1A,
   0x20, 0xA0, 0xE2, 0xE4, 0xE0, 0xE1, 0xE3, 0xE5, 0xE7, 0xF1, 0xA2, 0x2E, 0x3C, 0x28, 0x2B, 0x7C,
   0x26, 0xE9, 0xEA, 0xEB, 0xE8, 0xED, 0xEE, 0xEF, 0xEC, 0xDF, 0x21, 0x24, 0x2A, 0x29, 0x3B, 0x5E,
   0x2D, 0x2F, 0xC2, 0xC4, 0xC0, 0xC1, 0xC3, 0xC5, 0xC7, 0xD1, 0xA6, 0x2C, 0x25, 0x5F, 0x3E, 0x3F,
   0xF8, 0xC9, 0xCA, 0xCB, 0xC8, 0xCD, 0xCE, 0xCF, 0xCC, 0x60, 0x3A, 0x23, 0x40, 0x27, 0x3D, 0x22,
   0xD8, 0x61, 0x62, 0x63, 0x64, 0x65, 0x66, 0x67, 0x68, 0x69, 0xAB, 0xBB, 0xF0, 0xFD, 0xFE, 0xB1,
   0xB0, 0x6A, 0x6B, 0x6C, 0x6D, 0x6E, 0x6F, 0x70, 0x71, 0x72, 0xAA, 0xBA, 0xE6, 0xB8, 0xC6, 0xA4,
   0xB5, 0x7E, 0x73, 0x74, 0x75, 0x76, 0x77, 0x78, 0x79, 0x7A, 0xA1, 0xBF, 0xD0, 0x5B, 0xDE, 0xAE,
   0xAC, 0xA3, 0xA5, 0xB7, 0xA9, 0xA7, 0xB6, 0xBC, 0xBD, 0xBE, 0xDD, 0xA8, 0xAF, 0x5D, 0xB4, 0xD7,
   0x7B, 0x41, 0x42, 0x43, 0x44, 0x45, 0x46, 0x47, 0x48, 0x49, 0xAD, 0xF4, 0xF6, 0xF2, 0xF3, 0xF5,
   0x7D, 0x4A, 0x4B, 0x4C, 0x4D, 0x4E, 0x4F, 0x50, 0x51, 0x52, 0xB9, 0xFB, 0xFC, 0xF9, 0xFA, 0xFF,
   0x5C, 0xF7, 0x53, 0x54, 0x55, 0x56, 0x57, 0x58, 0x59, 0x5A, 0xB2, 0xD4, 0xD6, 0xD2, 0xD3, 0xD5,
   0x30, 0x31, 0x32, 0x33, 0x34, 0x35, 0x36, 0x37, 0x38, 0x39, 0xB3, 0xDB, 0xDC, 0xD9, 0xDA, 0x9F]

/-- The code points of page 1252 for the bytes 80 to 9F; a zero stands at a byte without character.
-/
def windowsTable : List Nat :=
  [0x20AC, 0, 0x201A, 0x0192, 0x201E, 0x2026, 0x2020, 0x2021,
   0x02C6, 0x2030, 0x0160, 0x2039, 0x0152, 0, 0x017D, 0,
   0, 0x2018, 0x2019, 0x201C, 0x201D, 0x2022, 0x2013, 0x2014,
   0x02DC, 0x2122, 0x0161, 0x203A, 0x0153, 0, 0x017E, 0x0178]

/-- Where page 037 differs from page 1047, as byte and code point. -/
def changes037 : List (Nat × Nat) :=
  [(0x15, 0x85), (0x25, 0x0A), (0x5F, 0xAC), (0xAD, 0xDD), (0xB0, 0x5E), (0xBA, 0x5B), (0xBB, 0x5D),
   (0xBD, 0xA8)]

/-- Where page 500 differs from page 1047, as byte and code point. -/
def changes500 : List (Nat × Nat) :=
  [(0x15, 0x85), (0x25, 0x0A), (0x4A, 0x5B), (0x4F, 0x21), (0x5A, 0x5D), (0xAD, 0xDD), (0xB0, 0xA2),
   (0xBA, 0xAC), (0xBB, 0x7C), (0xBD, 0xA8)]

/-- Where page 1140 differs from page 1047: as page 037 does, and at the euro sign. -/
def changes1140 : List (Nat × Nat) := (0x9F, 0x20AC) :: changes037

/-- The code point of a byte on an EBCDIC page that differs from page 1047 by `changes`. -/
def ebcdicPoint (changes : List (Nat × Nat)) (byte : Nat) : Nat :=
  (changes.lookup byte).getD (ebcdicTable.getD byte 0)

/-- The code point of a byte. -/
def point? (page : CodePage) (byte : Nat) : Option Nat :=
  match page with
  | ascii => if byte < 0x80 then some byte else none
  | latin1 => some byte
  | ebcdic1047 => some (ebcdicPoint [] byte)
  | ebcdic037 => some (ebcdicPoint changes037 byte)
  | ebcdic500 => some (ebcdicPoint changes500 byte)
  | ebcdic1140 => some (ebcdicPoint changes1140 byte)
  | windows1252 =>
    if byte < 0x80 || 0xA0 ≤ byte then some byte
    else
      match windowsTable.getD (byte - 0x80) 0 with
      | 0 => none
      | point => some point

/-- The character of a byte. -/
def char? (page : CodePage) (byte : UInt8) : Option Char := (page.point? byte.toNat).map Char.ofNat

/-- The byte of a character. -/
def byte? (page : CodePage) (c : Char) : Option UInt8 :=
  ((List.range 256).find? fun byte => page.point? byte = some c.toNat).map UInt8.ofNat

/-- The text of bytes, if every byte has a character. -/
def decode? (page : CodePage) (bytes : List UInt8) : Option Text := bytes.mapM page.char?

/-- The first row of characters of a text that have no byte on a page. -/
structure Gap where
  page : CodePage
  /-- The number of characters before the row. -/
  position : Nat
  row : Text
  deriving DecidableEq, Repr

/-- The name of a page where a character has no byte, and why it has none. -/
def refusal : CodePage → Text × Text
  | ascii => ("ascii".toList, "ordinal not in range(128)".toList)
  | latin1 => ("latin-1".toList, "ordinal not in range(256)".toList)
  | _ => ("charmap".toList, "character maps to <undefined>".toList)

/-- The wording for characters that have no byte. -/
def Gap.message (gap : Gap) : Text :=
  let (charset, reason) := gap.page.refusal
  Text.unstorable charset gap.position (gap.row.map Char.toNat) reason

/-- The bytes of a text, or the first characters that have none. -/
def encode (page : CodePage) (text : Text) : Except Gap (List UInt8) :=
  match text.mapM page.byte? with
  | some bytes => .ok bytes
  | none =>
    let rest := text.dropWhile fun c => (page.byte? c).isSome
    .error {
      page
      position := text.length - rest.length
      row := rest.takeWhile fun c => (page.byte? c).isNone }

/-- A text has bytes if every character has a byte. -/
theorem encode_eq_ok_iff {page : CodePage} {text : Text} {bytes : List UInt8} :
    page.encode text = .ok bytes ↔ text.mapM page.byte? = some bytes := by
  rw [encode]
  cases text.mapM page.byte? <;> simp

end CodePage

end StubVector
