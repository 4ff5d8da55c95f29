import StubVector.Charset.CodePage
import StubVector.Charset.RawEscape
import StubVector.Charset.Utf16
import StubVector.Charset.Utf8

/-!
# Charsets

The charsets in which files are read and written, and the names by which they are asked for. Case
does not matter in a name, and a row of other characters than letters, digits and points counts as
one underscore.

* `Charset.ofName?`: the charset of a name.
* `Charset.decode`: the text of bytes.
* `Charset.encode`: the bytes of a text, if every character has some.
* `Charsets`: what a system knows by the names of charsets, which may be more than these.
* `Charset.registry`: the charsets of this module, and raw escapes, by all their names.
-/

namespace StubVector

/-- A way to store text as bytes. -/
inductive Charset where
  | page (codePage : CodePage)
  | utf8
  /-- UTF-8 after a signature that is dropped. -/
  | utf8Signed
  /-- UTF-16 in the byte order that its mark tells. -/
  | utf16
  | utf16le
  | utf16be
  deriving DecidableEq, Repr

namespace Charset

/-! ## Names -/

/-- The characters that count in the name of a charset. -/
def isNameChar (c : Char) : Bool := c.isAlphanum || c = '.'

/-- The form in which names of charsets are compared. -/
def normalName (name : Text) : Text :=
  let words := (name.map fun c => if isNameChar c then c.toLower else ' ').splitOn ' '
  List.intercalate ['_'] (words.filter (!·.isEmpty))

/-- The first name of every charset, in the form in which names are compared. -/
def primaryNames : List (String × Charset) := [
  ("cp1047", page .ebcdic1047), ("cp037", page .ebcdic037), ("cp500", page .ebcdic500),
  ("cp1140", page .ebcdic1140), ("cp1252", page .windows1252), ("ascii", page .ascii),
  ("latin_1", page .latin1), ("utf_8", utf8), ("utf_8_sig", utf8Signed), ("utf_16", utf16),
  ("utf_16_le", utf16le), ("utf_16_be", utf16be)]

/-- The other names of the charsets. In a name that is given, a point may stand for an underscore of
theirs. -/
def otherNames : List (String × Charset) := [
  ("037", page .ebcdic037), ("csibm037", page .ebcdic037), ("ebcdic_cp_ca", page .ebcdic037),
  ("ebcdic_cp_nl", page .ebcdic037), ("ebcdic_cp_us", page .ebcdic037),
  ("ebcdic_cp_wt", page .ebcdic037), ("ibm037", page .ebcdic037), ("ibm039", page .ebcdic037),
  ("500", page .ebcdic500), ("csibm500", page .ebcdic500), ("ebcdic_cp_be", page .ebcdic500),
  ("ebcdic_cp_ch", page .ebcdic500), ("ibm500", page .ebcdic500),
  ("1140", page .ebcdic1140), ("ibm1140", page .ebcdic1140),
  ("1252", page .windows1252), ("windows_1252", page .windows1252),
  ("646", page .ascii), ("ansi_x3.4_1968", page .ascii), ("ansi_x3_4_1968", page .ascii),
  ("ansi_x3.4_1986", page .ascii), ("cp367", page .ascii), ("csascii", page .ascii),
  ("ibm367", page .ascii), ("iso646_us", page .ascii), ("iso_646.irv_1991", page .ascii),
  ("iso_ir_6", page .ascii), ("us", page .ascii), ("us_ascii", page .ascii),
  ("8859", page .latin1), ("cp819", page .latin1), ("csisolatin1", page .latin1),
  ("ibm819", page .latin1), ("iso8859", page .latin1), ("iso8859_1", page .latin1),
  ("iso_8859_1", page .latin1), ("iso_8859_1_1987", page .latin1), ("iso_ir_100", page .latin1),
  ("l1", page .latin1), ("latin", page .latin1), ("latin1", page .latin1),
  ("u8", utf8), ("utf", utf8), ("utf8", utf8), ("utf8_ucs2", utf8), ("utf8_ucs4", utf8),
  ("cp65001", utf8), ("u16", utf16), ("utf16", utf16),
  ("unicodelittleunmarked", utf16le), ("utf_16le", utf16le),
  ("unicodebigunmarked", utf16be), ("utf_16be", utf16be)]

/-- The charset of that name in one of the lists. -/
def lookup? (names : List (String × Charset)) (name : Text) : Option Charset :=
  (names.find? (·.1.toList = name)).map (·.2)

/-- The charset of a name. -/
def ofName? (name : Text) : Option Charset :=
  let normal := normalName name
  ((lookup? primaryNames normal).or (lookup? otherNames normal)).or
    (lookup? otherNames (normal.map fun c => if c = '.' then '_' else c))

/-! ## Bytes -/

/-- Why bytes have no text. -/
inductive DecodeFailure where
  /-- Some bytes have no text, and the place of them is known. -/
  | undecodable
  /-- Decoding stops with a message that names no bytes. -/
  | stopped (message : Text)
  deriving DecidableEq, Repr

/-- UTF-16 data does not tell its byte order. -/
def noByteOrderMark : DecodeFailure := .stopped "UTF-16 stream does not start with BOM".toList

/-- The signature of UTF-8 data. -/
def signature : List UInt8 := [0xEF, 0xBB, 0xBF]

/-- The data after its signature. Data that is no more than the start of a signature is empty. -/
def dropSignature (bytes : List UInt8) : List UInt8 :=
  if bytes.isPrefixOf signature then []
  else if signature.isPrefixOf bytes then bytes.drop signature.length
  else bytes

/-- The text, if there is one. -/
def found (text : Option Text) : Except DecodeFailure Text :=
  match text with
  | some text => .ok text
  | none => .error .undecodable

/-- The text of UTF-16 data with its byte order mark. Data without a mark is first read with the
lower byte in front; only if that succeeds, the mark is missed. -/
def decodeMarked (bytes : List UInt8) : Except DecodeFailure Text :=
  if (Utf16.byteOrderMark .littleEndian).isPrefixOf bytes then
    found (Utf16.decode? .littleEndian (bytes.drop 2))
  else if (Utf16.byteOrderMark .bigEndian).isPrefixOf bytes then
    found (Utf16.decode? .bigEndian (bytes.drop 2))
  else
    match Utf16.decode? .littleEndian bytes with
    | none => .error .undecodable
    | some [] => .ok []
    | some _ => .error noByteOrderMark

/-- The text of bytes. -/
def decode (charset : Charset) (bytes : List UInt8) : Except DecodeFailure Text :=
  match charset with
  | .page codePage => found (codePage.decode? bytes)
  | .utf8 => found (Utf8.decode bytes).toOption
  | .utf8Signed => found (Utf8.decode (dropSignature bytes)).toOption
  | .utf16 => decodeMarked bytes
  | .utf16le => found (Utf16.decode? .littleEndian bytes)
  | .utf16be => found (Utf16.decode? .bigEndian bytes)

/-- The bytes of a text, or the first characters that have none. Only a code page lacks
characters. -/
def encode (charset : Charset) (text : Text) : Except CodePage.Gap (List UInt8) :=
  match charset with
  | .page codePage => codePage.encode text
  | .utf8 => .ok (Utf8.encode text)
  | .utf8Signed => .ok (signature ++ Utf8.encode text)
  | .utf16 => .ok (Utf16.byteOrderMark .littleEndian ++ Utf16.encode .littleEndian text)
  | .utf16le => .ok (Utf16.encode .littleEndian text)
  | .utf16be => .ok (Utf16.encode .bigEndian text)

end Charset

/-! ## Registries -/

/-- How bytes are read in a charset. The text may hold halves of pairs. -/
abbrev Decoder := List UInt8 → Except Charset.DecodeFailure WideText

/-- The charsets that a system knows, by the names that it is given. -/
abbrev Charsets := Text → Option Decoder

namespace Charset

/-- How bytes are read in a charset of this module. -/
def decoder (charset : Charset) : Decoder := fun bytes =>
  (charset.decode bytes).map WideText.ofText

/-- How raw escapes are read. -/
def rawEscapes : Decoder := fun bytes =>
  match RawEscape.decode? bytes with
  | some wide => .ok wide
  | none => .error .undecodable

/-- The charsets of this module and raw escapes, by all their names. A system may know others. -/
def registry : Charsets := fun name =>
  if normalName name = "raw_unicode_escape".toList then some rawEscapes
  else (ofName? name).map decoder

end Charset

end StubVector
