import StubVector.Charset
import StubVector.Proofs.Charset.Utf8

/-!
# Stored text is read back

The bytes of a text in a charset are read as that text, whatever marks or signatures stand in front
of them, and also if the text begins with the character of such a mark.

* `Charset.decode_encode`: **the bytes of a text are read back as the text**.
* `Charset.usual`: the charsets in which headers are kept, by name.
* `Charset.exists_encode_eq_ok_iff_of_mem_usual`: which texts have bytes in one of them.
-/

namespace StubVector

namespace CodePage

variable {page : CodePage} {c : Char} {byte : UInt8} {text : Text} {bytes : List UInt8}

/-- The byte of a character stands for that character. -/
theorem char?_of_byte? (h : page.byte? c = some byte) : page.char? byte = some c := by
  obtain ⟨number, hfind, rfl⟩ := Option.map_eq_some_iff.mp h
  have hpoint : page.point? number = some c.toNat := by simpa using List.find?_some hfind
  have hlt : number < 256 := List.mem_range.mp (List.mem_of_find?_eq_some hfind)
  rw [char?, Utf8.toNat_ofNat_of_lt hlt, hpoint, Option.map_some, Char.ofNat_toNat]

theorem mapM_cons_eq_some_iff :
    (c :: text).mapM page.byte? = some bytes ↔
      ∃ first others, page.byte? c = some first ∧ text.mapM page.byte? = some others ∧
        bytes = first :: others := by
  rw [List.mapM_cons]
  cases page.byte? c with
  | none => simp
  | some first => cases text.mapM page.byte? <;> simp [eq_comm]

/-- The bytes of a text are read back as the text. -/
theorem decode?_encode (h : page.encode text = .ok bytes) : page.decode? bytes = some text := by
  rw [encode_eq_ok_iff] at h
  rw [decode?]
  induction text generalizing bytes with
  | nil =>
    cases h
    rfl
  | cons c text ih =>
    obtain ⟨first, others, hfirst, hothers, rfl⟩ := mapM_cons_eq_some_iff.mp h
    rw [List.mapM_cons, char?_of_byte? hfirst, ih hothers]
    rfl

/-- A text has bytes exactly if every character of it has one. -/
theorem exists_encode_eq_ok_iff :
    (∃ bytes, page.encode text = .ok bytes) ↔ ∀ c ∈ text, (page.byte? c).isSome = true := by
  simp only [encode_eq_ok_iff]
  induction text with
  | nil => simp
  | cons c text ih =>
    rw [List.forall_mem_cons, ← ih, Option.isSome_iff_exists]
    constructor
    · rintro ⟨bytes, h⟩
      obtain ⟨first, others, hfirst, hothers, -⟩ := mapM_cons_eq_some_iff.mp h
      exact ⟨⟨first, hfirst⟩, others, hothers⟩
    · rintro ⟨⟨first, hfirst⟩, others, hothers⟩
      exact ⟨first :: others, mapM_cons_eq_some_iff.mpr ⟨first, others, hfirst, hothers, rfl⟩⟩

/-- A character has a byte on a page if some byte has the number of the character. -/
theorem isSome_byte?_iff :
    (page.byte? c).isSome = true ↔ ∃ number < 256, page.point? number = some c.toNat := by
  simp [byte?, List.find?_isSome]

theorem isSome_byte?_ascii_iff : (ascii.byte? c).isSome = true ↔ c.toNat < 0x80 := by
  simp only [isSome_byte?_iff, point?]
  constructor
  · rintro ⟨number, -, h⟩
    split at h
    · cases h
      assumption
    · cases h
  · intro h
    exact ⟨c.toNat, by omega, by rw [if_pos h]⟩

theorem isSome_byte?_latin1_iff : (latin1.byte? c).isSome = true ↔ c.toNat < 0x100 := by
  simp only [isSome_byte?_iff, point?]
  constructor
  · rintro ⟨number, hnumber, h⟩
    cases h
    exact hnumber
  · intro h
    exact ⟨c.toNat, h, rfl⟩

/-- Page 1047 rearranges the characters of Latin-1. -/
theorem isSome_byte?_ebcdic1047_iff : (ebcdic1047.byte? c).isSome = true ↔ c.toNat < 0x100 := by
  have hbound : ∀ point ∈ ebcdicTable, point < 256 := by decide +kernel
  have htable : ∀ point < 256, point ∈ ebcdicTable := by decide +kernel
  have hlength : ebcdicTable.length = 256 := by decide +kernel
  rw [isSome_byte?_iff]
  constructor
  · rintro ⟨number, hnumber, h⟩
    rw [← hlength] at hnumber
    have hpoint : ebcdicTable.getD number 0 = c.toNat := Option.some.inj h
    rw [List.getD_eq_getElem?_getD, List.getElem?_eq_getElem hnumber, Option.getD_some] at hpoint
    exact hpoint ▸ hbound _ (List.getElem_mem hnumber)
  · intro h
    obtain ⟨number, hnumber, hget⟩ := List.getElem_of_mem (htable c.toNat h)
    refine ⟨number, hlength ▸ hnumber, ?_⟩
    simp [point?, ebcdicPoint, List.getElem?_eq_getElem hnumber, hget]

end CodePage

namespace Charset

open Utf16 (byteOrderMark)

variable {charset : Charset} {text : Text} {bytes : List UInt8}

/-- A signature is dropped, and only one. -/
theorem dropSignature_signature_append (bytes : List UInt8) :
    dropSignature (signature ++ bytes) = bytes := by
  rw [dropSignature]
  split
  · next h =>
    -- bytes that start a signature and start with one are the signature itself
    have hlength := (List.isPrefixOf_iff_prefix.mp h).length_le
    rw [List.length_append] at hlength
    exact (List.eq_nil_of_length_eq_zero (by omega)).symm
  · rw [if_pos (List.isPrefixOf_iff_prefix.mpr (List.prefix_append signature bytes)),
      List.drop_left]

/-- A byte order mark tells the order and is no part of the text. -/
theorem decodeMarked_littleEndian (bytes : List UInt8) :
    decodeMarked (byteOrderMark .littleEndian ++ bytes) =
      found (Utf16.decode? .littleEndian bytes) := by
  have hmark := List.prefix_append (byteOrderMark .littleEndian) bytes
  rw [decodeMarked, if_pos (List.isPrefixOf_iff_prefix.mpr hmark)]
  rfl

/-- **The bytes of a text are read back as the text.** -/
theorem decode_encode (h : charset.encode text = .ok bytes) : charset.decode bytes = .ok text := by
  cases charset with
  | page codePage => rw [decode, CodePage.decode?_encode h, found]
  | utf8 =>
    cases h
    rw [decode, Utf8.decode_encode]
    rfl
  | utf8Signed =>
    cases h
    rw [decode, dropSignature_signature_append, Utf8.decode_encode]
    rfl
  | utf16 =>
    cases h
    rw [decode, decodeMarked_littleEndian, Utf16.decode?_encode, found]
  | utf16le =>
    cases h
    rw [decode, Utf16.decode?_encode, found]
  | utf16be =>
    cases h
    rw [decode, Utf16.decode?_encode, found]

/-! ## The charsets of headers -/

/-- A name of a charset, and the number from which on characters have no bytes in it. -/
structure Named where
  name : String
  charset : Charset
  bound : Nat

/-- The charsets in which headers are kept. -/
def usual : List Named := [
  ⟨"utf-8", utf8, 0x110000⟩, ⟨"utf-16", utf16, 0x110000⟩, ⟨"utf-16-le", utf16le, 0x110000⟩,
  ⟨"utf-16-be", utf16be, 0x110000⟩, ⟨"latin-1", page .latin1, 0x100⟩,
  ⟨"ascii", page .ascii, 0x80⟩, ⟨"cp1047", page .ebcdic1047, 0x100⟩]

/-- Each of them is known by its name, which can be given to the system. -/
theorem ofName?_of_mem_usual : ∀ named ∈ usual,
    ofName? named.name.toList = some named.charset ∧ '\x00' ∉ named.name.toList := by
  decide +kernel

/-- A text can be stored in one of them exactly if its characters have numbers below the bound. -/
theorem exists_encode_eq_ok_iff_of_mem_usual {named : Named} (h : named ∈ usual) :
    (∃ bytes, named.charset.encode text = .ok bytes) ↔ ∀ c ∈ text, c.toNat < named.bound := by
  have hchar : ∀ c ∈ text, c.toNat < 0x110000 := by
    intro c _
    have hvalid : c.toNat < 0xD800 ∨ 0xDFFF < c.toNat ∧ c.toNat < 0x110000 := c.valid
    omega
  have hpage : ∀ (page : CodePage) (bound : Nat),
      (∀ c, (page.byte? c).isSome = true ↔ c.toNat < bound) →
        ((∃ bytes, (Charset.page page).encode text = .ok bytes) ↔
          ∀ c ∈ text, c.toNat < bound) := by
    intro page bound hbyte
    rw [encode, CodePage.exists_encode_eq_ok_iff]
    simp only [hbyte]
  simp only [usual, List.mem_cons, List.not_mem_nil, or_false] at h
  rcases h with rfl | rfl | rfl | rfl | rfl | rfl | rfl
  · exact iff_of_true ⟨_, rfl⟩ hchar
  · exact iff_of_true ⟨_, rfl⟩ hchar
  · exact iff_of_true ⟨_, rfl⟩ hchar
  · exact iff_of_true ⟨_, rfl⟩ hchar
  · exact hpage .latin1 _ fun _ => CodePage.isSome_byte?_latin1_iff
  · exact hpage .ascii _ fun _ => CodePage.isSome_byte?_ascii_iff
  · exact hpage .ebcdic1047 _ fun _ => CodePage.isSome_byte?_ebcdic1047_iff

end Charset

end StubVector
