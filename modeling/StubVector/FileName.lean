import StubVector.Charset.Utf8
import StubVector.Text.Wide

/-!
# Names of files

The name of a file is a row of bytes. As wide text it is read in UTF-8; a byte from 0x80 on that
belongs to no character is half of a pair from U+DC80 on. Such a half stands for its byte also where
it is given, so that several wide texts may name one file. No other half can be stored.

* `FileName.bytes`: the bytes of a name.
* `FileName.ofBytes`: the name as which bytes are read.
* `FileName.stored`: the name as which a file of this name is found.
* `FileName.refused?`: the halves for which a name cannot be stored.
-/

namespace StubVector.FileName

/-- The byte for which half of a pair stands. -/
def rawByte? (offset : Fin 0x800) : Option UInt8 :=
  if 0x480 ≤ offset.val ∧ offset.val < 0x500 then some (UInt8.ofNat (offset.val - 0x400)) else none

/-- The code point as which a byte is read that belongs to no character. -/
def ofRawByte (byte : UInt8) : CodePoint := .ofUnit (0xDC00 + byte.toNat)

/-- Whether a code point can be stored. -/
def isStorable : CodePoint → Bool
  | .char _ => true
  | .half offset => (rawByte? offset).isSome

/-- The halves for which a name, or a whole path, cannot be stored. -/
def refused? (name : WideText) : Option HalfRow := name.firstRow? isStorable

/-- The bytes of a code point; there are none if it cannot be stored. -/
def pointBytes : CodePoint → List UInt8
  | .char c => Utf8.encodeChar c
  | .half offset => (rawByte? offset).toList

/-- The bytes of a name. -/
def bytes (name : WideText) : List UInt8 := name.flatMap pointBytes

/-- The character that the first bytes are, and their number. -/
def firstChar? (bytes : List UInt8) : Option (Char × Nat) :=
  [1, 2, 3, 4].findSome? fun count =>
    match Utf8.decode (bytes.take count) with
    | .ok [c] => some (c, count)
    | _ => none

/-- The name as which bytes are read, after the first `done` of them. -/
def ofBytesFrom : (done : Nat) → List UInt8 → WideText
  | _, [] => []
  | done + 1, _ :: bytes => ofBytesFrom done bytes
  | 0, byte :: bytes =>
    match firstChar? (byte :: bytes) with
    | some (c, count) => .char c :: ofBytesFrom (count - 1) bytes
    | none => ofRawByte byte :: ofBytesFrom 0 bytes

/-- The name as which bytes are read. -/
def ofBytes (bytes : List UInt8) : WideText := ofBytesFrom 0 bytes

/-- The name as which a file of this name is found. -/
def stored (name : WideText) : WideText :=
  if name.toText?.isSome then name else ofBytes (bytes name)

/-- The bytes of a text are those in UTF-8. -/
@[simp] theorem bytes_ofText (text : Text) : bytes (.ofText text) = Utf8.encode text := by
  rw [bytes, WideText.ofText, List.flatMap_map]
  rfl

/-- A text is a name of its own. -/
@[simp] theorem stored_ofText (text : Text) : stored (.ofText text) = .ofText text := by
  simp [stored]

/-- A text can always be stored. -/
@[simp] theorem refused?_ofText (text : Text) : refused? (.ofText text) = none :=
  WideText.firstRow?_ofText (fun _ => rfl) text

end StubVector.FileName
