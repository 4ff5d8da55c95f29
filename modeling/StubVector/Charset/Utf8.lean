import StubVector.Text.Numeral

/-!
# UTF-8

Text as bytes in UTF-8, in the shortest form of every character and without surrogates.

* `Utf8.encode`: the bytes of a text.
* `Utf8.decode`: the text of bytes, or where and why they are no UTF-8. A sequence is faulty up to
  the first byte that cannot continue it.
-/

namespace StubVector.Utf8

/-- Why bytes are no UTF-8. -/
inductive Reason where
  | invalidStart
  | invalidContinuation
  | unexpectedEnd
  deriving DecidableEq, Repr

/-- Which bytes are no UTF-8, and why. -/
structure Fault where
  /-- The position of the first faulty byte. -/
  start : Nat
  /-- The faulty bytes. -/
  bytes : List UInt8
  reason : Reason
  deriving DecidableEq, Repr

/-- The wording of a reason. -/
def Reason.message : Reason → Text
  | invalidStart => "invalid start byte".toList
  | invalidContinuation => "invalid continuation byte".toList
  | unexpectedEnd => "unexpected end of data".toList

/-- The wording of a fault. -/
def Fault.message (fault : Fault) : Text :=
  let place :=
    match fault.bytes with
    | [byte] =>
      "byte 0x".toList ++ Text.hexOf 2 byte.toNat ++ " in position ".toList ++
        Text.decimalNat fault.start
    | bytes =>
      "bytes in position ".toList ++ Text.decimalNat fault.start ++ ['-'] ++
        Text.decimalNat (fault.start + bytes.length - 1)
  "'utf-8' codec can't decode ".toList ++ place ++ ": ".toList ++ fault.reason.message

/-- The bytes of a character. -/
def encodeChar (c : Char) : List UInt8 :=
  let n := c.toNat
  let continuation (shift : Nat) : UInt8 := UInt8.ofNat (0x80 + n / shift % 0x40)
  if n < 0x80 then [UInt8.ofNat n]
  else if n < 0x800 then [UInt8.ofNat (0xC0 + n / 0x40), continuation 1]
  else if n < 0x10000 then [UInt8.ofNat (0xE0 + n / 0x1000), continuation 0x40, continuation 1]
  else [UInt8.ofNat (0xF0 + n / 0x40000), continuation 0x1000, continuation 0x40, continuation 1]

/-- The bytes of a text. -/
def encode (text : Text) : List UInt8 := text.flatMap encodeChar

/-- A sequence of which some bytes are read. -/
structure Sequence where
  /-- The bytes that are read, last first. -/
  read : List UInt8
  /-- The number of bytes that follow. -/
  missing : Nat
  /-- The least next byte. -/
  least : Nat
  /-- The greatest next byte. -/
  greatest : Nat
  /-- The bits that are read. -/
  bits : Nat
  deriving Repr

/-- The sequence that a byte starts, if it starts one of several bytes. -/
def Sequence.start? (byte : UInt8) : Option Sequence :=
  let b := byte.toNat
  let sequence (missing least greatest bits : Nat) : Option Sequence :=
    some { read := [byte], missing, least, greatest, bits }
  if b < 0xC2 then none
  else if b < 0xE0 then sequence 1 0x80 0xBF (b - 0xC0)
  else if b = 0xE0 then sequence 2 0xA0 0xBF 0
  else if b = 0xED then sequence 2 0x80 0x9F 0xD
  else if b < 0xF0 then sequence 2 0x80 0xBF (b - 0xE0)
  else if b = 0xF0 then sequence 3 0x90 0xBF 0
  else if b < 0xF4 then sequence 3 0x80 0xBF (b - 0xF0)
  else if b = 0xF4 then sequence 3 0x80 0x8F 4
  else none

/-- The text of bytes that begin at `offset`, after the bytes of an open sequence. -/
def decodeFrom (offset : Nat) : Option Sequence → List UInt8 → Except Fault Text
  | none, [] => .ok []
  | some sequence, [] =>
    .error ⟨offset - sequence.read.length, sequence.read.reverse, .unexpectedEnd⟩
  | none, byte :: bytes =>
    if byte.toNat < 0x80 then
      (decodeFrom (offset + 1) none bytes).map (Char.ofNat byte.toNat :: ·)
    else
      match Sequence.start? byte with
      | none => .error ⟨offset, [byte], .invalidStart⟩
      | some sequence => decodeFrom (offset + 1) (some sequence) bytes
  | some sequence, byte :: bytes =>
    let b := byte.toNat
    if sequence.least ≤ b ∧ b ≤ sequence.greatest then
      let bits := sequence.bits * 0x40 + (b - 0x80)
      if sequence.missing ≤ 1 then
        (decodeFrom (offset + 1) none bytes).map (Char.ofNat bits :: ·)
      else
        decodeFrom (offset + 1)
          (some { read := byte :: sequence.read, missing := sequence.missing - 1,
                  least := 0x80, greatest := 0xBF, bits }) bytes
    else .error ⟨offset - sequence.read.length, sequence.read.reverse, .invalidContinuation⟩

/-- The text of bytes, or where and why they are no UTF-8. -/
def decode (bytes : List UInt8) : Except Fault Text := decodeFrom 0 none bytes

end StubVector.Utf8
