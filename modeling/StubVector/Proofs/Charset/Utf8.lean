import StubVector.Charset.Utf8

/-!
# UTF-8 is written as it is read

The bytes of a character are a first byte and up to three continuation bytes. The first byte tells
how many follow and the highest bits, and every continuation byte holds six more.

* `Utf8.encode_eq_flatMap`: the bytes of a text are those that strings are made of.
* `Utf8.decode_encode`: **the bytes of a text are read back as the text**.
-/

namespace StubVector.Utf8

variable {c : Char} {n k offset : Nat} {bytes : List UInt8} {sequence : Sequence}

/-! ## The bytes of a character -/

/-- The byte that continues a sequence with the lowest bits of a number. -/
def continuation (k : Nat) : UInt8 := UInt8.ofNat (0x80 + k % 0x40)

/-- The bytes of a character with a number of that size, for the four lengths. -/
theorem encodeChar_cases (c : Char) :
    (c.toNat < 0x80 ∧ encodeChar c = [UInt8.ofNat c.toNat]) ∨
    (0x80 ≤ c.toNat ∧ c.toNat < 0x800 ∧
      encodeChar c = [UInt8.ofNat (0xC0 + c.toNat / 0x40), continuation c.toNat]) ∨
    (0x800 ≤ c.toNat ∧ c.toNat < 0x10000 ∧ ¬ (0xD800 ≤ c.toNat ∧ c.toNat < 0xE000) ∧
      encodeChar c = [UInt8.ofNat (0xE0 + c.toNat / 0x1000), continuation (c.toNat / 0x40),
        continuation c.toNat]) ∨
    (0x10000 ≤ c.toNat ∧ c.toNat < 0x110000 ∧
      encodeChar c = [UInt8.ofNat (0xF0 + c.toNat / 0x40000), continuation (c.toNat / 0x1000),
        continuation (c.toNat / 0x40), continuation c.toNat]) := by
  have hvalid : c.toNat < 0xD800 ∨ 0xDFFF < c.toNat ∧ c.toNat < 0x110000 := c.valid
  simp only [encodeChar, continuation]
  split
  · exact .inl ⟨by assumption, rfl⟩
  · split
    · exact .inr (.inl ⟨by omega, by omega, by simp⟩)
    · split
      · exact .inr (.inr (.inl ⟨by omega, by omega, by omega, by simp⟩))
      · exact .inr (.inr (.inr ⟨by omega, by omega, by simp⟩))

theorem encodeChar_eq (c : Char) : encodeChar c = String.utf8EncodeChar c := by
  have hval : c.val.toNat = c.toNat := rfl
  have hcongr : ∀ {m n : Nat}, m = n → UInt8.ofNat m = UInt8.ofNat n := congrArg UInt8.ofNat
  simp only [String.utf8EncodeChar, hval]
  rcases encodeChar_cases c with ⟨h, heq⟩ | ⟨h, h', heq⟩ | ⟨h, h', -, heq⟩ | ⟨h, h', heq⟩
  · rw [heq, if_pos (by omega)]
  · rw [heq, if_neg (by omega), if_pos (by omega)]
    rw [continuation, hcongr (by omega : 0xC0 + c.toNat / 0x40 = c.toNat / 64 % 32 + 192),
      Nat.add_comm 0x80]
  · rw [heq, if_neg (by omega), if_neg (by omega), if_pos (by omega)]
    rw [continuation, continuation, Nat.add_comm 0x80, Nat.add_comm 0x80,
      hcongr (by omega : 0xE0 + c.toNat / 0x1000 = c.toNat / 4096 % 16 + 224)]
  · rw [heq, if_neg (by omega), if_neg (by omega), if_neg (by omega)]
    rw [continuation, continuation, continuation, Nat.add_comm 0x80, Nat.add_comm 0x80,
      Nat.add_comm 0x80, hcongr (by omega : 0xF0 + c.toNat / 0x40000 = c.toNat / 262144 % 8 + 240)]

/-- The bytes of a text are those of its characters in strings. -/
theorem encode_eq_flatMap (text : Text) : encode text = text.flatMap String.utf8EncodeChar := by
  rw [encode, funext encodeChar_eq]

/-! ## Reading back -/

theorem toNat_ofNat_of_lt (h : n < 0x100) : (UInt8.ofNat n).toNat = n := by
  rw [UInt8.toNat_ofNat']
  exact Nat.mod_eq_of_lt h

theorem toNat_continuation : (continuation k).toNat = 0x80 + k % 0x40 :=
  toNat_ofNat_of_lt (by omega)

/-- A first byte starts its sequence. -/
theorem decodeFrom_start {byte : UInt8} (hbyte : 0x80 ≤ byte.toNat)
    (hstart : Sequence.start? byte = some sequence) :
    decodeFrom offset none (byte :: bytes) = decodeFrom (offset + 1) (some sequence) bytes := by
  rw [decodeFrom, if_neg (by omega), hstart]

/-- A sequence goes on with the bits of a continuation byte. -/
theorem decodeFrom_continuation (hmissing : 1 < sequence.missing)
    (hleast : sequence.least ≤ 0x80 + k % 0x40) (hgreatest : 0x80 + k % 0x40 ≤ sequence.greatest) :
    decodeFrom offset (some sequence) (continuation k :: bytes) =
      decodeFrom (offset + 1) (some ⟨continuation k :: sequence.read, sequence.missing - 1, 0x80,
        0xBF, sequence.bits * 0x40 + k % 0x40⟩) bytes := by
  rw [decodeFrom]
  simp only [toNat_continuation]
  rw [if_pos ⟨hleast, hgreatest⟩, if_neg (by omega), Nat.add_sub_cancel_left]

/-- A sequence ends with the bits of its last byte. -/
theorem decodeFrom_last (hmissing : sequence.missing ≤ 1)
    (hleast : sequence.least ≤ 0x80 + k % 0x40) (hgreatest : 0x80 + k % 0x40 ≤ sequence.greatest)
    (hbits : sequence.bits * 0x40 + k % 0x40 = c.toNat) :
    decodeFrom offset (some sequence) (continuation k :: bytes) =
      (decodeFrom (offset + 1) none bytes).map (c :: ·) := by
  rw [decodeFrom]
  simp only [toNat_continuation]
  rw [if_pos ⟨hleast, hgreatest⟩, if_pos hmissing, Nat.add_sub_cancel_left, hbits, Char.ofNat_toNat]

/-- The first of two bytes. -/
theorem start?_two (h : 2 ≤ n) (h' : n < 0x20) : Sequence.start? (UInt8.ofNat (0xC0 + n)) =
    some ⟨[UInt8.ofNat (0xC0 + n)], 1, 0x80, 0xBF, n⟩ := by
  rw [Sequence.start?, toNat_ofNat_of_lt (by omega), if_neg (by omega), if_pos (by omega),
    Nat.add_sub_cancel_left]

/-- The first of three bytes bounds the second one. -/
theorem start?_three (hn : n < 0x10) (hk : k < 0x40) (hleast : n = 0 → 0x20 ≤ k)
    (hgreatest : n = 0xD → k < 0x20) :
    ∃ least greatest, Sequence.start? (UInt8.ofNat (0xE0 + n)) =
      some ⟨[UInt8.ofNat (0xE0 + n)], 2, least, greatest, n⟩ ∧
      least ≤ 0x80 + k ∧ 0x80 + k ≤ greatest := by
  rw [Sequence.start?, toNat_ofNat_of_lt (by omega), if_neg (by omega), if_neg (by omega)]
  by_cases hfirst : n = 0
  · exact ⟨0xA0, 0xBF, by simp [hfirst], by omega, by omega⟩
  · by_cases hsurrogate : n = 0xD
    · exact ⟨0x80, 0x9F, by simp [hsurrogate], by omega, by omega⟩
    · refine ⟨0x80, 0xBF, ?_, by omega, by omega⟩
      rw [if_neg (by omega), if_neg (by omega), if_pos (by omega), Nat.add_sub_cancel_left]

/-- The first of four bytes bounds the second one. -/
theorem start?_four (hn : n < 5) (hk : k < 0x40) (hleast : n = 0 → 0x10 ≤ k)
    (hgreatest : n = 4 → k < 0x10) :
    ∃ least greatest, Sequence.start? (UInt8.ofNat (0xF0 + n)) =
      some ⟨[UInt8.ofNat (0xF0 + n)], 3, least, greatest, n⟩ ∧
      least ≤ 0x80 + k ∧ 0x80 + k ≤ greatest := by
  rw [Sequence.start?, toNat_ofNat_of_lt (by omega), if_neg (by omega), if_neg (by omega),
    if_neg (by omega), if_neg (by omega), if_neg (by omega)]
  by_cases hfirst : n = 0
  · exact ⟨0x90, 0xBF, by simp [hfirst], by omega, by omega⟩
  · by_cases hlast : n = 4
    · exact ⟨0x80, 0x8F, by simp [hlast], by omega, by omega⟩
    · refine ⟨0x80, 0xBF, ?_, by omega, by omega⟩
      rw [if_neg (by omega), if_pos (by omega), Nat.add_sub_cancel_left]

theorem decodeFrom_encodeChar : decodeFrom offset none (encodeChar c ++ bytes) =
    (decodeFrom (offset + (encodeChar c).length) none bytes).map (c :: ·) := by
  rcases encodeChar_cases c with ⟨h, heq⟩ | ⟨h, h', heq⟩ | ⟨h, h', hs, heq⟩ | ⟨h, h', heq⟩ <;>
    rw [heq] <;> simp only [List.cons_append, List.nil_append]
  · rw [decodeFrom, toNat_ofNat_of_lt (by omega), if_pos h, Char.ofNat_toNat, List.length_singleton]
  · rw [decodeFrom_start (by rw [toNat_ofNat_of_lt (by omega)]; omega)
        (start?_two (by omega) (by omega)),
      decodeFrom_last (c := c) (by simp) (by simp) (by simp; omega) (by simp; omega)]
    rfl
  · obtain ⟨least, greatest, hstart, hleast, hgreatest⟩ :=
      start?_three (n := c.toNat / 0x1000) (k := c.toNat / 0x40 % 0x40) (by omega) (by omega)
        (by omega) (by omega)
    rw [decodeFrom_start (by rw [toNat_ofNat_of_lt (by omega)]; omega) hstart,
      decodeFrom_continuation (by simp) hleast hgreatest,
      decodeFrom_last (c := c) (by simp) (by simp) (by simp; omega) (by simp; omega)]
    rfl
  · obtain ⟨least, greatest, hstart, hleast, hgreatest⟩ :=
      start?_four (n := c.toNat / 0x40000) (k := c.toNat / 0x1000 % 0x40) (by omega) (by omega)
        (by omega) (by omega)
    rw [decodeFrom_start (by rw [toNat_ofNat_of_lt (by omega)]; omega) hstart,
      decodeFrom_continuation (by simp) hleast hgreatest,
      decodeFrom_continuation (by simp) (by simp) (by simp; omega),
      decodeFrom_last (c := c) (by simp) (by simp) (by simp; omega) (by simp; omega)]
    rfl

/-- Reading goes on after the bytes of a text. -/
theorem decodeFrom_encode (text : Text) : decodeFrom offset none (encode text ++ bytes) =
    (decodeFrom (offset + (encode text).length) none bytes).map (text ++ ·) := by
  induction text generalizing offset with
  | nil =>
    change decodeFrom offset none bytes = (decodeFrom offset none bytes).map id
    cases decodeFrom offset none bytes <;> rfl
  | cons c text ih =>
    rw [encode, List.flatMap_cons, List.append_assoc, decodeFrom_encodeChar, ← encode, ih,
      List.length_append, Nat.add_assoc]
    cases decodeFrom (offset + ((encodeChar c).length + (encode text).length)) none bytes <;> rfl

/-- **The bytes of a text are read back as the text.** -/
theorem decode_encode (text : Text) : decode (encode text) = .ok text := by
  have h : decodeFrom 0 none (encode text ++ []) = _ := decodeFrom_encode text
  rw [List.append_nil] at h
  rw [decode, h, decodeFrom, Except.map, List.append_nil]

end StubVector.Utf8
