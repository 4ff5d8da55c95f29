import Mathlib.Algebra.Group.Int.Defs
import Mathlib.Algebra.Group.Nat.Defs
import StubVector.Json.Reader
import StubVector.Text.Blank
import StubVector.Text.Numeral

/-!
# Numerals read back

* `readDecimal_decimalNat`: reading the decimal digits of a number gives the number.
* `readDecimal_lt`: a row of `k` digits stands for a number below `10 ^ k`.
* `readHex?_upperHex`: reading the upper-case hexadecimal digits of a number gives the number,
  with any number of zeros in front.
-/

namespace StubVector.Text

/-! ## Decimal digits -/

section Decimal

variable {digits : Text} {n k : Nat}

theorem isDecimal_iff : isDecimal digits = true ↔ digits ≠ [] ∧ ∀ c ∈ digits, c.isDigit = true := by
  simp [isDecimal]

/-- The value of a row of digits, as the library reads it. -/
theorem readDecimal_eq_ofDigitChars (digits : Text) :
    readDecimal digits = Nat.ofDigitChars 10 digits 0 := rfl

@[simp]
theorem readDecimal_decimalNat (n : Nat) : readDecimal (decimalNat n) = n :=
  Nat.ofDigitChars_ten_toDigits

theorem decimalNat_ne_nil (n : Nat) : decimalNat n ≠ [] := Nat.toDigits_ne_nil

theorem isDigit_of_mem_decimalNat {c : Char} (h : c ∈ decimalNat n) : c.isDigit = true :=
  Nat.isDigit_of_mem_toDigits (by decide) (by decide) h

theorem length_decimalNat_le_iff (hk : 0 < k) : (decimalNat n).length ≤ k ↔ n < Nat.pow 10 k :=
  Nat.length_toDigits_le_iff (by decide) hk

theorem length_decimalNat_le (hk : 0 < k) (h : n < 10 ^ k) : (decimalNat n).length ≤ k :=
  (length_decimalNat_le_iff hk).mpr h

theorem length_decimalNat_natAbs_le {index : Int} (hk : 0 < k) (hnonneg : 0 ≤ index)
    (h : index < 10 ^ k) : (decimalNat index.natAbs).length ≤ k := by
  rw [Int.eq_natAbs_of_nonneg hnonneg] at h
  exact length_decimalNat_le hk (by exact_mod_cast h)

theorem toNat_sub_lt_of_isDigit {c : Char} (h : c.isDigit = true) : c.toNat - '0'.toNat < 10 := by
  simp only [Char.isDigit, Bool.and_eq_true, decide_eq_true_eq] at h
  have hle : c.toNat ≤ 57 := h.2
  have hzero : '0'.toNat = 48 := rfl
  omega

/-- A row of `k` digits stands for a number below `10 ^ k`. -/
theorem readDecimal_lt (h : ∀ c ∈ digits, c.isDigit = true) :
    readDecimal digits < 10 ^ digits.length := by
  rw [readDecimal_eq_ofDigitChars]
  induction digits with
  | nil => simp
  | cons c digits ih =>
    have hc := toNat_sub_lt_of_isDigit (h c List.mem_cons_self)
    have hrest := ih fun d hd => h d (List.mem_cons_of_mem c hd)
    rw [Nat.ofDigitChars_cons, Nat.ofDigitChars_eq_ofDigitChars_zero, Nat.mul_zero, Nat.zero_add,
      List.length_cons, Nat.pow_succ]
    calc 10 ^ digits.length * (c.toNat - '0'.toNat) + Nat.ofDigitChars 10 digits 0
        < 10 ^ digits.length * (c.toNat - '0'.toNat) + 10 ^ digits.length := by omega
      _ = 10 ^ digits.length * (c.toNat - '0'.toNat + 1) := by rw [Nat.mul_succ]
      _ ≤ 10 ^ digits.length * 10 := Nat.mul_le_mul_left _ hc

theorem readDecimal_lt_pow (h : ∀ c ∈ digits, c.isDigit = true) (hk : digits.length ≤ k) :
    (readDecimal digits : Int) < 10 ^ k := by
  have hlt := Nat.lt_of_lt_of_le (readDecimal_lt h) (Nat.pow_le_pow_right (by decide) hk)
  exact_mod_cast hlt

/-- A digit is not a blank. -/
theorem isBlank_eq_false_of_isDigit {c : Char} (h : c.isDigit = true) : isBlank c = false := by
  simp only [Char.isDigit, Bool.and_eq_true, decide_eq_true_eq] at h
  have hge : 48 ≤ c.toNat := h.1
  have hle : c.toNat ≤ 57 := h.2
  rw [Bool.eq_false_iff]
  intro hblank
  simp only [isBlank, Bool.or_eq_true, Bool.and_eq_true, decide_eq_true_eq, beq_iff_eq] at hblank
  omega

end Decimal

/-! ## Hexadecimal digits -/

section Hexadecimal

variable {digits : Text} {n k value : Nat}

/-- The number that hexadecimal digits stand for after digits that stand for `value`. -/
def readHexFrom? (value : Nat) : Text → Option Nat
  | [] => some value
  | c :: digits => (Json.hexDigit? c).bind fun digit => readHexFrom? (16 * value + digit) digits

/-- The number that a row of hexadecimal digits stands for. -/
def readHex? (digits : Text) : Option Nat := readHexFrom? 0 digits

theorem readHexFrom?_append (front back : Text) :
    readHexFrom? value (front ++ back) =
      (readHexFrom? value front).bind fun middle => readHexFrom? middle back := by
  induction front generalizing value with
  | nil => rfl
  | cons c front ih =>
    cases hc : Json.hexDigit? c with
    | none => simp [readHexFrom?, hc]
    | some digit => simp [readHexFrom?, hc, ih]

theorem readHexFrom?_zeros_append (k : Nat) (digits : Text) :
    readHexFrom? 0 (List.replicate k '0' ++ digits) = readHexFrom? 0 digits := by
  induction k with
  | zero => rfl
  | succ k ih => exact ih

/-- Only hexadecimal digits are read. -/
theorem isSome_hexDigit?_of_mem {c : Char} (h : readHexFrom? value digits = some n)
    (hc : c ∈ digits) : (Json.hexDigit? c).isSome = true := by
  induction digits generalizing value with
  | nil => simp at hc
  | cons d digits ih =>
    obtain ⟨digit, hd, hrest⟩ := Option.bind_eq_some_iff.mp h
    rcases List.mem_cons.mp hc with rfl | hc
    · simp [hd]
    · exact ih hrest hc

theorem toNat_of_hexDigit? {c : Char} (h : (Json.hexDigit? c).isSome = true) :
    (48 ≤ c.toNat ∧ c.toNat ≤ 57) ∨ (97 ≤ c.toNat ∧ c.toNat ≤ 102) ∨
      (65 ≤ c.toNat ∧ c.toNat ≤ 70) := by
  unfold Json.hexDigit? at h
  split at h
  · rename_i hdigit
    exact .inl hdigit
  split at h
  · rename_i hlower
    exact .inr (.inl hlower)
  split at h
  · rename_i hupper
    exact .inr (.inr hupper)
  · cases h

theorem isBlank_eq_false_of_hexDigit? {c : Char} (h : (Json.hexDigit? c).isSome = true) :
    isBlank c = false := by
  have hrange := toNat_of_hexDigit? h
  rw [Bool.eq_false_iff]
  intro hblank
  simp only [isBlank, Bool.or_eq_true, Bool.and_eq_true, decide_eq_true_eq, beq_iff_eq] at hblank
  omega

theorem hexDigit?_digitChar (hn : n < 16) : Json.hexDigit? n.digitChar = some n := by
  have hall : ∀ d : Fin 16, Json.hexDigit? (Nat.digitChar d) = some d.val := by decide
  exact hall ⟨n, hn⟩

theorem hexDigit?_toUpper_digitChar (hn : n < 16) :
    Json.hexDigit? n.digitChar.toUpper = some n := by
  have hall : ∀ d : Fin 16, Json.hexDigit? (Nat.digitChar d).toUpper = some d.val := by decide
  exact hall ⟨n, hn⟩

/-- The digits of a number are read in whichever case they are written. -/
theorem readHexFrom?_map_toDigits {f : Char → Char}
    (hcase : ∀ d < 16, Json.hexDigit? (f d.digitChar) = some d) (n : Nat) :
    readHexFrom? 0 ((Nat.toDigits 16 n).map f) = some n := by
  induction n using Nat.base_induction 16 (by decide) with
  | single d hd => simp [Nat.toDigits_of_lt_base hd, readHexFrom?, hcase d hd]
  | digit n d hd hn ih =>
    rw [← Nat.toDigits_append_toDigits (by decide) hn hd, List.map_append, readHexFrom?_append, ih,
      Nat.toDigits_of_lt_base hd]
    simp [readHexFrom?, hcase d hd]

/-- Zeros in front of the upper-case hexadecimal digits of a number leave the number. -/
theorem readHex?_padLeft_upper (width n : Nat) :
    readHex? (padLeft '0' width ((Nat.toDigits 16 n).map Char.toUpper)) = some n := by
  rw [readHex?, padLeft, readHexFrom?_zeros_append,
    readHexFrom?_map_toDigits fun _ => hexDigit?_toUpper_digitChar]

/-- Reading the hexadecimal digits of a number gives the number. -/
theorem readHex?_upperHex (width n : Nat) : readHex? (upperHex width n) = some n := by
  have hnonneg : ¬ (n : Int) < 0 := by omega
  simp only [upperHex, hnonneg, if_false, Int.natAbs_natCast]
  exact readHex?_padLeft_upper width n

/-- Reading the lower-case hexadecimal digits of a number gives the number. -/
theorem readHex?_hexOf (width n : Nat) : readHex? (hexOf width n) = some n := by
  have hdigits := readHexFrom?_map_toDigits (f := id) (fun _ => hexDigit?_digitChar) n
  rw [List.map_id] at hdigits
  rw [hexOf, padLeft, readHex?, readHexFrom?_zeros_append, hdigits]

theorem isBlank_eq_false_of_mem_upperHex {c : Char} {width : Nat} (h : c ∈ upperHex width n) :
    isBlank c = false := by
  exact isBlank_eq_false_of_hexDigit? (isSome_hexDigit?_of_mem (readHex?_upperHex width n) h)

/-- A character that is no digit does not stand among upper-case hexadecimal digits. -/
theorem not_mem_padLeft_upper {c : Char} (h : Json.hexDigit? c = none) (width n : Nat) :
    c ∉ padLeft '0' width ((Nat.toDigits 16 n).map Char.toUpper) := by
  intro hmem
  have hsome := isSome_hexDigit?_of_mem (readHex?_padLeft_upper width n) hmem
  rw [h] at hsome
  cases hsome

theorem quote_not_mem_upperHex (width : Nat) (n : Int) : '\'' ∉ upperHex width n := by
  rw [upperHex]
  split
  · exact List.not_mem_cons_of_ne_of_not_mem (by decide) (not_mem_padLeft_upper (by decide) _ _)
  · exact not_mem_padLeft_upper (by decide) _ _

end Hexadecimal

end StubVector.Text
