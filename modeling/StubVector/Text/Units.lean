import StubVector.Text

/-!
# Sixteen-bit units

Text as a row of sixteen-bit units: a code point below U+10000 is one unit, every other one a high
unit followed by a low unit.

* `unitsOf`: the units of a character.
* `ofUnits?`: the text of a row of units, if every high unit is followed by a low one and every low
  unit preceded by a high one.
* `ofUnits?_units`: reading the units of a text gives the text.
-/

namespace StubVector.Text

/-- Whether a unit is the first of a pair. -/
def isHighUnit (unit : Nat) : Bool := 0xD800 ≤ unit && unit < 0xDC00

/-- Whether a unit is the second of a pair. -/
def isLowUnit (unit : Nat) : Bool := 0xDC00 ≤ unit && unit < 0xE000

/-- The units of a character. -/
def unitsOf (c : Char) : List Nat :=
  if c.toNat < 0x10000 then [c.toNat]
  else [0xD800 + (c.toNat - 0x10000) / 0x400, 0xDC00 + (c.toNat - 0x10000) % 0x400]

/-- The character of a pair of units. -/
def ofPair (high low : Nat) : Char :=
  Char.ofNat (0x10000 + (high - 0xD800) * 0x400 + (low - 0xDC00))

/-- The text of a row of units. -/
def ofUnits? : List Nat → Option Text
  | [] => some []
  | unit :: units =>
    if isHighUnit unit then
      match units with
      | [] => none
      | low :: units =>
        if isLowUnit low then (ofUnits? units).map (ofPair unit low :: ·) else none
    else if isLowUnit unit then none
    else (ofUnits? units).map (Char.ofNat unit :: ·)

/-- Every unit has sixteen bits. -/
theorem unitsOf_lt {c : Char} {unit : Nat} (h : unit ∈ unitsOf c) : unit < 0x10000 := by
  have hvalid : c.toNat < 0xD800 ∨ (0xDFFF < c.toNat ∧ c.toNat < 0x110000) := c.valid
  unfold unitsOf at h
  split at h
  · simp only [List.mem_singleton] at h; omega
  · simp only [List.mem_cons, List.not_mem_nil, or_false] at h; omega

/-- Reading the units of a character gives the character, whatever follows. -/
theorem ofUnits?_unitsOf_append (c : Char) (units : List Nat) :
    ofUnits? (unitsOf c ++ units) = (ofUnits? units).map (c :: ·) := by
  have hvalid : c.toNat < 0xD800 ∨ (0xDFFF < c.toNat ∧ c.toNat < 0x110000) := c.valid
  unfold unitsOf
  split
  · rw [List.singleton_append, ofUnits?.eq_def]
    have hhigh : isHighUnit c.toNat = false := by simp only [isHighUnit]; grind
    have hlow : isLowUnit c.toNat = false := by simp only [isLowUnit]; grind
    simp [hhigh, hlow, Char.ofNat_toNat]
  · rw [List.cons_append, List.singleton_append, ofUnits?.eq_def]
    have hhigh : isHighUnit (0xD800 + (c.toNat - 0x10000) / 0x400) = true := by
      simp only [isHighUnit, Bool.and_eq_true, decide_eq_true_eq]; omega
    have hlow : isLowUnit (0xDC00 + (c.toNat - 0x10000) % 0x400) = true := by
      simp only [isLowUnit, Bool.and_eq_true, decide_eq_true_eq]; omega
    have hpair : ofPair (0xD800 + (c.toNat - 0x10000) / 0x400)
        (0xDC00 + (c.toNat - 0x10000) % 0x400) = c := by
      rw [ofPair, show 0x10000 + (0xD800 + (c.toNat - 0x10000) / 0x400 - 0xD800) * 0x400 +
        (0xDC00 + (c.toNat - 0x10000) % 0x400 - 0xDC00) = c.toNat by omega, Char.ofNat_toNat]
    simp [hhigh, hlow, hpair]

/-- Reading the units of a text gives the text. -/
theorem ofUnits?_units (text : Text) : ofUnits? (text.flatMap unitsOf) = some text := by
  induction text with
  | nil => rfl
  | cons c text ih => rw [List.flatMap_cons, ofUnits?_unitsOf_append, ih, Option.map_some]

end StubVector.Text
