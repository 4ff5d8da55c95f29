import StubVector.Text.Units

/-!
# UTF-16

Text as bytes in UTF-16, two bytes for every sixteen-bit unit, in either order.

* `Utf16.encode`, `Utf16.decode?`: without a byte order mark.
* `Utf16.decode?_encode`: the bytes of a text are read as that text.
-/

namespace StubVector.Utf16

/-- Which byte of a unit comes first. -/
inductive ByteOrder where
  | littleEndian
  | bigEndian
  deriving DecidableEq, Repr

/-- The bytes of a unit. -/
def unitBytes (order : ByteOrder) (unit : Nat) : List UInt8 :=
  match order with
  | .littleEndian => [UInt8.ofNat (unit % 0x100), UInt8.ofNat (unit / 0x100)]
  | .bigEndian => [UInt8.ofNat (unit / 0x100), UInt8.ofNat (unit % 0x100)]

/-- The unit of two bytes. -/
def unitOf (order : ByteOrder) (first second : UInt8) : Nat :=
  match order with
  | .littleEndian => second.toNat * 0x100 + first.toNat
  | .bigEndian => first.toNat * 0x100 + second.toNat

/-- The units of bytes, if their number is even. -/
def units? (order : ByteOrder) : List UInt8 → Option (List Nat)
  | [] => some []
  | [_] => none
  | first :: second :: bytes => (units? order bytes).map (unitOf order first second :: ·)

/-- The bytes of a text. -/
def encode (order : ByteOrder) (text : Text) : List UInt8 :=
  (text.flatMap Text.unitsOf).flatMap (unitBytes order)

/-- The text of bytes, if they are UTF-16. -/
def decode? (order : ByteOrder) (bytes : List UInt8) : Option Text :=
  (units? order bytes).bind Text.ofUnits?

/-- The mark that a text in UTF-16 starts with to tell its byte order. -/
def byteOrderMark (order : ByteOrder) : List UInt8 := unitBytes order 0xFEFF

theorem unitOf_unitBytes (order : ByteOrder) {unit : Nat} (h : unit < 0x10000)
    (bytes : List UInt8) :
    units? order (unitBytes order unit ++ bytes) = (units? order bytes).map (unit :: ·) := by
  cases order <;>
  · simp only [unitBytes, List.cons_append, List.nil_append, units?, unitOf, UInt8.toNat_ofNat']
    rw [show unit / 0x100 % 2 ^ 8 * 0x100 + unit % 0x100 % 2 ^ 8 = unit by omega]

theorem units?_flatMap (order : ByteOrder) {units : List Nat} (h : ∀ u ∈ units, u < 0x10000) :
    units? order (units.flatMap (unitBytes order)) = some units := by
  induction units with
  | nil => rfl
  | cons unit units ih =>
    rw [List.flatMap_cons, unitOf_unitBytes order (h unit List.mem_cons_self),
      ih fun u hu => h u (List.mem_cons_of_mem _ hu), Option.map_some]

/-- The bytes of a text are read as that text. -/
theorem decode?_encode (order : ByteOrder) (text : Text) :
    decode? order (encode order text) = some text := by
  rw [decode?, encode, units?_flatMap order, Option.bind_some, Text.ofUnits?_units]
  intro unit hunit
  obtain ⟨c, _, hc⟩ := List.mem_flatMap.mp hunit
  exact Text.unitsOf_lt hc

end StubVector.Utf16
