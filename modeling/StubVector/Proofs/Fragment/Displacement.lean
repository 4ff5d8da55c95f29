import StubVector.Proofs.Fragment.Routine

/-!
# Displacements of loads

The last load of a routine takes the target from the slot of its definition. A load has room for a
signed displacement of 20 bits. A slot above that range is refused, but one below it is not,
although no load can encode its displacement.

* `Text.readSignedHex?`: the integer that hexadecimal digits with or without a sign stand for.
* `Encodable`: the displacements for which a load has room.
* `loadText?`: the displacement of the last load among lines, as it is written there.
* `trampoline_displacement`: **a routine loads from the slot of its definition**, or it is refused.
* `exists_trampoline_eq_error_iff_of_parse`: of the definitions that are read from lines, those are
  refused whose displacement cannot be encoded.
-/

namespace StubVector

/-! ## Signed hexadecimal digits -/

namespace Text

/-- The number that a row of at least one hexadecimal digit stands for. -/
def readHexDigits? (digits : Text) : Option Nat := if digits.isEmpty then none else readHex? digits

/-- The integer that hexadecimal digits stand for, with or without a sign in front. -/
def readSignedHex? : Text → Option Int
  | '-' :: digits => (readHexDigits? digits).map fun (n : Nat) => -(n : Int)
  | digits => (readHexDigits? digits).map fun (n : Nat) => (n : Int)

theorem readHexDigits?_padLeft_upper (width n : Nat) :
    readHexDigits? (padLeft '0' width ((Nat.toDigits 16 n).map Char.toUpper)) = some n := by
  have hne : padLeft '0' width ((Nat.toDigits 16 n).map Char.toUpper) ≠ [] := by
    simp [padLeft, Nat.toDigits_ne_nil]
  rw [readHexDigits?, if_neg (by simpa using hne), readHex?_padLeft_upper]

/-- Reading the hexadecimal digits of an integer, and its sign, gives the integer. -/
theorem readSignedHex?_upperHex (width : Nat) (n : Int) :
    readSignedHex? (upperHex width n) = some n := by
  by_cases hneg : n < 0
  · rw [upperHex, if_pos hneg, readSignedHex?, readHexDigits?_padLeft_upper, Option.map_some,
      Int.ofNat_natAbs_of_nonpos (Int.le_of_lt hneg), Int.neg_neg]
  · have hsign : ∀ digits,
        padLeft '0' width ((Nat.toDigits 16 n.natAbs).map Char.toUpper) ≠ '-' :: digits := by
      intro digits h
      have hnot : '-' ∉ padLeft '0' width ((Nat.toDigits 16 n.natAbs).map Char.toUpper) :=
        not_mem_padLeft_upper (by decide) width n.natAbs
      exact hnot (h ▸ List.mem_cons_self)
    rw [upperHex, if_neg hneg, readSignedHex?.eq_2 _ hsign, readHexDigits?_padLeft_upper,
      Option.map_some, Int.natAbs_of_nonneg (Int.not_lt.mp hneg)]

theorem two_le_length_upperHex (n : Int) : 2 ≤ (upperHex 2 n).length := by
  have hpad : ∀ width digits, width ≤ (padLeft '0' width digits).length := by
    intro width digits
    rw [padLeft, List.length_append, List.length_replicate]
    omega
  rw [upperHex]
  split
  · exact Nat.succ_le_succ (hpad 1 _)
  · exact hpad 2 _

end Text

namespace Fragment

open Text

variable {mode : DispatchMode} {definition : Definition} {failure : Failure}

/-! ## The last load -/

/-- Whether a load has room for a displacement, which is signed and has 20 bits. -/
def Encodable (offset : Int) : Prop := -0x80000 ≤ offset ∧ offset ≤ 0x7FFFF

/-- Whether the instruction behind the label column is a load. -/
def isLoad (line : Text) : Bool := startsWith "LG ".toList (line.drop (labelWidth + 1))

/-- What stands between the first `X'` of a line and the quote that closes it. -/
def hexText? : Text → Option Text
  | [] => none
  | c :: rest =>
    match dropFront? "X'".toList (c :: rest) with
    | some digits => (cutAt? '\'' digits).map (·.1)
    | none => hexText? rest

/-- The displacement of the last load among lines, as it is written. -/
def loadText? (lines : List Text) : Option Text := (lines.filter isLoad).getLast?.bind hexText?

theorem isLoad_loadLine (symbol : Text) (offset : Int) :
    isLoad (loadLine symbol offset) = true := rfl

theorem hexText?_loadLine (symbol : Text) (offset : Int) :
    hexText? (loadLine symbol offset) = some (upperHex 2 offset) := by
  obtain ⟨back, hline⟩ : ∃ back, loadLine symbol offset =
      "         LG   15,X'".toList ++ (upperHex 2 offset ++ '\'' :: back) :=
    ⟨"(,15)    ".toList ++ symbol, by simp [loadLine, unlabelled, labelWidth]⟩
  have hcut := cutAt?_append (quote_not_mem_upperHex 2 offset) back
  rw [hline]
  simp [hexText?, dropFront?, hcut]

/-- The last load of a routine is the one from the slot of its definition. -/
theorem loadText?_routineLines :
    loadText? (routineLines mode definition) =
      some (upperHex 2 (definition.index * pointerSize)) := by
  have hend : [loadLine definition.symbol (definition.index * pointerSize), branchLine].filter
      isLoad = [loadLine definition.symbol (definition.index * pointerSize)] := by
    rw [List.filter_cons_of_pos (isLoad_loadLine _ _), List.filter_cons_of_neg (by decide),
      List.filter_nil]
  have hlines : routineLines mode definition =
      (entryLine definition.symbol ::
        (aliasLines definition ++ dispatchLines definition.symbol mode)) ++
        [loadLine definition.symbol (definition.index * pointerSize), branchLine] := by
    simp [routineLines, routineBody]
  rw [loadText?, hlines, List.filter_append, hend, List.getLast?_concat, Option.bind_some,
    hexText?_loadLine]

/-! ## Which slots are refused -/

/-- A routine is refused, at its definition, if its slot is out of reach. -/
theorem trampoline_eq_error_iff :
    trampoline mode definition = .error failure ↔
      maxOffset < definition.index * pointerSize ∧
        failure = .faulty .indexOutOfRange (place definition) := by
  simp only [trampoline, slotOffset]
  split
  · next h => simp [h, Except.map, eq_comm]
  · next h => simp [h, Except.map]

/-- **A routine loads from the slot of its definition.** It is refused exactly if the displacement
of the slot exceeds what a load can encode, at the source of its definition, or by its symbol if
there is none. Otherwise the displacement of its last load is that of the slot, in two characters at
least. Unless the slot lies below the range of a load, a routine is refused exactly if its
displacement cannot be encoded. -/
theorem trampoline_displacement (mode : DispatchMode) (definition : Definition) :
    (∀ failure, trampoline mode definition = .error failure ↔
      0x7FFFF < 8 * definition.index ∧
        failure = .faulty .indexOutOfRange (definition.source.getD
          { path := "<memory>".toList, lineNumber := 0, text := definition.symbol })) ∧
    (8 * definition.index ≤ 0x7FFFF → ∃ lines written, trampoline mode definition = .ok lines ∧
      loadText? lines = some written ∧ readSignedHex? written = some (8 * definition.index) ∧
      2 ≤ written.length) ∧
    (-0x80000 ≤ 8 * definition.index →
      ((∃ failure, trampoline mode definition = .error failure) ↔
        ¬ Encodable (8 * definition.index))) := by
  have hoffset : definition.index * pointerSize = 8 * definition.index := Int.mul_comm _ _
  refine ⟨fun failure => ?_, fun hreach => ?_, fun hlow => ?_⟩
  · rw [trampoline_eq_error_iff, hoffset]
    rfl
  · refine ⟨_, _, trampoline_eq_ok_iff.mpr ⟨?_, rfl⟩, loadText?_routineLines, ?_,
      two_le_length_upperHex _⟩
    · rw [hoffset]
      exact hreach
    · rw [hoffset, readSignedHex?_upperHex]
  · simp only [trampoline_eq_error_iff, exists_and_left, exists_eq, and_true, hoffset, Encodable,
      maxOffset]
    omega

/-- A slot with a displacement of one digit and a sign. -/
theorem trampoline_displacement_negative :
    (8 * (-1) : Int) ≤ 0x7FFFF ∧
      ∃ lines written, trampoline .r12 ⟨['S'], -1, ['f'], false, none⟩ = .ok lines ∧
        loadText? lines = some written ∧ readSignedHex? written = some (-8) ∧
        2 ≤ written.length :=
  ⟨by decide, (trampoline_displacement .r12 ⟨['S'], -1, ['f'], false, none⟩).2.1 (by decide)⟩

/-- Not every routine whose displacement cannot be encoded is refused: not one far below the
vector. -/
theorem not_forall_encodable : ¬ ∀ (mode : DispatchMode) (definition : Definition),
    (∃ failure, trampoline mode definition = .error failure) ↔
      ¬ Encodable (8 * definition.index) := by
  intro h
  have hrefused := (h .r12 ⟨['S'], -65537, ['f'], true, none⟩).mpr (by simp [Encodable])
  obtain ⟨failure, hfailure⟩ := hrefused
  exact absurd (trampoline_eq_error_iff.mp hfailure).1 (by decide)

/-- The slots of definitions that are read from lines do not lie below the vector, so that exactly
those are refused whose displacement cannot be encoded. -/
theorem exists_trampoline_eq_error_iff_of_parse {line : Text} {source : SourceLine}
    (h : Line.parse line source = .ok (some definition)) :
    (∃ failure, trampoline mode definition = .error failure) ↔
      ¬ Encodable (definition.index * pointerSize) := by
  have hnonneg : 0 ≤ definition.index := (legible_of_parse h).index_nonneg
  simp only [trampoline_eq_error_iff, exists_and_left, exists_eq, and_true, Encodable, maxOffset,
    pointerSize]
  omega

end Fragment

end StubVector
