import StubVector.Proofs.Definition.RoundTrip

/-!
# Refused lines

A line with the marker is read or refused (`parse_outcomes`). What is refused is refused at its own
place, with one exception: an index with more digits than a numeral may have is refused before it is
known to belong to anything, and its failure tells the number of digits alone.

* `IndexOversized`: what such a line looks like. The comment is not looked at.
* `parse_eq_oversizedIndex_iff`: these are the lines that are refused without a place.
-/

namespace StubVector.Line

open Text

variable {line rest digits : Text} {source : SourceLine} {count : Nat} {failure : Failure}

/-! ## The steps of a refusal -/

/-- The index of a line has `count` digits, and these are more than may be read. Something other
than blanks follows, but it need not be a comment. -/
def IndexOversized (line : Text) (count : Nat) : Prop :=
  ∃ symbol gap digits rest : Text,
    line = marker ++ symbol ++ [' '] ++ gap ++ digits ++ [' '] ++ rest ∧
    symbol ≠ [] ∧ ' ' ∉ symbol ∧ Blanks gap ∧ (∀ c ∈ digits, c.isDigit = true) ∧
    digits.length = count ∧ 4300 < count ∧ ∃ c ∈ rest, isBlank c = false

theorem parseIndex_eq_oversizedIndex_iff :
    parseIndex digits source = .error (.oversizedIndex count) ↔
      (∀ c ∈ digits, c.isDigit = true) ∧ digits.length = count ∧ maxNumeralDigits < count := by
  unfold parseIndex readIndex
  by_cases h : isDecimal digits = true
  · have hall := (isDecimal_iff.mp h).2
    by_cases hlength : maxNumeralDigits < digits.length
    · simp only [h, hlength, Bool.not_true, Bool.false_eq_true, if_true, if_false,
        Except.error.injEq, Failure.oversizedIndex.injEq]
      exact ⟨fun hcount => ⟨hall, hcount, hcount ▸ hlength⟩, fun hcount => hcount.2.1⟩
    · simp only [h, hlength, Bool.not_true, Bool.false_eq_true, if_false, reduceCtorEq, false_iff]
      rintro ⟨-, rfl, hlong⟩
      exact hlength hlong
  · simp only [Bool.not_eq_true] at h
    simp only [h, Bool.not_false, if_true, Except.error.injEq, reduceCtorEq, false_iff]
    rintro ⟨hall, hlength, hlong⟩
    have hne : digits ≠ [] := by
      rintro rfl
      rw [List.length_nil] at hlength
      omega
    rw [isDecimal_iff.mpr ⟨hne, hall⟩] at h
    cases h

theorem parseIndex_eq_error (h : parseIndex digits source = .error failure) :
    failure = .faulty .badIndex source ∨ ∃ count, failure = .oversizedIndex count := by
  unfold parseIndex readIndex at h
  split at h
  · cases h
    exact .inl rfl
  · split at h
    · cases h
      exact .inr ⟨_, rfl⟩
    · cases h

/-- What follows the marker is refused at its place, or for its index. -/
theorem parseAfterMarker_eq_error (h : parseAfterMarker rest source = .error failure) :
    (∃ fault, failure = .faulty fault source ∧ fault ≠ .indexOutOfRange) ∨
      ∃ symbol afterSymbol digits afterIndex count,
        cutAt? ' ' rest = some (symbol, afterSymbol) ∧ symbol ≠ [] ∧
        cutAt? ' ' (trim afterSymbol) = some (digits, afterIndex) ∧
        parseIndex digits source = .error (.oversizedIndex count) ∧
        failure = .oversizedIndex count := by
  unfold parseAfterMarker at h
  split at h
  · cases h
    exact .inl ⟨_, rfl, by decide⟩
  rename_i symbol afterSymbol hsymbol
  split at h
  · cases h
    exact .inl ⟨_, rfl, by decide⟩
  rename_i hne
  split at h
  · cases h
    exact .inl ⟨_, rfl, by decide⟩
  rename_i digits afterIndex hdigits
  split at h
  · rename_i refused hindex
    cases h
    rcases parseIndex_eq_error hindex with rfl | ⟨count, rfl⟩
    · exact .inl ⟨_, rfl, by decide⟩
    · exact .inr ⟨symbol, afterSymbol, digits, afterIndex, count, hsymbol, by simpa using hne,
        hdigits, hindex, rfl⟩
  split at h
  · cases h
    exact .inl ⟨_, rfl, by decide⟩
  simp only at h
  split at h
  · cases h
    exact .inl ⟨_, rfl, by decide⟩
  · cases h

theorem parseAfterMarker_eq_oversizedIndex {symbol afterSymbol digits afterIndex : Text}
    (hsymbol : cutAt? ' ' rest = some (symbol, afterSymbol)) (hne : symbol ≠ [])
    (hdigits : cutAt? ' ' (trim afterSymbol) = some (digits, afterIndex))
    (hindex : parseIndex digits source = .error (.oversizedIndex count)) :
    parseAfterMarker rest source = .error (.oversizedIndex count) := by
  have hne' : symbol.isEmpty = false := by simpa using hne
  simp [parseAfterMarker, hsymbol, hne', hdigits, hindex]

theorem parse_eq_error_iff :
    parse line source = .error failure ↔
      ∃ rest, line = marker ++ rest ∧ parseAfterMarker rest source = .error failure := by
  rw [parse, Letter.ofText_char]
  constructor
  · intro h
    split at h
    · cases h
    · rename_i rest hrest
      refine ⟨rest, dropFront?_eq_some_iff.mp hrest, ?_⟩
      cases hafter : parseAfterMarker rest source with
      | error refused => rw [hafter] at h; cases h; rfl
      | ok found => rw [hafter] at h; cases h
  · rintro ⟨rest, rfl, hafter⟩
    rw [dropFront?_eq_some_iff.mpr rfl]
    simp [hafter, Except.map]

/-! ## Lines with an oversized index -/

/-- Digits that stand first among what is left of a line are cut off at the space behind them, as
long as something other than blanks follows. -/
theorem cutAt?_trim_digits {gap : Text} (hgap : Blanks gap)
    (hdigits : ∀ c ∈ digits, c.isDigit = true) (hne : digits ≠ [])
    (hrest : ∃ c ∈ rest, isBlank c = false) :
    ∃ afterIndex, cutAt? ' ' (trim (gap ++ digits ++ [' '] ++ rest)) =
      some (digits, afterIndex) := by
  obtain ⟨back, hback, hblanks⟩ := trimEnd_eq rest
  have hvisible : trimEnd rest ≠ [] := by
    intro hnil
    rw [hnil, List.nil_append] at hback
    obtain ⟨c, hc, hcv⟩ := hrest
    have hblank := hblanks c (hback ▸ hc)
    rw [Letter.face_char, hcv] at hblank
    cases hblank
  have hcore : Trimmed (digits ++ ' ' :: trimEnd rest) := by
    constructor
    · obtain ⟨c, tail, rfl⟩ := List.exists_cons_of_ne_nil hne
      exact startsVisible_cons_iff.mpr (isBlank_eq_false_of_isDigit (hdigits c List.mem_cons_self))
    · intro c hc
      refine endsVisible_trimEnd rest c ?_
      have hlast : (digits ++ [' '] ++ trimEnd rest).getLast? = (trimEnd rest).getLast? :=
        List.getLast?_append_of_ne_nil _ hvisible
      rw [← hlast]
      simpa using hc
  have hspace : ' ' ∉ digits := fun hmem => absurd (hdigits ' ' hmem) (by decide)
  have heq : gap ++ digits ++ [' '] ++ rest = gap ++ (digits ++ ' ' :: trimEnd rest) ++ back := by
    simp [← hback]
  rw [heq, trim_between hgap hcore hblanks]
  exact ⟨_, cutAt?_append hspace _⟩

/-- **Refused without a place.** These are the lines whose index is oversized. -/
theorem parse_eq_oversizedIndex_iff :
    parse line source = .error (.oversizedIndex count) ↔ IndexOversized line count := by
  rw [parse_eq_error_iff]
  constructor
  · rintro ⟨rest, rfl, h⟩
    rcases parseAfterMarker_eq_error h with ⟨fault, hfault, -⟩ | ⟨symbol, afterSymbol, digits,
      afterIndex, n, hsymbol, hne, hdigits, hindex, hn⟩
    · cases hfault
    cases hn
    obtain ⟨hall, hlength, hlong⟩ := parseIndex_eq_oversizedIndex_iff.mp hindex
    obtain ⟨rfl, hspace⟩ := cutAt?_eq_some hsymbol
    obtain ⟨hcore, -⟩ := cutAt?_eq_some hdigits
    obtain ⟨front, back, hafter, hfront, -⟩ := trim_eq afterSymbol
    refine ⟨symbol, front, digits, afterIndex ++ back, ?_, hne, hspace, hfront, hall, hlength,
      hlong, ?_⟩
    · rw [hafter, hcore]
      simp
    · -- what is trimmed ends visibly, so that the space after the digits is not its end
      have hends := (trimmed_trim afterSymbol).2
      rw [hcore] at hends
      rcases List.eq_nil_or_concat afterIndex with rfl | ⟨front', c, rfl⟩
      · exact absurd (endsVisible_concat_iff.mp hends) (by decide)
      · rw [List.concat_eq_append, ← List.cons_append, ← List.append_assoc,
          endsVisible_concat_iff] at hends
        exact ⟨c, by simp, hends⟩
  · rintro ⟨symbol, gap, digits, rest, rfl, hne, hspace, hgap, hall, hlength, hlong, hrest⟩
    have hdigits : digits ≠ [] := by
      rintro rfl
      rw [List.length_nil] at hlength
      omega
    obtain ⟨afterIndex, hcut⟩ := cutAt?_trim_digits hgap hall hdigits hrest
    refine ⟨symbol ++ ' ' :: (gap ++ digits ++ [' '] ++ rest), by simp, ?_⟩
    exact parseAfterMarker_eq_oversizedIndex (cutAt?_append hspace _) hne hcut
      (parseIndex_eq_oversizedIndex_iff.mpr ⟨hall, hlength, hlong⟩)

/-! ## What becomes of a line -/

/-- A definition on a line has the place at which the line is read. -/
theorem source_of_parse {definition : Definition}
    (h : parse line source = .ok (some definition)) : definition.source = some source := by
  obtain ⟨parts, -, rfl⟩ := exists_parts_definition h
  rfl

/-- A line is refused at its own place, or for an oversized index. -/
theorem parse_eq_error (h : parse line source = .error failure) :
    (∃ fault, failure = .faulty fault source ∧ fault ≠ .indexOutOfRange) ∨
      ∃ count, failure = .oversizedIndex count ∧ IndexOversized line count := by
  obtain ⟨rest, hline, hafter⟩ := parse_eq_error_iff.mp h
  rcases parseAfterMarker_eq_error hafter with hfault | ⟨_, _, _, _, count, -, -, -, -, rfl⟩
  · exact .inl hfault
  · exact .inr ⟨count, rfl, parse_eq_oversizedIndex_iff.mp h⟩

/-- A line with the marker is read, refused at its place, or refused for an oversized index. -/
theorem parse_outcomes (h : marker <+: line) (source : SourceLine) :
    (∃ definition, parse line source = .ok (some definition)) ∨
      (∃ fault, parse line source = .error (.faulty fault source)) ∨
      ∃ count, parse line source = .error (.oversizedIndex count) ∧ IndexOversized line count := by
  cases hparse : parse line source with
  | ok found =>
    cases found with
    | none => exact absurd h (parse_eq_none_iff.mp hparse)
    | some definition => exact .inl ⟨definition, rfl⟩
  | error failure =>
    rcases parse_eq_error hparse with ⟨fault, rfl, -⟩ | ⟨count, rfl, hcount⟩
    · exact .inr (.inl ⟨fault, rfl⟩)
    · exact .inr (.inr ⟨count, rfl, hcount⟩)

/-- A line with the marker is read or refused at its place exactly if its index is not oversized. -/
theorem located_iff (h : marker <+: line) (source : SourceLine) :
    ((∃ definition, parse line source = .ok (some definition)) ∨
      ∃ fault, parse line source = .error (.faulty fault source)) ↔
      ∀ count, ¬ IndexOversized line count := by
  constructor
  · intro hlocated count hcount
    rw [← @parse_eq_oversizedIndex_iff line source] at hcount
    rcases hlocated with ⟨definition, hread⟩ | ⟨fault, hread⟩ <;> rw [hcount] at hread <;>
      cases hread
  · intro hcount
    rcases parse_outcomes h source with hread | hread | ⟨count, -, hoversized⟩
    · exact .inl hread
    · exact .inr hread
    · exact absurd hoversized (hcount count)

end StubVector.Line
