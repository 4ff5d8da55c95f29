import Mathlib.Data.List.TakeDrop
import StubVector.Proofs.Text.Numeral

/-!
# Printed JSON is read back

The printed form of a value is read as the value. A string is read unit by unit: every character is
printed as its units, so that an escaped pair becomes one character again. Behind a printed value
stands a comma, a new line or nothing, and none of them could belong to a number.

* `Json.readString_escaped`: a printed string is read as the string.
* `Json.readNumber_decimal`: a printed integer is read as the integer.
* `Json.readsBack`: a printed value is read as the value, whatever follows it.
* `Json.parse?_render`: **the printed form of a value is that value**.
* `Json.inPrint_render`: the printed form has characters from the space to the tilde, and line
  feeds, only.
-/

namespace StubVector.Json

open Text

variable {c : Char} {unit n level fuel : Nat} {rest text : Text} {value item : Json}

/-! ## Strings -/

theorem hexUnit?_eq_readHex? (a b c d : Char) : hexUnit? a b c d = readHex? [a, b, c, d] := by
  simp only [hexUnit?, readHex?, readHexFrom?]
  cases hexDigit? a <;> cases hexDigit? b <;> cases hexDigit? c <;> cases hexDigit? d <;>
    simp [Nat.mul_comm]

/-- A unit is written in four digits. -/
theorem exists_hexOf_eq (h : unit < 0x10000) :
    ∃ a b c d, hexOf 4 unit = [a, b, c, d] ∧ hexUnit? a b c d = some unit := by
  have hlength : (hexOf 4 unit).length = 4 := by
    have hdigits : (Nat.toDigits 16 unit).length ≤ 4 :=
      (Nat.length_toDigits_le_iff (by decide) (by decide)).mpr h
    rw [hexOf, padLeft, List.length_append, List.length_replicate]
    omega
  obtain ⟨a, b, c, d, hdigits⟩ : ∃ a b c d, hexOf 4 unit = [a, b, c, d] := by
    generalize hexOf 4 unit = digits at hlength
    rcases digits with _ | ⟨a, _ | ⟨b, _ | ⟨c, _ | ⟨d, _ | ⟨e, others⟩⟩⟩⟩⟩ <;> simp at hlength ⊢
  exact ⟨a, b, c, d, hdigits, by rw [hexUnit?_eq_readHex?, ← hdigits, readHex?_hexOf]⟩

/-- What reading gives if other units stand in front. -/
def withUnits (front : List Nat) (read : Option (List Nat × Text)) : Option (List Nat × Text) :=
  read.map fun (units, rest) => (front ++ units, rest)

theorem withUnits_append (front back : List Nat) (read : Option (List Nat × Text)) :
    withUnits (front ++ back) read = withUnits front (withUnits back read) := by
  cases read <;> simp [withUnits]

theorem readUnits_escape (h : unit < 0x10000) (rest : Text) :
    readUnits ("\\u".toList ++ hexOf 4 unit ++ rest) = withUnits [unit] (readUnits rest) := by
  obtain ⟨a, b, c, d, hdigits, hunit⟩ := exists_hexOf_eq h
  rw [hdigits]
  cases hrest : readUnits rest <;> simp [readUnits, hunit, hrest, withUnits]

theorem readUnits_escapes {units : List Nat} (h : ∀ unit ∈ units, unit < 0x10000) (rest : Text) :
    readUnits ((units.flatMap fun unit => "\\u".toList ++ hexOf 4 unit) ++ rest) =
      withUnits units (readUnits rest) := by
  induction units with
  | nil => cases hrest : readUnits rest <;> simp [withUnits, hrest]
  | cons unit units ih =>
    have htail := ih fun other hother => h other (List.mem_cons_of_mem _ hother)
    rw [List.flatMap_cons, List.append_assoc, readUnits_escape (h unit List.mem_cons_self), htail,
      ← withUnits_append, List.singleton_append]

theorem readUnits_short {letter : Char} (h : shortEscape? letter = some c) (rest : Text) :
    readUnits ('\\' :: letter :: rest) = withUnits [c.toNat] (readUnits rest) := by
  have hletter : letter ≠ 'u' := by
    rintro rfl
    cases h
  rw [readUnits.eq_4 _ _ fun _ _ _ _ _ hu _ => hletter hu, h]
  cases readUnits rest <;> simp [withUnits]

theorem readUnits_plain (hlow : 0x20 ≤ c.toNat) (hquote : c ≠ '"') (hslash : c ≠ '\\')
    (rest : Text) : readUnits (c :: rest) = withUnits (unitsOf c) (readUnits rest) := by
  have hcontrol : ¬ c.toNat < 32 := by omega
  rw [readUnits.eq_5 _ _ hquote (fun _ _ _ _ _ h _ => hslash h) fun _ _ h _ => hslash h]
  cases readUnits rest <;> simp [withUnits, hcontrol, hslash]

/-- The units of a printed character are those of the character. -/
theorem readUnits_escapeLetter (c : Char) (rest : Text) :
    readUnits (escapeLetter c ++ rest) = withUnits (unitsOf c) (readUnits rest) := by
  have hshort : ∀ {letter c : Char}, c.toNat < 0x10000 → shortEscape? letter = some c →
      readUnits ('\\' :: letter :: rest) = withUnits (unitsOf c) (readUnits rest) := by
    intro letter c hc h
    rw [readUnits_short h, unitsOf, if_pos hc]
  have hcontrol : ∀ {point : Nat}, c.toNat = point → c = Char.ofNat point := by
    rintro _ rfl
    exact (Char.ofNat_toNat c).symm
  simp only [escapeLetter, Letter.face_char, Letter.units_char]
  split_ifs with hquote hslash hline hreturn htab hback hfeed hplain
  · subst hquote; exact hshort (by decide) rfl
  · subst hslash; exact hshort (by decide) rfl
  · subst hline; exact hshort (by decide) rfl
  · subst hreturn; exact hshort (by decide) rfl
  · subst htab; exact hshort (by decide) rfl
  · rw [hcontrol hback]; exact hshort (by decide) rfl
  · rw [hcontrol hfeed]; exact hshort (by decide) rfl
  · exact readUnits_plain hplain.1 hquote hslash rest
  · exact readUnits_escapes (fun _ => unitsOf_lt) rest

/-- A printed string is read as the string. -/
theorem readString_escaped (value rest : Text) :
    readString (value.flatMap escapeLetter ++ '"' :: rest) = some (value, rest) := by
  have hunits : readUnits (value.flatMap escapeLetter ++ '"' :: rest) =
      some (value.flatMap unitsOf, rest) := by
    induction value with
    | nil => rfl
    | cons c value ih =>
      rw [List.flatMap_cons, List.append_assoc, readUnits_escapeLetter, ih]
      rfl
  rw [readString, hunits]
  simp [ofUnits?_units]

/-! ## Numbers -/

/-- Whether a text may stand behind a printed value: it is empty, or begins with a comma or a line
feed. -/
def Closed (rest : Text) : Prop := ∀ c ∈ rest.head?, c = ',' ∨ c = '\n'

theorem readDigits_append {digits : Text} (h : isDecimal digits = true) (hrest : Closed rest) :
    readDigits (digits ++ rest) = some (digits, rest) := by
  obtain ⟨hne, hdigits⟩ := isDecimal_iff.mp h
  have hstop : rest.takeWhile Char.isDigit = [] ∧ rest.dropWhile Char.isDigit = rest := by
    cases rest with
    | nil => exact ⟨rfl, rfl⟩
    | cons c rest =>
      rcases hrest c rfl with rfl | rfl <;> exact ⟨rfl, rfl⟩
  rw [readDigits, List.span_eq_takeWhile_dropWhile, List.takeWhile_append_of_pos hdigits,
    List.dropWhile_append_of_pos hdigits, hstop.1, hstop.2, List.append_nil]
  simp [hne]

theorem isDecimal_decimalNat (n : Nat) : isDecimal (decimalNat n) = true :=
  isDecimal_iff.mpr ⟨decimalNat_ne_nil n, fun _ => isDigit_of_mem_decimalNat⟩

/-- No zero stands in front of other digits. -/
theorem head?_decimalNat_ne_zero (h : 0 < n) : (decimalNat n).head? ≠ some '0' := by
  induction n using Nat.base_induction 10 (by decide) with
  | single d hd =>
    rw [decimalNat, Nat.toDigits_of_lt_base hd]
    have hall : ∀ d : Fin 10, 0 < d.val → [Nat.digitChar d].head? ≠ some '0' := by decide
    exact hall ⟨d, hd⟩ h
  | digit n d hd hn ih =>
    obtain ⟨c, digits, hdigits⟩ := List.exists_cons_of_ne_nil (decimalNat_ne_nil n)
    have hhead := ih hn
    rw [hdigits] at hhead
    rw [decimalNat, ← Nat.toDigits_append_toDigits (by decide) hn hd, ← decimalNat, hdigits]
    exact hhead

theorem readWhole_decimalNat (n : Nat) (hrest : Closed rest) :
    readWhole (decimalNat n ++ rest) = some (decimalNat n, rest) := by
  obtain rfl | hpos := Nat.eq_zero_or_pos n
  · rfl
  · have hhead := head?_decimalNat_ne_zero hpos
    obtain ⟨c, digits, hdigits⟩ := List.exists_cons_of_ne_nil (decimalNat_ne_nil n)
    have hc : c ≠ '0' := by
      rintro rfl
      exact hhead (by rw [hdigits]; rfl)
    rw [← readDigits_append (isDecimal_decimalNat n) hrest, hdigits, List.cons_append, readWhole]
    intro _ h
    exact hc (List.cons.inj h).1

theorem readFraction_closed (hrest : Closed rest) : readFraction rest = some ([], rest) := by
  cases rest with
  | nil => rfl
  | cons c rest => rcases hrest c rfl with rfl | rfl <;> rfl

theorem readExponent_closed (hrest : Closed rest) : readExponent rest = some ([], rest) := by
  cases rest with
  | nil => rfl
  | cons c rest => rcases hrest c rfl with rfl | rfl <;> rfl

/-- The head of a printed natural number is a digit. -/
theorem exists_decimalNat_eq_cons (n : Nat) :
    ∃ c digits, decimalNat n = c :: digits ∧ c.isDigit = true := by
  obtain ⟨c, digits, hdigits⟩ := List.exists_cons_of_ne_nil (decimalNat_ne_nil n)
  exact ⟨c, digits, hdigits, isDigit_of_mem_decimalNat (hdigits ▸ List.mem_cons_self)⟩

/-- A printed integer is read as the integer. -/
theorem readNumber_decimal (number : Int) (hrest : Closed rest) :
    readNumber (decimal number ++ rest) = some (.int number, rest) := by
  have hwhole := readWhole_decimalNat number.natAbs hrest
  rw [decimal]
  split
  · have hvalue : -(readDecimal (decimalNat number.natAbs) : Int) = number := by
      rw [readDecimal_decimalNat]
      omega
    simp only [readNumber, List.cons_append, hwhole, readFraction_closed hrest,
      readExponent_closed hrest, Option.bind_eq_bind, Option.bind_some, List.isEmpty_nil,
      Bool.and_self, if_true, hvalue]
    rfl
  · obtain ⟨c, digits, hdigits, hc⟩ := exists_decimalNat_eq_cons number.natAbs
    have hvalue : (readDecimal (decimalNat number.natAbs) : Int) = number := by
      rw [readDecimal_decimalNat]
      omega
    rw [readNumber]
    · simp only [hwhole, readFraction_closed hrest, readExponent_closed hrest,
        Option.bind_eq_bind, Option.bind_some, List.isEmpty_nil, Bool.and_self, if_true,
        Bool.false_eq_true, if_false, hvalue]
      rfl
    · intro tail h
      rw [hdigits] at h
      rw [(List.cons.inj h).1] at hc
      exact absurd hc (by decide)

/-! ## Blanks -/

theorem skipBlanks_newLine_append (level : Nat) (text : Text) :
    skipBlanks (newLine level ++ text) = skipBlanks text := by
  refine List.dropWhile_append_of_pos fun c hc => ?_
  rcases List.mem_cons.mp hc with rfl | hc
  · rfl
  · rw [List.eq_of_mem_replicate hc]
    rfl

theorem readValue_newLine_append (fuel level : Nat) (text : Text) :
    readValue fuel (newLine level ++ text) = readValue fuel text := by
  cases fuel with
  | zero => rw [readValue, readValue]
  | succ fuel => rw [readValue, readValue, skipBlanks_newLine_append]

theorem closed_newLine_append (level : Nat) (text : Text) : Closed (newLine level ++ text) := by
  rintro c ⟨⟩
  exact .inr rfl

theorem closed_comma (text : Text) : Closed (',' :: text) := by
  rintro c ⟨⟩
  exact .inl rfl

/-! ## Values -/

/-- Whether every number in a value is an integer. -/
inductive Integral : Json → Prop
  | null : Integral .null
  | bool (value : Bool) : Integral (.bool value)
  | int (value : Int) : Integral (.int value)
  | str (value : Text) : Integral (.str value)
  | arr {items : List Json} (h : ∀ item ∈ items, Integral item) : Integral (.arr items)
  | obj {fields : List (Text × Json)} (h : ∀ field ∈ fields, Integral field.2) :
      Integral (.obj fields)

/-- Whether a character starts a printed value. -/
def startsValue (c : Char) : Bool := c.isDigit || c ∈ ['-', 'n', 't', 'f', '"', '[', '\x7b']

theorem exists_decimal_eq_cons (number : Int) :
    ∃ c text, decimal number = c :: text ∧ (c = '-' ∨ c.isDigit = true) := by
  rw [decimal]
  split
  · exact ⟨_, _, rfl, .inl rfl⟩
  · obtain ⟨c, digits, hdigits, hc⟩ := exists_decimalNat_eq_cons number.natAbs
    exact ⟨c, digits, hdigits, .inr hc⟩

theorem exists_renderAt_eq_cons (h : Integral value) (level : Nat) :
    ∃ c text, renderAt level value = c :: text ∧ startsValue c = true := by
  cases h with
  | null => exact ⟨_, _, by rw [renderAt]; rfl, rfl⟩
  | bool value => cases value <;> exact ⟨_, _, by rw [renderAt]; rfl, rfl⟩
  | int number =>
    obtain ⟨c, text, hdecimal, hc⟩ := exists_decimal_eq_cons number
    refine ⟨c, text, by rw [renderAt, hdecimal], ?_⟩
    rcases hc with rfl | hc <;> simp [startsValue, *]
  | str value => exact ⟨_, _, by rw [renderAt, renderString]; rfl, rfl⟩
  | @arr items =>
    cases items <;> exact ⟨_, _, by rw [renderAt]; rfl, rfl⟩
  | @obj fields =>
    cases fields with
    | nil => exact ⟨_, _, by rw [renderAt], rfl⟩
    | cons => exact ⟨_, _, by rw [renderAt]; rfl, rfl⟩

/-- No blank stands in front of a printed value. -/
theorem skipBlanks_renderAt_append (h : Integral value) (level : Nat) (rest : Text) :
    skipBlanks (renderAt level value ++ rest) = renderAt level value ++ rest := by
  obtain ⟨c, text, heq, hc⟩ := exists_renderAt_eq_cons h level
  have hblank : (c = ' ' || c = '\t' || c = '\n' || c = '\r') = false := by
    rw [Bool.eq_false_iff]
    simp only [ne_eq, Bool.or_eq_true, decide_eq_true_eq]
    rintro (((rfl | rfl) | rfl) | rfl) <;> exact absurd hc (by decide)
  rw [heq, List.cons_append, skipBlanks, List.dropWhile_cons, if_neg (Bool.eq_false_iff.mp hblank)]

/-- Whether the printed form of a value is read as the value. -/
def ReadsBack (value : Json) : Prop :=
  ∀ (level fuel : Nat) (rest : Text), (renderAt level value).length ≤ fuel → Closed rest →
    readValue fuel (renderAt level value ++ rest) = some (value, rest)

theorem readValue_decimal (number : Int) (fuel : Nat) (hrest : Closed rest) :
    readValue (fuel + 1) (decimal number ++ rest) = some (.int number, rest) := by
  have hskip := skipBlanks_renderAt_append (.int number) 0 rest
  rw [renderAt] at hskip
  have hhead : ∀ {d tail}, decimal number ++ rest = d :: tail → d = '-' ∨ d.isDigit = true := by
    obtain ⟨c, text, heq, hc⟩ := exists_decimal_eq_cons number
    intro d tail h
    rw [heq] at h
    rwa [← (List.cons.inj h).1]
  rw [readValue, hskip]
  split
  case h_7 => exact readNumber_decimal number hrest
  all_goals
    rename_i h
    exact absurd (hhead h) (by decide)

/-- Elements are read up to the bracket behind them. -/
theorem readItems_renderItems {items : List Json} {outer : Nat} (hne : items ≠ [])
    (hitems : ∀ item ∈ items, ReadsBack item) (hfuel : (renderItems level items).length ≤ fuel) :
    readItems fuel (renderItems level items ++ (newLine outer ++ ']' :: rest)) =
      some (items, rest) := by
  induction items generalizing fuel with
  | nil => exact absurd rfl hne
  | cons item items ih =>
    have hitem := hitems item List.mem_cons_self
    have hmore : ∀ other ∈ items, ReadsBack other :=
      fun other hother => hitems other (List.mem_cons_of_mem _ hother)
    rw [renderItems] at hfuel ⊢
    simp only [List.length_append, newLine, List.length_cons] at hfuel
    obtain ⟨fuel, rfl⟩ : ∃ less, fuel = less + 1 := ⟨fuel - 1, by omega⟩
    simp only [List.append_assoc]
    rw [readItems, readValue_newLine_append]
    cases items with
    | nil =>
      have hblanks : skipBlanks (newLine outer ++ ']' :: rest) = ']' :: rest := by
        rw [skipBlanks_newLine_append]
        rfl
      simp only [List.isEmpty_nil, if_true, renderItems, List.nil_append]
      rw [hitem level fuel _ (by omega) (closed_newLine_append outer _)]
      simp [hblanks]
    | cons next items =>
      have hblanks : ∀ text, skipBlanks (',' :: text) = ',' :: text := fun _ => rfl
      have hrest := @ih fuel (List.cons_ne_nil _ _) hmore (by omega)
      simp only [List.isEmpty_cons, Bool.false_eq_true, if_false, List.singleton_append]
      rw [hitem level fuel _ (by omega) (closed_comma _)]
      simp [hblanks, hrest]

/-- Fields are read up to the brace behind them. -/
theorem readFields_renderFields {fields : List (Text × Json)} {outer : Nat} (hne : fields ≠ [])
    (hfields : ∀ field ∈ fields, ReadsBack field.2)
    (hfuel : (renderFields level fields).length ≤ fuel) :
    readFields fuel (renderFields level fields ++ (newLine outer ++ '\x7d' :: rest)) =
      some (fields, rest) := by
  induction fields generalizing fuel with
  | nil => exact absurd rfl hne
  | cons field fields ih =>
    obtain ⟨name, value⟩ := field
    have hvalue : ReadsBack value := hfields (name, value) List.mem_cons_self
    have hmore : ∀ other ∈ fields, ReadsBack other.2 :=
      fun other hother => hfields other (List.mem_cons_of_mem _ hother)
    rw [renderFields] at hfuel ⊢
    simp only [List.length_append, newLine, List.length_cons] at hfuel
    obtain ⟨fuel, rfl⟩ : ∃ less, fuel = less + 1 := ⟨fuel - 1, by omega⟩
    have hquote : ∀ text, skipBlanks ('"' :: text) = '"' :: text := fun _ => rfl
    have hcolon : ∀ text, skipBlanks (':' :: text) = ':' :: text := fun _ => rfl
    have hspace : ∀ text, readValue fuel (' ' :: text) = readValue fuel text := by
      intro text
      cases fuel <;> rfl
    simp only [List.append_assoc, List.cons_append, List.nil_append, renderString, readFields,
      skipBlanks_newLine_append, hquote, readString_escaped, String.reduceToList,
      Option.bind_eq_bind, Option.bind_some, hcolon, hspace]
    cases fields with
    | nil =>
      have hblanks : skipBlanks (newLine outer ++ '\x7d' :: rest) = '\x7d' :: rest := by
        rw [skipBlanks_newLine_append]
        rfl
      simp only [List.isEmpty_nil, if_true, renderFields, List.nil_append]
      rw [hvalue level fuel _ (by omega) (closed_newLine_append outer _)]
      simp [hblanks]
    | cons next fields =>
      have hblanks : ∀ text, skipBlanks (',' :: text) = ',' :: text := fun _ => rfl
      have hrest := @ih fuel (List.cons_ne_nil _ _) hmore (by omega)
      simp only [List.isEmpty_cons, Bool.false_eq_true, if_false, List.singleton_append]
      rw [hvalue level fuel _ (by omega) (closed_comma _)]
      simp [hblanks, hrest]

/-- Behind a bracket that is not closed at once, elements are read. -/
theorem readValue_bracket (h : ∀ tail, skipBlanks text ≠ ']' :: tail) :
    readValue (fuel + 1) ('[' :: text) =
      (readItems fuel text).map fun (items, rest) => (arr items, rest) := by
  have hskip : skipBlanks ('[' :: text) = '[' :: text := rfl
  -- the other case is excluded by the hypothesis
  simp only [readValue, hskip]

/-- Behind a brace that is not closed at once, fields are read. -/
theorem readValue_brace (h : ∀ tail, skipBlanks text ≠ '\x7d' :: tail) :
    readValue (fuel + 1) ('\x7b' :: text) =
      (readFields fuel text).map fun (fields, rest) => (obj fields, rest) := by
  have hskip : skipBlanks ('\x7b' :: text) = '\x7b' :: text := rfl
  -- the other case is excluded by the hypothesis
  simp only [readValue, hskip]

/-- A printed value is not empty, so that something is left to read it with. -/
theorem readsBack_of_succ (h : Integral value)
    (hread : ∀ (level fuel : Nat) (rest : Text), (renderAt level value).length ≤ fuel + 1 →
      Closed rest → readValue (fuel + 1) (renderAt level value ++ rest) = some (value, rest)) :
    ReadsBack value := by
  intro level fuel rest hfuel hrest
  obtain ⟨c, text, heq, -⟩ := exists_renderAt_eq_cons h level
  cases fuel with
  | zero =>
    rw [heq, List.length_cons] at hfuel
    omega
  | succ fuel => exact hread level fuel rest hfuel hrest

/-- A printed value is read as the value, whatever follows it. -/
theorem readsBack (h : Integral value) : ReadsBack value := by
  induction h with
  | null =>
    refine readsBack_of_succ .null fun level fuel rest _ _ => ?_
    simp [renderAt, readValue, skipBlanks]
  | bool value =>
    refine readsBack_of_succ (.bool value) fun level fuel rest _ _ => ?_
    cases value <;> simp [renderAt, readValue, skipBlanks]
  | int number =>
    refine readsBack_of_succ (.int number) fun level fuel rest _ hrest => ?_
    rw [renderAt]
    exact readValue_decimal number fuel hrest
  | str value =>
    refine readsBack_of_succ (.str value) fun level fuel rest _ _ => ?_
    simp [renderAt, renderString, readValue, skipBlanks, readString_escaped]
  | @arr items hitems ih =>
    refine readsBack_of_succ (.arr hitems) fun level fuel rest hfuel _ => ?_
    cases items with
    | nil => simp [renderAt, readValue, skipBlanks]
    | cons item items =>
      have hopen : ∀ tail, skipBlanks
          (renderItems (level + 1) (item :: items) ++ (newLine level ++ ']' :: rest)) ≠
            ']' :: tail := by
        obtain ⟨c, text, hitem, hc⟩ :=
          exists_renderAt_eq_cons (hitems item List.mem_cons_self) (level + 1)
        intro tail h
        simp only [renderItems, List.append_assoc, skipBlanks_newLine_append,
          skipBlanks_renderAt_append (hitems item List.mem_cons_self)] at h
        rw [hitem] at h
        rw [(List.cons.inj h).1] at hc
        exact absurd hc (by decide)
      rw [renderAt] at hfuel ⊢
      simp only [List.cons_append, List.length_cons, List.length_append, List.append_assoc,
        List.nil_append] at hfuel ⊢
      rw [readValue_bracket hopen, readItems_renderItems (List.cons_ne_nil _ _) ih (by omega)]
      rfl
  | @obj fields hfields ih =>
    refine readsBack_of_succ (.obj hfields) fun level fuel rest hfuel _ => ?_
    cases fields with
    | nil => simp [renderAt, readValue, skipBlanks]
    | cons field fields =>
      have hopen : ∀ tail, skipBlanks
          (renderFields (level + 1) (field :: fields) ++ (newLine level ++ '\x7d' :: rest)) ≠
            '\x7d' :: tail := by
        obtain ⟨name, value⟩ := field
        intro tail h
        simp only [renderFields, renderString, List.append_assoc, List.cons_append,
          skipBlanks_newLine_append] at h
        exact absurd (List.cons.inj h).1 (by decide)
      rw [renderAt] at hfuel ⊢
      simp only [List.cons_append, List.length_cons, List.length_append, List.append_assoc,
        List.nil_append] at hfuel ⊢
      rw [readValue_brace hopen, readFields_renderFields (List.cons_ne_nil _ _) ih (by omega)]
      rfl

/-- **The printed form of a value is that value.** -/
theorem parse?_render (h : Integral value) : parse? (render value) = some value := by
  have hread := readsBack h 0 (2 * (render value).length + 1) [] (by rw [render]; omega)
    (by rintro c ⟨⟩)
  rw [List.append_nil, ← render] at hread
  rw [parse?, hread]
  rfl

/-- Values that are printed alike are the same. -/
theorem render_inj {other : Json} (h : Integral value) (hother : Integral other) :
    render value = render other ↔ value = other := by
  constructor
  · intro heq
    rw [← Option.some_inj, ← parse?_render h, heq, parse?_render hother]
  · rintro rfl
    rfl

/-! ## Characters -/

/-- Whether a text has characters from the space to the tilde, and line feeds, only. -/
def InPrint (text : Text) : Prop := ∀ c ∈ text, c = '\n' ∨ 0x20 ≤ c.toNat ∧ c.toNat ≤ 0x7E

instance (text : Text) : Decidable (InPrint text) :=
  List.decidableBAll (fun c => c = '\n' ∨ 0x20 ≤ c.toNat ∧ c.toNat ≤ 0x7E) text

theorem inPrint_append_iff {other : Text} :
    InPrint (text ++ other) ↔ InPrint text ∧ InPrint other := by
  simp only [InPrint, List.mem_append, or_imp, forall_and]

theorem inPrint_cons_iff :
    InPrint (c :: text) ↔ (c = '\n' ∨ 0x20 ≤ c.toNat ∧ c.toNat ≤ 0x7E) ∧ InPrint text := by
  simp only [InPrint, List.mem_cons, forall_eq_or_imp]

theorem inPrint_flatMap {α : Type} {items : List α} {print : α → Text}
    (h : ∀ item ∈ items, InPrint (print item)) : InPrint (items.flatMap print) := by
  intro c hc
  obtain ⟨item, hitem, hmem⟩ := List.mem_flatMap.mp hc
  exact h item hitem c hmem

theorem inPrint_newLine (level : Nat) : InPrint (newLine level) := by
  refine inPrint_cons_iff.mpr ⟨.inl rfl, fun c hc => ?_⟩
  rw [List.eq_of_mem_replicate hc]
  decide

theorem inPrint_hexOf (width unit : Nat) : InPrint (hexOf width unit) := by
  intro c hc
  have hrange := toNat_of_hexDigit? (isSome_hexDigit?_of_mem (readHex?_hexOf width unit) hc)
  omega

theorem inPrint_escapeLetter (c : Char) : InPrint (escapeLetter c) := by
  simp only [escapeLetter, Letter.face_char, Letter.units_char]
  split_ifs with hquote hslash hline hreturn htab hback hfeed hplain
  -- the seven short escapes
  iterate 7 · decide
  · exact inPrint_cons_iff.mpr ⟨.inr hplain, by decide⟩
  · refine inPrint_flatMap fun unit _ => inPrint_append_iff.mpr ⟨by decide, ?_⟩
    exact inPrint_hexOf 4 unit

theorem inPrint_renderString (value : Text) : InPrint (renderString value) := by
  rw [renderString, List.cons_append, inPrint_cons_iff, inPrint_append_iff]
  exact ⟨by decide, inPrint_flatMap fun c _ => inPrint_escapeLetter c, by decide⟩

theorem inPrint_decimal (number : Int) : InPrint (decimal number) := by
  have hdigits : InPrint (decimalNat number.natAbs) := by
    intro c hc
    have hdigit := isDigit_of_mem_decimalNat hc
    simp only [Char.isDigit, Bool.and_eq_true, decide_eq_true_eq] at hdigit
    have hlow : 48 ≤ c.toNat := hdigit.1
    have hhigh : c.toNat ≤ 57 := hdigit.2
    omega
  rw [decimal]
  split
  · exact inPrint_cons_iff.mpr ⟨by decide, hdigits⟩
  · exact hdigits

theorem inPrint_comma (last : Bool) : InPrint (if last then [] else [',']) := by
  cases last <;> decide

theorem inPrint_renderItems {items : List Json}
    (h : ∀ item ∈ items, ∀ level, InPrint (renderAt level item)) (level : Nat) :
    InPrint (renderItems level items) := by
  induction items with
  | nil => rw [renderItems]; decide
  | cons item items ih =>
    have hmore := ih fun other hother => h other (List.mem_cons_of_mem _ hother)
    simp only [renderItems, inPrint_append_iff]
    exact ⟨⟨⟨inPrint_newLine level, h item List.mem_cons_self level⟩, inPrint_comma _⟩, hmore⟩

theorem inPrint_renderFields {fields : List (Text × Json)}
    (h : ∀ field ∈ fields, ∀ level, InPrint (renderAt level field.2)) (level : Nat) :
    InPrint (renderFields level fields) := by
  induction fields with
  | nil => rw [renderFields]; decide
  | cons field fields ih =>
    have hmore := ih fun other hother => h other (List.mem_cons_of_mem _ hother)
    simp only [renderFields, inPrint_append_iff]
    exact ⟨⟨⟨⟨⟨inPrint_newLine level, inPrint_renderString field.1⟩, by decide⟩,
      h field List.mem_cons_self level⟩, inPrint_comma _⟩, hmore⟩

theorem inPrint_renderAt (h : Integral value) (level : Nat) : InPrint (renderAt level value) := by
  induction h generalizing level with
  | null => rw [renderAt]; decide
  | bool value => cases value <;> (rw [renderAt]; decide)
  | int number => rw [renderAt]; exact inPrint_decimal number
  | str value => rw [renderAt]; exact inPrint_renderString value
  | @arr items _ ih =>
    cases items with
    | nil => rw [renderAt]; decide
    | cons item items =>
      rw [renderAt, List.cons_append, List.cons_append, inPrint_cons_iff, inPrint_append_iff,
        inPrint_append_iff]
      exact ⟨by decide, ⟨inPrint_renderItems ih _, inPrint_newLine _⟩, by decide⟩
  | @obj fields _ ih =>
    cases fields with
    | nil => rw [renderAt]; decide
    | cons field fields =>
      rw [renderAt, List.cons_append, List.cons_append, inPrint_cons_iff, inPrint_append_iff,
        inPrint_append_iff]
      exact ⟨by decide, ⟨inPrint_renderFields ih _, inPrint_newLine _⟩, by decide⟩

/-- The printed form of a value has characters from the space to the tilde, and line feeds, only. -/
theorem inPrint_render (h : Integral value) : InPrint (render value) := inPrint_renderAt h 0

end StubVector.Json
