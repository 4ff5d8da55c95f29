import StubVector.Text.Letter
import StubVector.Text.Lines
import StubVector.Text.Unstorable

/-!
# Wide text

Text that may also hold halves of pairs of sixteen-bit units, each as a code point of its own.
Arguments, paths and messages are wide text, and so is what a header holds, since some charsets have
escapes for such halves. Two halves side by side are not the character that they spell, but they are
shown as this character.

* `WideText.ofText`: text as wide text.
* `WideText.toText?`: the text that a wide text is, if it holds no half.
* `WideText.shown`: what an answer shows of a wide text.
* `WideText.firstRow?`: the first halves for which a wide text cannot be stored.
-/

namespace StubVector

/-- A code point: a character, or half of a pair of sixteen-bit units. -/
inductive CodePoint where
  | char (c : Char)
  /-- The half is the unit at this distance from U+D800. -/
  | half (offset : Fin 0x800)
  deriving DecidableEq, Repr

/-- Text that may hold halves of pairs. -/
abbrev WideText := List CodePoint

/-- A row of halves of pairs where none can be stored. -/
structure HalfRow where
  /-- The number of code points before the row. -/
  position : Nat
  units : List Nat
  deriving DecidableEq, Repr

/-- The wording for a row of halves where none can be stored. -/
def HalfRow.message (row : HalfRow) : Text :=
  Text.unstorable "utf-8".toList row.position row.units "surrogates not allowed".toList

namespace CodePoint

/-- The code point that a sixteen-bit unit is. -/
def ofUnit (unit : Nat) : CodePoint :=
  if h : 0xD800 ≤ unit ∧ unit < 0xE000 then .half ⟨unit - 0xD800, by omega⟩
  else .char (Char.ofNat unit)

/-- The character that a code point is, if it is one. -/
def char? : CodePoint → Option Char
  | char c => some c
  | half _ => none

/-- The unit that a code point is, if it is half of a pair. -/
def unit? : CodePoint → Option Nat
  | char _ => none
  | half offset => some (0xD800 + offset.val)

/-- The number of a code point. -/
def value : CodePoint → Nat
  | char c => c.toNat
  | half offset => 0xD800 + offset.val

/-- The character that two halves side by side spell, if they do. -/
def paired? (first second : Fin 0x800) : Option Char :=
  let high := 0xD800 + first.val
  let low := 0xD800 + second.val
  if Text.isHighUnit high && Text.isLowUnit low then some (Text.ofPair high low) else none

/-- A code point inside a text between two `quote`s. Half of a pair cannot be printed. -/
def quoted (quote : Char) : CodePoint → Text
  | char c => Text.quoteChar quote c
  | half offset => Text.escapeOf (0xD800 + offset.val)

/-- The sixteen-bit units of a code point. -/
def units : CodePoint → List Nat
  | char c => Text.unitsOf c
  | half offset => [0xD800 + offset.val]

/-- The character as which a code point counts. -/
def face : CodePoint → Char
  | char c => c
  | half _ => replacement

instance : Letter CodePoint where
  ofChar := char
  ofText text := text.map char
  face := face
  units := units
  ofText_eq_map _ := rfl
  face_ofChar _ := rfl
  eq_ofChar := by
    rintro (c | offset) d h hne
    · exact congrArg char h
    · exact absurd h.symm hne

end CodePoint

namespace WideText

/-- A text as wide text. -/
def ofText (text : Text) : WideText := text.map .char

instance : Coe Text WideText := ⟨ofText⟩

/-- The text that a wide text is, if it holds no half of a pair. -/
def toText? (wide : WideText) : Option Text := wide.mapM CodePoint.char?

/-- The first row of halves of pairs that begins with a code point which is not kept. -/
def firstRow? (kept : CodePoint → Bool) (wide : WideText) : Option HalfRow :=
  match wide.dropWhile kept with
  | [] => none
  | rest => some {
      position := wide.length - rest.length
      units := (rest.takeWhile (·.unit?.isSome)).filterMap (·.unit?) }

/-- The text that a wide text is, or the first halves for which it is none. -/
def asText (wide : WideText) : Except HalfRow Text :=
  match wide.firstRow? (·.char?.isSome) with
  | some halves => .error halves
  | none => .ok (wide.filterMap CodePoint.char?)

/-- The lines of a wide text, without their terminators. -/
def splitLines : WideText → List WideText
  | [] => []
  | .char '\r' :: .char '\n' :: rest => [] :: splitLines rest
  | point :: rest =>
    if point.char?.any Text.isLineBreak then [] :: splitLines rest
    else
      match splitLines rest with
      | [] => [[point]]
      | line :: lines => (point :: line) :: lines

/-- Reads every carriage return, with a line feed after it or without, as one line feed. -/
def unifyNewlines : WideText → WideText
  | [] => []
  | .char '\r' :: .char '\n' :: rest => .char '\n' :: unifyNewlines rest
  | point :: rest => (if point = .char '\r' then .char '\n' else point) :: unifyNewlines rest

/-- The wide text as messages show it that quote. -/
def quoted (wide : WideText) : Text :=
  let quote := Text.quoteFor (wide.filterMap CodePoint.char?)
  quote :: wide.flatMap (CodePoint.quoted quote) ++ [quote]

/-- What an answer shows of a wide text. -/
def shown : WideText → Text
  | [] => []
  | .char c :: rest => c :: shown rest
  | .half first :: .half second :: rest =>
    match CodePoint.paired? first second with
    | some c => c :: shown rest
    | none => replacement :: shown (.half second :: rest)
  | .half _ :: rest => replacement :: shown rest

/-! ## Text as wide text -/

@[simp] theorem ofText_nil : ofText [] = [] := rfl

@[simp] theorem ofText_cons (c : Char) (text : Text) :
    ofText (c :: text) = .char c :: ofText text := rfl

@[simp] theorem ofText_append (text other : Text) :
    ofText (text ++ other) = ofText text ++ ofText other := List.map_append

/-- A text is shown as it is. -/
@[simp] theorem shown_ofText (text : Text) : shown (ofText text) = text := by
  induction text with
  | nil => rfl
  | cons c text ih => simpa [shown] using ih

/-- A text is the text that it is as wide text. -/
@[simp] theorem toText?_ofText (text : Text) : toText? (ofText text) = some text := by
  induction text with
  | nil => rfl
  | cons c text ih =>
    rw [toText?, ofText] at *
    simp [CodePoint.char?, ih]

/-- Wide texts of different texts differ. -/
theorem ofText_inj {text other : Text} : ofText text = ofText other ↔ text = other := by
  constructor
  · intro h
    simpa using congrArg shown h
  · rintro rfl
    rfl

/-- The characters of a text are the text. -/
@[simp] theorem filterMap_char?_ofText (text : Text) :
    (ofText text).filterMap CodePoint.char? = text := by
  induction text with
  | nil => rfl
  | cons c text ih => simpa [CodePoint.char?] using ih

/-- A text is quoted as it is quoted as wide text. -/
@[simp] theorem quoted_ofText (text : Text) : quoted (ofText text) = Text.quoted text := by
  have hquoted (quote : Char) : (ofText text).flatMap (CodePoint.quoted quote) =
      text.flatMap (Text.quoteChar quote) := by
    rw [ofText, List.flatMap_map]
    rfl
  rw [quoted, Text.quoted, filterMap_char?_ofText, hquoted]

/-- A character that does not start the pair of a carriage return and a line feed stands alone. -/
theorem splitLines_char_cons {c : Char} {rest : Text}
    (h : ∀ after, c = '\r' → rest = '\n' :: after → False) :
    splitLines (.char c :: ofText rest) =
      if Text.isLineBreak c then [] :: splitLines (ofText rest)
      else
        match splitLines (ofText rest) with
        | [] => [[.char c]]
        | line :: lines => (.char c :: line) :: lines := by
  rw [splitLines.eq_3]
  · rfl
  · intro after hc hrest
    cases rest with
    | nil => simp at hrest
    | cons d rest => simp_all

/-- A text has the lines that it has as wide text. -/
@[simp] theorem splitLines_ofText (text : Text) :
    splitLines (ofText text) = (Text.splitLines text).map ofText := by
  fun_induction Text.splitLines text with
  | case1 => rfl
  | case2 rest ih => simp [splitLines, ih]
  | case3 c rest hpair hbreak ih => simp [splitLines_char_cons hpair, hbreak, ih]
  | case4 c rest hpair hbreak hnil ih => simp [splitLines_char_cons hpair, hbreak, ih, hnil]
  | case5 c rest hpair hbreak first lines hsplit ih =>
    simp [splitLines_char_cons hpair, hbreak, ih, hsplit]

/-- The line ends of a text are unified as they are in it as wide text. -/
@[simp] theorem unifyNewlines_ofText (text : Text) :
    unifyNewlines (ofText text) = ofText (Text.unifyNewlines text) := by
  fun_induction Text.unifyNewlines text with
  | case1 => rfl
  | case2 rest ih => simp [unifyNewlines, ih]
  | case3 c rest hpair ih =>
    rw [ofText_cons, unifyNewlines.eq_3, ih]
    · by_cases hc : c = '\r' <;> simp [hc]
    · intro after hc hrest
      cases rest with
      | nil => simp at hrest
      | cons d rest => simp_all

/-- A text can be stored wherever characters are kept. -/
theorem firstRow?_ofText {kept : CodePoint → Bool} (h : ∀ c, kept (.char c) = true) (text : Text) :
    firstRow? kept (ofText text) = none := by
  have hdrop : (ofText text).dropWhile kept = [] := by
    induction text with
    | nil => rfl
    | cons c text ih => simp [h c, ih]
  rw [firstRow?, hdrop]

/-- A text is the text that it is as wide text. -/
@[simp] theorem asText_ofText (text : Text) : asText (ofText text) = .ok text := by
  rw [asText, firstRow?_ofText fun _ => rfl, filterMap_char?_ofText]

end WideText

end StubVector
