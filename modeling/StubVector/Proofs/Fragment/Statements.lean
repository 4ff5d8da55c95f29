import StubVector.Proofs.Fragment.Vector

/-!
# Init statements read back

An init statement shows the part of a symbol that fits the label column, and the function. The label
column has a fixed width, and neither holds a line break, so both are read back from the text
whatever else they hold.

* `Statements.decode`: what the text of init statements shows, statement by statement.
* `decode_unlines_statements`: decoding gives what the definitions show.
* `statements_determined`: **two headers have the same init statements exactly if their definitions
  show the same**, one by one.
-/

namespace StubVector

open Text Fragment

namespace Statements

/-- What an init statement shows of a definition: the part of its symbol that fits the label column,
and its function. -/
def shown (definition : Definition) : Text × Text :=
  (definition.symbol.take labelWidth, definition.functionName)

/-- What the text of init statements shows, statement by statement. -/
def decode (text : Text) : List (Text × Text) := (splitLines text).filterMap Slots.assignment?

/-- The definitions show the same in an init statement. -/
structure Alike (definition other : Definition) : Prop where
  symbol : definition.symbol.take 8 = other.symbol.take 8
  functionName : definition.functionName = other.functionName

variable {definition other : Definition} {definitions others : List Definition}

theorem shown_eq_iff : shown definition = shown other ↔ Alike definition other := by
  constructor
  · intro h
    obtain ⟨hsymbol, hname⟩ := Prod.mk.inj h
    exact ⟨hsymbol, hname⟩
  · rintro ⟨hsymbol, hname⟩
    exact Prod.ext hsymbol hname

theorem forall₂_alike_iff :
    List.Forall₂ Alike definitions others ↔ definitions.map shown = others.map shown := by
  rw [← List.forall₂_eq_eq_eq, List.forall₂_map_left_iff, List.forall₂_map_right_iff]
  simp only [shown_eq_iff]

/-- Neither the index nor the mark nor the rest of the symbol leaves a trace in a statement. -/
theorem initLine_congr (h : Alike definition other) : initLine definition = initLine other := by
  have hlabel : label definition.symbol = label other.symbol :=
    congrArg (padRight labelWidth) h.symbol
  unfold initLine
  rw [hlabel, h.functionName]

theorem map_initLine_congr (h : List.Forall₂ Alike definitions others) :
    definitions.map initLine = others.map initLine := by
  induction h with
  | nil => rfl
  | cons hfirst _ ih => rw [List.map_cons, List.map_cons, initLine_congr hfirst, ih]

/-- **Decoding.** The text of init statements gives back what they show of their definitions. -/
theorem decode_unlines_statements (h : ∀ definition ∈ definitions, definition.WellFormed) :
    decode (unlines (definitions.map initLine)) = definitions.map shown := by
  have hlines : ∀ line ∈ definitions.map initLine, Unbroken line := by
    intro line hline
    obtain ⟨definition, hmem, rfl⟩ := List.mem_map.mp hline
    exact unbroken_initLine (h definition hmem)
  rw [decode, splitLines_unlines hlines, List.filterMap_map, ← List.filterMap_eq_map]
  refine List.filterMap_congr fun definition hmem => ?_
  exact Slots.assignment?_initLine (h definition hmem).space_not_mem_symbol

/-- **What the init statements determine.** The init statements of two headers are the same text
exactly if the definitions agree one by one on the first eight characters of the symbol, as far as
there are so many, and on the function. The dispatch mode has no influence on them, and one decoder
gives back what they show. -/
theorem statements_determined {path₁ path₂ text₁ text₂ out₁ out₂ : Text} {mode₁ mode₂ : Selector}
    (h₁ : generate path₁ (splitLines text₁) (.kind .init) mode₁ = .ok out₁)
    (h₂ : generate path₂ (splitLines text₂) (.kind .init) mode₂ = .ok out₂) :
    ∃ definitions₁ definitions₂,
      Header.parseText path₁ text₁ = .ok definitions₁ ∧
      Header.parseText path₂ text₂ = .ok definitions₂ ∧
      (out₁ = out₂ ↔ List.Forall₂ Alike definitions₁ definitions₂) ∧
      (∀ mode, generate path₁ (splitLines text₁) (.kind .init) mode = .ok out₁) ∧
      decode out₁ = definitions₁.map shown ∧ decode out₂ = definitions₂.map shown := by
  obtain ⟨definitions₁, lines₁, hread₁, hemit₁, rfl⟩ := generate_eq_ok_iff.mp h₁
  obtain ⟨definitions₂, lines₂, hread₂, hemit₂, rfl⟩ := generate_eq_ok_iff.mp h₂
  obtain rfl := Except.ok.inj ((emitLines_init definitions₁ mode₁).symm.trans hemit₁)
  obtain rfl := Except.ok.inj ((emitLines_init definitions₂ mode₂).symm.trans hemit₂)
  have hdecode₁ := decode_unlines_statements (Header.wellFormed_of_parseText hread₁)
  have hdecode₂ := decode_unlines_statements (Header.wellFormed_of_parseText hread₂)
  refine ⟨definitions₁, definitions₂, hread₁, hread₂, ⟨fun h => ?_, fun h => ?_⟩, fun mode => ?_,
    hdecode₁, hdecode₂⟩
  · rw [forall₂_alike_iff, ← hdecode₁, ← hdecode₂, h]
  · rw [map_initLine_congr h]
  · exact generate_eq_ok_iff.mpr ⟨_, _, hread₁, emitLines_init definitions₁ mode, rfl⟩

/-- Headers that differ in the end of a symbol, in an index that is out of reach and in a mark. -/
theorem statements_determined_ninth_character :
    ∃ out, generate [] (splitLines "#define ZIS_STUB_ABCDEFGHI 1 /* f] = */".toList)
        (.kind .init) (.mode .zvte) = .ok out ∧
      generate [] (splitLines "\n#define ZIS_STUB_ABCDEFGHJ 70000 /* f] = mapped */".toList)
        (.kind .init) (.text []) = .ok out := by
  have hread₁ : Header.parseText [] "#define ZIS_STUB_ABCDEFGHI 1 /* f] = */".toList = .ok
      [⟨"ABCDEFGHI".toList, 1, "f] =".toList, false,
        some ⟨[], 1, "#define ZIS_STUB_ABCDEFGHI 1 /* f] = */".toList⟩⟩] := by
    rfl
  have hread₂ : Header.parseText [] "\n#define ZIS_STUB_ABCDEFGHJ 70000 /* f] = mapped */".toList =
      .ok [⟨"ABCDEFGHJ".toList, 70000, "f] =".toList, true,
        some ⟨[], 2, "#define ZIS_STUB_ABCDEFGHJ 70000 /* f] = mapped */".toList⟩⟩] := by
    rfl
  have h₁ := generate_eq_ok_iff.mpr ⟨_, _, hread₁, emitLines_init _ (.mode .zvte), rfl⟩
  have h₂ := generate_eq_ok_iff.mpr ⟨_, _, hread₂, emitLines_init _ (.text []), rfl⟩
  obtain ⟨definitions₁, definitions₂, hparse₁, hparse₂, hiff, -⟩ := statements_determined h₁ h₂
  obtain rfl := Except.ok.inj (hread₁.symm.trans hparse₁)
  obtain rfl := Except.ok.inj (hread₂.symm.trans hparse₂)
  have hout := hiff.mpr (.cons ⟨by decide, by decide⟩ .nil)
  rw [← hout] at h₂
  exact ⟨_, h₁, h₂⟩

end Statements

end StubVector
