import Mathlib.Data.List.Forall2
import StubVector.Proofs.Fragment.Routine

/-!
# Listings read back

A listing is read routine by routine. A routine starts at its entry and ends at its branch, so that
the reading finds its place again at the next entry, whatever the symbols and names hold
(`routines_listing`).

* `Listing.target?`: the displacement from which a routine loads its target, the one of its last
  load.
* `Listing.decode`: the definitions that the text of a listing shows, and its dispatch mode.
* `decode_unlines_listing`: decoding gives what the definitions show.
* `listing_faithful`: two listings have the same text exactly if their definitions show the same.
-/

namespace StubVector

open Text Fragment

namespace Listing

/-- The symbol of the routine that a line opens. -/
def entered? (line : Text) : Option Text := dropFront? (unlabelled "ENTRY ".toList) line

/-- The routines among lines: the symbol of each, and its lines up to the branch. -/
def routines : List Text → List (Text × List Text)
  | [] => []
  | line :: lines =>
    match entered? line with
    | some symbol => (symbol, lines.takeWhile (· ≠ branchLine)) :: routines lines
    | none => routines lines

/-- The name that an alias line declares. -/
def aliasName? (line : Text) : Option Text :=
  (dropFront? " ALIAS C'".toList (line.drop labelWidth)).bind (dropBack? ['\''])

/-- The dispatch mode whose first instruction stands behind the label column. -/
def mode? (line : Text) : Option DispatchMode :=
  DispatchMode.all.find? fun mode => (dispatch mode).head? = some (line.drop (labelWidth + 1))

/-- The displacement of a load instruction. -/
def displacement? (line : Text) : Option Nat :=
  ((dropFront? (unlabelled "LG   15,X'".toList) line).bind (cutAt? '\'')).bind (readHex? ·.1)

/-- The displacement from which a routine loads its target: the one of its last load. -/
def target? (body : List Text) : Option Nat := (body.filterMap displacement?).getLast?

/-- What a listing shows of a definition: the name of a mapped function is not among it. -/
structure Entry where
  symbol : Text
  index : Int
  aliasName : Option Text
  deriving DecidableEq

/-- What a listing shows of a definition. -/
def Entry.ofDefinition (definition : Definition) : Entry where
  symbol := definition.symbol
  index := definition.index
  aliasName := if definition.isMapped then none else some definition.functionName

/-- What the body of a routine shows of its definition. -/
def Entry.ofRoutine? (routine : Text × List Text) : Option Entry :=
  (target? routine.2).map fun offset =>
    { symbol := routine.1, index := (offset / 8 : Nat),
      aliasName := routine.2.head?.bind aliasName? }

/-- What the text of a listing shows: an entry for each definition, and the dispatch mode of the
first routine. -/
def decode (text : Text) : List Entry × Option DispatchMode :=
  let found := routines (splitLines text)
  (found.filterMap Entry.ofRoutine?, found.head?.bind fun routine => routine.2.findSome? mode?)

/-- The definitions show the same in a listing. -/
structure Agree (definition other : Definition) : Prop where
  symbol : definition.symbol = other.symbol
  index : definition.index = other.index
  isMapped : definition.isMapped = other.isMapped
  functionName : definition.isMapped = false → definition.functionName = other.functionName

/-! ## The lines of a routine -/

section Lines

variable {mode : DispatchMode} {definition : Definition} {symbol : Text}

theorem entered?_entryLine (symbol : Text) : entered? (entryLine symbol) = some symbol := by
  rw [entered?, entryLine, dropFront?_unlabelled]
  exact dropFront?_eq_some_iff.mpr rfl

theorem entered?_loadLine (symbol : Text) (offset : Int) :
    entered? (loadLine symbol offset) = none := by
  rw [entered?, loadLine, dropFront?_unlabelled]
  rfl

/-- A dispatch instruction without a label is neither an entry nor a branch. -/
theorem entered?_of_mem_dispatch (mode : DispatchMode) : ∀ instruction ∈ dispatch mode,
    entered? (unlabelled instruction) = none ∧ unlabelled instruction ≠ branchLine := by
  cases mode <;> decide +kernel

theorem loadLine_ne_branchLine (symbol : Text) (offset : Int) :
    loadLine symbol offset ≠ branchLine := by
  intro h
  have hinstruction := List.append_cancel_left h
  exact absurd (List.cons.inj hinstruction).1 (by decide)

/-- No line of a body opens a routine or ends it. -/
theorem entered?_of_mem_routineBody (h : Named definition.symbol) {line : Text}
    (hline : line ∈ routineBody mode definition) : entered? line = none ∧ line ≠ branchLine := by
  have hlabelled : ∀ instruction, entered? (labelled definition.symbol instruction) = none ∧
      labelled definition.symbol instruction ≠ branchLine := fun instruction =>
    ⟨dropFront?_unlabelled_labelled h _ instruction, labelled_ne_unlabelled h instruction _⟩
  rcases mem_routineBody_cases hline with rfl | ⟨instruction, hmem, rfl | rfl⟩ | rfl
  · exact hlabelled _
  · exact hlabelled instruction
  · exact entered?_of_mem_dispatch mode instruction hmem
  · exact ⟨entered?_loadLine _ _, loadLine_ne_branchLine _ _⟩

theorem displacement?_loadLine (symbol : Text) (n : Nat) :
    displacement? (loadLine symbol n) = some n := by
  have hdrop : dropFront? "LG   15,X'".toList
      ("LG   15,X'".toList ++ upperHex 2 n ++ "'(,15)    ".toList ++ symbol) =
        some (upperHex 2 n ++ '\'' :: ("(,15)    ".toList ++ symbol)) :=
    dropFront?_eq_some_iff.mpr (by simp)
  rw [displacement?, loadLine, dropFront?_unlabelled, Letter.ofText_char, hdrop, Option.bind_some,
    cutAt?_append (quote_not_mem_upperHex 2 n), Option.bind_some, readHex?_upperHex]

/-- The last load of a routine is the one from the slot of its definition. -/
theorem target?_routineBody (h : definition.Legible) :
    target? (routineBody mode definition) = some (definition.index.natAbs * 8) := by
  obtain ⟨n, hindex, hoffset⟩ := exists_offset h
  have hload : [loadLine definition.symbol ((n * 8 : Nat) : Int)].filterMap displacement? =
      [n * 8] := by
    rw [List.filterMap_cons, displacement?_loadLine]
    rfl
  rw [target?, routineBody, List.filterMap_append, hoffset, hload, List.getLast?_concat, hindex,
    Int.natAbs_natCast]

/-- An alias line declares the name of its definition. -/
theorem aliasName?_alias (symbol name : Text) :
    aliasName? (labelled symbol (aliasInstruction name)) = some name := by
  have hdrop : dropFront? " ALIAS C'".toList (' ' :: aliasInstruction name) =
      some (name ++ ['\'']) :=
    dropFront?_eq_some_iff.mpr (congrArg (List.cons ' ') (List.append_assoc _ _ _))
  rw [aliasName?, drop_labelled, hdrop, Option.bind_some]
  exact dropBack?_eq_some_iff.mpr rfl

/-- The first instruction of a dispatch, which the mode is known by. -/
theorem exists_first_of_dispatch (mode : DispatchMode) :
    ∃ first rest, dispatch mode = first :: rest ∧ dropFront? "ALIAS C'".toList first = none ∧
      DispatchMode.all.find? (fun other => (dispatch other).head? = some first) = some mode := by
  cases mode
  · exact ⟨_, _, rfl, by decide, by decide +kernel⟩
  · exact ⟨_, _, rfl, by decide, by decide +kernel⟩

theorem head?_routineBody_bind_aliasName? :
    (routineBody mode definition).head?.bind aliasName? =
      if definition.isMapped then none else some definition.functionName := by
  obtain ⟨first, rest, hdispatch, hfirst, -⟩ := exists_first_of_dispatch mode
  by_cases hmapped : definition.isMapped = true
  · have hhead : (routineBody mode definition).head? =
        some (labelled definition.symbol first) := by
      simp [routineBody, aliasLines_eq, dispatchLines, hmapped, hdispatch]
    have hdrop : dropFront? " ALIAS C'".toList (' ' :: first) = none := hfirst
    rw [hhead, Option.bind_some, aliasName?, drop_labelled, hdrop, if_pos hmapped]
    rfl
  · have hhead : (routineBody mode definition).head? =
        some (labelled definition.symbol (aliasInstruction definition.functionName)) := by
      simp [routineBody, aliasLines_eq, hmapped]
    rw [hhead, Option.bind_some, aliasName?_alias, if_neg hmapped]

/-- No dispatch starts with an alias. -/
theorem mode?_alias (symbol name : Text) :
    mode? (labelled symbol (aliasInstruction name)) = none := by
  rw [mode?, drop_succ_labelled, List.find?_eq_none]
  intro mode _ h
  have hhead := of_decide_eq_true h
  cases mode <;> exact absurd (List.cons.inj (Option.some.inj hhead)).1 (by decide)

/-- The mode of a routine is known by the first line that is no alias. -/
theorem findSome?_mode?_routineBody :
    (routineBody mode definition).findSome? mode? = some mode := by
  obtain ⟨first, rest, hdispatch, -, hmode⟩ := exists_first_of_dispatch mode
  have hfirst : mode? (labelled definition.symbol first) = some mode := by
    rw [mode?, drop_succ_labelled, hmode]
  have halias : (aliasLines definition).findSome? mode? = none := by
    rw [aliasLines_eq]
    split
    · rfl
    · rw [List.findSome?_singleton, mode?_alias]
  rw [routineBody, List.append_assoc, List.findSome?_append, halias]
  simp [dispatchLines, hdispatch, hfirst]

end Lines

/-! ## Whole listings -/

section Listings

variable {mode : DispatchMode} {definition : Definition} {definitions : List Definition}

/-- Lines that open no routine are passed over. -/
theorem routines_append {front : List Text} (h : ∀ line ∈ front, entered? line = none)
    (rest : List Text) : routines (front ++ rest) = routines rest := by
  induction front with
  | nil => rfl
  | cons line front ih =>
    rw [List.cons_append, routines, h line List.mem_cons_self]
    exact ih fun other hother => h other (List.mem_cons_of_mem line hother)

/-- A routine is found as a whole, and the reading goes on behind it. -/
theorem routines_routineLines_append (h : Named definition.symbol) (rest : List Text) :
    routines (routineLines mode definition ++ rest) =
      (definition.symbol, routineBody mode definition) :: routines rest := by
  have hbody : ∀ line ∈ routineBody mode definition, decide (line ≠ branchLine) = true :=
    fun line hline => by simpa using (entered?_of_mem_routineBody h hline).2
  have hskip : ∀ line ∈ routineBody mode definition ++ [branchLine], entered? line = none := by
    intro line hline
    rcases List.mem_append.mp hline with hline | hline
    · exact (entered?_of_mem_routineBody h hline).1
    · rw [List.mem_singleton.mp hline]
      decide
  rw [routineLines, List.cons_append, routines, entered?_entryLine]
  simp only [routines_append hskip]
  rw [List.append_assoc, List.takeWhile_append_of_pos hbody]
  simp

theorem routines_flatMap_routineLines (h : ∀ definition ∈ definitions, Named definition.symbol)
    (rest : List Text) :
    routines (definitions.flatMap (routineLines mode) ++ rest) =
      (definitions.map fun definition => (definition.symbol, routineBody mode definition)) ++
        routines rest := by
  induction definitions with
  | nil => rfl
  | cons definition definitions ih =>
    have hrest := ih fun other hother => h other (List.mem_cons_of_mem definition hother)
    rw [List.flatMap_cons, List.append_assoc,
      routines_routineLines_append (h definition List.mem_cons_self), hrest]
    rfl

/-- **Resynchronisation.** The routines of a listing are found, one for each definition. -/
theorem routines_listing (h : ∀ definition ∈ definitions, Named definition.symbol) :
    routines (listing mode definitions) =
      definitions.map fun definition => (definition.symbol, routineBody mode definition) := by
  have hopening : ∀ line ∈ asmOpening, entered? line = none := by decide +kernel
  have hclosing : routines asmClosing = [] := by decide +kernel
  rw [listing, List.append_assoc, routines_append hopening, routines_flatMap_routineLines h,
    hclosing, List.append_nil]

theorem ofRoutine?_routineBody (h : definition.Legible) :
    Entry.ofRoutine? (definition.symbol, routineBody mode definition) =
      some (.ofDefinition definition) := by
  rw [Entry.ofRoutine?, target?_routineBody h, head?_routineBody_bind_aliasName?]
  simp [Entry.ofDefinition, Int.natAbs_of_nonneg h.index_nonneg]

/-- **Decoding.** The text of a listing gives back what it shows of its definitions, and its
dispatch mode, unless it has no routine. -/
theorem decode_unlines_listing (mode : DispatchMode)
    (h : ∀ definition ∈ definitions, definition.WellFormed) :
    decode (unlines (listing mode definitions)) =
      (definitions.map .ofDefinition, definitions.head?.map fun _ => mode) := by
  have hlines : ∀ line ∈ listing mode definitions, Unbroken line :=
    fun line hline => unbroken_of_mem_listing h hline
  have hnamed : ∀ definition ∈ definitions, Named definition.symbol :=
    fun definition hmem => named_of_legible (h definition hmem).toLegible
  have hentries : (definitions.map fun definition =>
      (definition.symbol, routineBody mode definition)).filterMap Entry.ofRoutine? =
        definitions.map .ofDefinition := by
    rw [List.filterMap_map, ← List.filterMap_eq_map]
    exact List.filterMap_congr fun definition hmem =>
      ofRoutine?_routineBody (h definition hmem).toLegible
  rw [decode, splitLines_unlines hlines, routines_listing hnamed]
  simp only [hentries]
  cases definitions with
  | nil => rfl
  | cons definition definitions => simp [findSome?_mode?_routineBody]

end Listings

/-! ## What determines the text of a listing -/

section Faithful

variable {definition other : Definition} {definitions others : List Definition}

theorem ofDefinition_eq_iff :
    Entry.ofDefinition definition = .ofDefinition other ↔ Agree definition other := by
  simp only [Entry.ofDefinition, Entry.mk.injEq]
  constructor
  · rintro ⟨hsymbol, hindex, hname⟩
    cases hmapped : definition.isMapped <;> cases hother : other.isMapped <;>
      simp only [hmapped, hother, Bool.false_eq_true, if_true, if_false, reduceCtorEq] at hname
    · exact ⟨hsymbol, hindex, by rw [hmapped, hother], fun _ => Option.some.inj hname⟩
    · exact ⟨hsymbol, hindex, by rw [hmapped, hother], fun h => by rw [hmapped] at h; cases h⟩
  · rintro ⟨hsymbol, hindex, hmapped, hname⟩
    refine ⟨hsymbol, hindex, ?_⟩
    rw [← hmapped]
    split
    · rfl
    · rename_i hnot
      rw [hname (by simpa using hnot)]

theorem forall₂_agree_iff :
    List.Forall₂ Agree definitions others ↔
      definitions.map Entry.ofDefinition = others.map Entry.ofDefinition := by
  rw [← List.forall₂_eq_eq_eq, List.forall₂_map_left_iff, List.forall₂_map_right_iff]
  simp only [ofDefinition_eq_iff]

theorem routineLines_congr (mode : DispatchMode) (h : Agree definition other) :
    routineLines mode definition = routineLines mode other := by
  have halias : aliasLines definition = aliasLines other := by
    rw [aliasLines_eq, aliasLines_eq, ← h.isMapped, ← h.symbol]
    split
    · rfl
    · rename_i hnot
      rw [h.functionName (by simpa using hnot)]
  rw [routineLines, routineBody, halias, h.symbol, h.index, ← routineBody, ← routineLines]

theorem listing_congr (mode : DispatchMode) (h : List.Forall₂ Agree definitions others) :
    listing mode definitions = listing mode others := by
  have hroutines : definitions.flatMap (routineLines mode) =
      others.flatMap (routineLines mode) := by
    induction h with
    | nil => rfl
    | cons hfirst _ ih =>
      rw [List.flatMap_cons, List.flatMap_cons, routineLines_congr mode hfirst, ih]
  rw [listing, hroutines, listing]

/-- **A listing loses nothing that it should carry.** The listings of two headers are the same text
exactly if the definitions agree one by one, up to the names of mapped functions, and the dispatch
modes agree, unless there are no definitions. One decoder gives back what they show. -/
theorem listing_faithful {path₁ path₂ text₁ text₂ out₁ out₂ : Text} {mode₁ mode₂ : DispatchMode}
    (h₁ : generate path₁ (splitLines text₁) (.kind .asm) (.mode mode₁) = .ok out₁)
    (h₂ : generate path₂ (splitLines text₂) (.kind .asm) (.mode mode₂) = .ok out₂) :
    ∃ definitions₁ definitions₂,
      Header.parseText path₁ text₁ = .ok definitions₁ ∧
      Header.parseText path₂ text₂ = .ok definitions₂ ∧
      (out₁ = out₂ ↔ List.Forall₂ Agree definitions₁ definitions₂ ∧
        (mode₁ = mode₂ ∨ (definitions₁ = [] ∧ definitions₂ = []))) ∧
      decode out₁ = (definitions₁.map .ofDefinition, definitions₁.head?.map fun _ => mode₁) ∧
      decode out₂ = (definitions₂.map .ofDefinition, definitions₂.head?.map fun _ => mode₂) := by
  obtain ⟨definitions₁, lines₁, hread₁, hemit₁, rfl⟩ := generate_eq_ok_iff.mp h₁
  obtain ⟨definitions₂, lines₂, hread₂, hemit₂, rfl⟩ := generate_eq_ok_iff.mp h₂
  obtain ⟨-, rfl⟩ := emitLines_asm_eq_ok_iff.mp hemit₁
  obtain ⟨-, rfl⟩ := emitLines_asm_eq_ok_iff.mp hemit₂
  have hdecode₁ := decode_unlines_listing mode₁ (Header.wellFormed_of_parseText hread₁)
  have hdecode₂ := decode_unlines_listing mode₂ (Header.wellFormed_of_parseText hread₂)
  refine ⟨definitions₁, definitions₂, hread₁, hread₂, ⟨fun h => ?_, ?_⟩, hdecode₁, hdecode₂⟩
  · -- one text decodes to one list of entries and one mode, which a first routine shows
    rw [h, hdecode₂, Prod.mk.injEq] at hdecode₁
    obtain ⟨hentries, hmodes⟩ := hdecode₁
    refine ⟨forall₂_agree_iff.mpr hentries.symm, ?_⟩
    cases definitions₁ with
    | nil => exact .inr ⟨rfl, List.map_eq_nil_iff.mp hentries⟩
    | cons definition definitions₁ =>
      obtain ⟨other, others, rfl⟩ := List.exists_cons_of_ne_nil
        (l := definitions₂) (by rintro rfl; cases hentries)
      exact .inl (Option.some.inj hmodes).symm
  · rintro ⟨hagree, rfl | ⟨rfl, rfl⟩⟩
    · rw [listing_congr mode₁ hagree]
    · rfl

/-- The name of a mapped function and the spelling of an index leave no trace. -/
theorem listing_faithful_mapped_names :
    ∃ definitions₁ definitions₂,
      Header.parseText [] "#define ZIS_STUB_A 1 /* f mapped */".toList = .ok definitions₁ ∧
      Header.parseText [] "#define ZIS_STUB_A 01 /* g mapped */".toList = .ok definitions₂ ∧
      List.Forall₂ Agree definitions₁ definitions₂ := by
  have hread₁ : Header.parseText [] "#define ZIS_STUB_A 1 /* f mapped */".toList = .ok
      [⟨['A'], 1, ['f'], true, some ⟨[], 1, "#define ZIS_STUB_A 1 /* f mapped */".toList⟩⟩] := by
    rfl
  have hread₂ : Header.parseText [] "#define ZIS_STUB_A 01 /* g mapped */".toList = .ok
      [⟨['A'], 1, ['g'], true, some ⟨[], 1, "#define ZIS_STUB_A 01 /* g mapped */".toList⟩⟩] := by
    rfl
  have h₁ := generate_eq_ok_iff.mpr ⟨_, _, hread₁,
    (@emitLines_asm_eq_ok_iff .r12 _ _).mpr ⟨by decide, rfl⟩, rfl⟩
  have h₂ := generate_eq_ok_iff.mpr ⟨_, _, hread₂,
    (@emitLines_asm_eq_ok_iff .r12 _ _).mpr ⟨by decide, rfl⟩, rfl⟩
  obtain ⟨definitions₁, definitions₂, hparse₁, hparse₂, hiff, -⟩ :=
    listing_faithful h₁ h₂
  exact ⟨definitions₁, definitions₂, hparse₁, hparse₂, (hiff.mp rfl).1⟩

end Faithful

end Listing

end StubVector
