import Mathlib.Data.List.DropRight
import Mathlib.Data.List.Nodup
import Mathlib.Logic.Function.Basic
import StubVector.Proofs.Fragment.Listing

/-!
# The stub vector, filled and read

The init statements fill the stub vector, and the routines of a listing branch through it. Both are
read as a program would read them: a statement assigns to the slot that the header gives to the name
in its brackets (`assign`), and a routine branches to the function in the slot of its last load
(`branchSlot?`).

* `assignment?_initLine`: a statement names the first eight characters of its symbol.
* `misses_initLine`: a statement whose symbol does not fit the label column misses its definition.
* `fill_initLines`, `foldl_store_index`: what the statements of short symbols leave in each slot.
* `backends_agree`: every routine reaches the function of its definition, if all symbols fit.
-/

namespace StubVector

open Text Fragment Listing

namespace Slots

/-! ## Reading the statements -/

/-- The name in the brackets of an init statement, and the function that it assigns. -/
def assignment? (line : Text) : Option (Text × Text) :=
  (dropFront? "    stubVector[ZIS_STUB_".toList line).bind fun rest =>
    ((dropFront? "] = (void*)".toList (rest.drop 8)).bind (dropBack? [';'])).map fun function =>
      ((rest.take 8).rdropWhile (· = ' '), function)

/-- The slot that the header gives to a symbol. -/
def slotOf? (definitions : List Definition) (symbol : Text) : Option Int :=
  (definitions.find? (·.symbol = symbol)).map (·.index)

/-- The function in each slot after a statement. A name that is no symbol assigns nothing. -/
def assign (definitions : List Definition) (slots : Int → Option Text) (line : Text) :
    Int → Option Text :=
  match assignment? line with
  | none => slots
  | some (name, function) =>
    match slotOf? definitions name with
    | none => slots
    | some slot => Function.update slots slot (some function)

/-- The function in each slot after statements in order, from an empty vector. -/
def fill (definitions : List Definition) (lines : List Text) : Int → Option Text :=
  lines.foldl (assign definitions) fun _ => none

/-- A statement names a symbol of the header. -/
def Resolved (definitions : List Definition) (line : Text) : Prop :=
  ∃ name function slot,
    assignment? line = some (name, function) ∧ slotOf? definitions name = some slot

/-- A statement misses its definition: it names no symbol, or the symbol of another slot. -/
def Misses (definitions : List Definition) (definition : Definition) (line : Text) : Prop :=
  ∃ name function, assignment? line = some (name, function) ∧ name ≠ definition.symbol ∧
    (slotOf? definitions name = none ∨ ∃ other ∈ definitions, other ≠ definition ∧
      slotOf? definitions name = some other.index ∧ other.index ≠ definition.index)

/-- The slot from which the routine of a symbol takes its target. -/
def branchSlot? (lines : List Text) (symbol : Text) : Option Int :=
  ((routines lines).find? (·.1 = symbol)).bind fun routine =>
    (target? routine.2).map fun offset => ((offset / 8 : Nat) : Int)

/-! ## One statement -/

section Statement

variable {definition : Definition} {definitions : List Definition}

theorem rdropWhile_append_spaces (text : Text) (n : Nat) :
    (text ++ List.replicate n ' ').rdropWhile (· = ' ') = text.rdropWhile (· = ' ') := by
  induction n with
  | zero => rw [List.replicate_zero, List.append_nil]
  | succ n ih =>
    rw [List.replicate_succ', ← List.append_assoc, List.rdropWhile_concat_pos _ _ _ (by rfl), ih]

/-- The label column holds the first characters of a symbol, before spaces. -/
theorem rdropWhile_label {symbol : Text} (h : ' ' ∉ symbol) :
    (label symbol).rdropWhile (· = ' ') = symbol.take labelWidth := by
  rw [label, padRight, Letter.ofChar_char, rdropWhile_append_spaces, List.rdropWhile_eq_self_iff]
  intro hne hspace
  have hlast : (symbol.take labelWidth).getLast hne = ' ' := by simpa using hspace
  exact h (List.mem_of_mem_take (hlast ▸ List.getLast_mem hne))

theorem dropFront?_initLine : dropFront? "    stubVector[ZIS_STUB_".toList (initLine definition) =
    some (label definition.symbol ++
      ("] = (void*)".toList ++ (definition.functionName ++ [';']))) := by
  have hregroup : ∀ front first middle second back : Text,
      front ++ first ++ middle ++ second ++ back =
        front ++ (first ++ (middle ++ (second ++ back))) := by simp
  exact dropFront?_eq_some_iff.mpr (hregroup _ _ _ _ _)

/-- **Truncation.** A statement names the first eight characters of its symbol. -/
theorem assignment?_initLine (h : ' ' ∉ definition.symbol) :
    assignment? (initLine definition) =
      some (definition.symbol.take labelWidth, definition.functionName) := by
  have hmiddle : dropFront? "] = (void*)".toList
      ("] = (void*)".toList ++ (definition.functionName ++ [';'])) =
        some (definition.functionName ++ [';']) := dropFront?_eq_some_iff.mpr rfl
  have hback : dropBack? [';'] (definition.functionName ++ [';']) =
      some definition.functionName := dropBack?_eq_some_iff.mpr rfl
  have hlength : (label definition.symbol).length = 8 := length_label definition.symbol
  rw [assignment?, dropFront?_initLine, Option.bind_some, List.drop_left' hlength,
    List.take_left' hlength, hmiddle, Option.bind_some, hback, Option.map_some, rdropWhile_label h]

/-- In a list whose keys are distinct, each element is the one found by its key. -/
theorem find?_of_nodup_map {α β : Type} [DecidableEq β] (key : α → β) {elements : List α}
    (h : (elements.map key).Nodup) {element : α} (hmem : element ∈ elements) :
    elements.find? (key · = key element) = some element := by
  induction elements with
  | nil => simp at hmem
  | cons first rest ih =>
    rw [List.map_cons, List.nodup_cons] at h
    rcases List.mem_cons.mp hmem with rfl | hmem
    · simp
    · have hne : key first ≠ key element := by
        intro heq
        exact h.1 (heq ▸ List.mem_map_of_mem hmem)
      rw [List.find?_cons_of_neg (by simpa using hne)]
      exact ih h.2 hmem

/-- Distinct symbols have the slots of their definitions, and no other name has a slot. -/
theorem slotOf?_eq_some_iff (h : (definitions.map (·.symbol)).Nodup) {name : Text} {slot : Int} :
    slotOf? definitions name = some slot ↔
      ∃ definition ∈ definitions, definition.symbol = name ∧ definition.index = slot := by
  rw [slotOf?, Option.map_eq_some_iff]
  constructor
  · rintro ⟨definition, hfind, rfl⟩
    have hname : definition.symbol = name := by simpa using List.find?_some hfind
    exact ⟨definition, List.mem_of_find?_eq_some hfind, hname, rfl⟩
  · rintro ⟨definition, hmem, rfl, rfl⟩
    exact ⟨definition, find?_of_nodup_map Definition.symbol h hmem, rfl⟩

theorem slotOf?_symbol (h : (definitions.map (·.symbol)).Nodup) (hmem : definition ∈ definitions) :
    slotOf? definitions definition.symbol = some definition.index :=
  (slotOf?_eq_some_iff h).mpr ⟨definition, hmem, rfl, rfl⟩

/-- A symbol that fits the label column is named as a whole. -/
theorem assignment?_initLine_of_length_le (hspace : ' ' ∉ definition.symbol)
    (hshort : definition.symbol.length ≤ labelWidth) :
    assignment? (initLine definition) = some (definition.symbol, definition.functionName) := by
  rw [assignment?_initLine hspace, List.take_of_length_le hshort]

/-- A symbol that does not fit the label column is not the one that its statement names. -/
theorem misses_initLine (hsymbols : (definitions.map (·.symbol)).Nodup)
    (hindices : (definitions.map (·.index)).Nodup) (hmem : definition ∈ definitions)
    (hspace : ' ' ∉ definition.symbol) (hlong : labelWidth < definition.symbol.length) :
    Misses definitions definition (initLine definition) := by
  have hname : definition.symbol.take labelWidth ≠ definition.symbol := by
    intro h
    have hlength := congrArg List.length h
    rw [List.length_take_of_le hlong.le] at hlength
    exact hlong.ne hlength
  refine ⟨_, _, assignment?_initLine hspace, hname, ?_⟩
  cases hslot : slotOf? definitions (definition.symbol.take labelWidth) with
  | none => exact .inl rfl
  | some slot =>
    obtain ⟨other, hlisted, hother, rfl⟩ := (slotOf?_eq_some_iff hsymbols).mp hslot
    have hne : other ≠ definition := by
      rintro rfl
      exact hname hother.symm
    refine .inr ⟨other, hlisted, hne, rfl, fun hindex => ?_⟩
    exact hne (List.inj_on_of_nodup_map hindices hlisted hmem hindex)

end Statement

/-! ## Statements in order -/

section Fill

variable {definition : Definition} {definitions part : List Definition}

/-- The slots after a function is stored in its own slot. -/
def store (slots : Int → Option Text) (definition : Definition) : Int → Option Text :=
  Function.update slots definition.index (some definition.functionName)

theorem assign_initLine (hsymbols : (definitions.map (·.symbol)).Nodup)
    (hmem : definition ∈ definitions) (hspace : ' ' ∉ definition.symbol)
    (hshort : definition.symbol.length ≤ labelWidth) (slots : Int → Option Text) :
    assign definitions slots (initLine definition) = store slots definition := by
  rw [assign, assignment?_initLine_of_length_le hspace hshort]
  simp only [slotOf?_symbol hsymbols hmem, store]

theorem foldl_store_of_notMem {slot : Int} (h : slot ∉ part.map (·.index))
    (slots : Int → Option Text) : part.foldl store slots slot = slots slot := by
  induction part generalizing slots with
  | nil => rfl
  | cons definition part ih =>
    rw [List.map_cons, List.mem_cons, not_or] at h
    rw [List.foldl_cons, ih h.2, store, Function.update_of_ne h.1]

/-- No later statement overwrites a slot. -/
theorem foldl_store_index (h : (part.map (·.index)).Nodup) (hmem : definition ∈ part)
    (slots : Int → Option Text) :
    part.foldl store slots definition.index = some definition.functionName := by
  induction part generalizing slots with
  | nil => simp at hmem
  | cons first part ih =>
    rw [List.map_cons, List.nodup_cons] at h
    rw [List.foldl_cons]
    rcases List.mem_cons.mp hmem with rfl | hmem
    · rw [foldl_store_of_notMem h.1, store, Function.update_self]
    · exact ih h.2 hmem _

/-- The statements of short symbols store each function in its own slot. -/
theorem fill_initLines (hsymbols : (definitions.map (·.symbol)).Nodup)
    (hspace : ∀ definition ∈ definitions, ' ' ∉ definition.symbol)
    (hshort : ∀ definition ∈ definitions, definition.symbol.length ≤ labelWidth) :
    fill definitions (definitions.map initLine) = definitions.foldl store fun _ => none := by
  rw [fill, List.foldl_map]
  refine List.foldl_ext _ _ _ fun slots definition hmem => ?_
  exact assign_initLine hsymbols hmem (hspace definition hmem) (hshort definition hmem) slots

-- A longer symbol, cut to the label column, takes the slot of another one.
example :
    (fun definitions => fill definitions (definitions.map initLine) 0)
      [⟨"ABCDEFGH".toList, 0, ['f'], true, none⟩, ⟨"ABCDEFGHI".toList, 1, ['g'], true, none⟩] =
        some ['g'] := by rfl

theorem foldl_store_ne_none_iff (h : (part.map (·.index)).Nodup) {slot : Int} :
    part.foldl store (fun _ => none) slot ≠ none ↔ slot ∈ part.map (·.index) := by
  constructor
  · intro hne
    by_contra hnot
    exact hne (foldl_store_of_notMem hnot _)
  · intro hslot
    obtain ⟨definition, hmem, rfl⟩ := List.mem_map.mp hslot
    rw [foldl_store_index h hmem]
    exact Option.some_ne_none _

end Fill

/-! ## The two outputs of a header -/

section Backends

variable {mode : DispatchMode} {definition : Definition} {definitions : List Definition}

/-- The routine of a symbol branches through the slot of its definition. -/
theorem branchSlot?_listing (hlegible : ∀ definition ∈ definitions, definition.Legible)
    (hsymbols : (definitions.map (·.symbol)).Nodup) (hmem : definition ∈ definitions) :
    branchSlot? (listing mode definitions) definition.symbol = some definition.index := by
  have hnamed : ∀ definition ∈ definitions, Named definition.symbol :=
    fun definition hmem => named_of_legible (hlegible definition hmem)
  have hfind : (definitions.map fun definition =>
      (definition.symbol, routineBody mode definition)).find? (·.1 = definition.symbol) =
        some (definition.symbol, routineBody mode definition) := by
    rw [List.find?_map]
    exact congrArg _ (find?_of_nodup_map Definition.symbol hsymbols hmem)
  rw [branchSlot?, routines_listing hnamed, hfind, Option.bind_some,
    target?_routineBody (hlegible definition hmem), Option.map_some]
  simp [Int.natAbs_of_nonneg (hlegible definition hmem).index_nonneg]

/-- **The backends agree.** Both outputs of a header show the same definitions. If these have
distinct symbols and indices, and all symbols fit the label column, then every statement resolves,
the filled slots are those of the definitions, and each routine branches to a slot with the function
of its definition. The statement of a symbol that does not fit misses its definition. -/
theorem backends_agree {path initText asmText : Text} {lines : List Text} {initMode : Selector}
    (hinit : generate path lines (.kind .init) initMode = .ok initText)
    (hasm : generate path lines (.kind .asm) (.mode mode) = .ok asmText) :
    ∃ definitions initLines asmLines,
      Header.parseLines path lines = .ok definitions ∧
      emitLines definitions (.kind .init) initMode = .ok initLines ∧
      emitLines definitions (.kind .asm) (.mode mode) = .ok asmLines ∧
      initText = unlines initLines ∧ asmText = unlines asmLines ∧
      ((∀ line ∈ lines, Unbroken line) →
        splitLines initText = initLines ∧ splitLines asmText = asmLines) ∧
      ((definitions.map (·.symbol)).Nodup → (definitions.map (·.index)).Nodup →
        ((∀ definition ∈ definitions, definition.symbol.length ≤ 8) →
          (∀ line ∈ initLines, Resolved definitions line) ∧
          (∀ definition ∈ definitions, ∃ slot, branchSlot? asmLines definition.symbol = some slot ∧
            fill definitions initLines slot = some definition.functionName) ∧
          ∀ slot, fill definitions initLines slot ≠ none ↔ slot ∈ definitions.map (·.index)) ∧
        List.Forall₂ (fun definition line =>
          8 < definition.symbol.length → Misses definitions definition line)
          definitions initLines) := by
  obtain ⟨definitions, initLines, hread, hemitInit, rfl⟩ := generate_eq_ok_iff.mp hinit
  obtain ⟨others, asmLines, hreadAsm, hemitAsm, rfl⟩ := generate_eq_ok_iff.mp hasm
  obtain rfl : others = definitions := by
    rw [hread] at hreadAsm
    exact (Except.ok.inj hreadAsm).symm
  obtain rfl : initLines = others.map initLine := by
    rw [emitLines_init] at hemitInit
    exact (Except.ok.inj hemitInit).symm
  obtain ⟨-, rfl⟩ := emitLines_asm_eq_ok_iff.mp hemitAsm
  have hlegible := Header.legible_of_mem hread
  have hspace : ∀ definition ∈ others, ' ' ∉ definition.symbol :=
    fun definition hmem => (hlegible definition hmem).space_not_mem_symbol
  refine ⟨others, _, _, hread, hemitInit, hemitAsm, rfl, rfl, fun hunbroken => ?_,
    fun hsymbols hindices => ⟨fun hshort => ⟨?_, ?_, ?_⟩, ?_⟩⟩
  · -- the emitted lines are the lines of the texts
    have hwell := Header.wellFormed_of_mem hunbroken hread
    constructor
    · refine splitLines_unlines fun line hline => ?_
      obtain ⟨definition, hmem, rfl⟩ := List.mem_map.mp hline
      exact unbroken_initLine (hwell definition hmem)
    · exact splitLines_unlines fun line hline => unbroken_of_mem_listing hwell hline
  · -- every statement resolves
    intro line hline
    obtain ⟨definition, hmem, rfl⟩ := List.mem_map.mp hline
    exact ⟨_, _, _, assignment?_initLine_of_length_le (hspace definition hmem)
      (hshort definition hmem), slotOf?_symbol hsymbols hmem⟩
  · -- the slot of a routine is the one that its statement fills, and no other statement does
    intro definition hmem
    refine ⟨_, branchSlot?_listing hlegible hsymbols hmem, ?_⟩
    rw [fill_initLines hsymbols hspace hshort, foldl_store_index hindices hmem]
  · intro slot
    rw [fill_initLines hsymbols hspace hshort, foldl_store_ne_none_iff hindices]
  · rw [List.forall₂_map_right_iff, List.forall₂_same]
    intro definition hmem hlong
    exact misses_initLine hsymbols hindices hmem (hspace definition hmem) hlong

/-- Two short symbols. -/
theorem backends_agree_short_symbols :
    ∃ definitions initLines asmLines,
      Header.parseLines [] ["#define ZIS_STUB_A 3 /* f mapped */".toList,
        "#define ZIS_STUB_B 01 /* g */".toList] = .ok definitions ∧
      emitLines definitions (.kind .init) (.mode .r12) = .ok initLines ∧
      emitLines definitions (.kind .asm) (.mode .zvte) = .ok asmLines ∧
      ∀ definition ∈ definitions, ∃ slot, branchSlot? asmLines definition.symbol = some slot ∧
        fill definitions initLines slot = some definition.functionName := by
  have hread : Header.parseLines [] ["#define ZIS_STUB_A 3 /* f mapped */".toList,
      "#define ZIS_STUB_B 01 /* g */".toList] = .ok [
        ⟨['A'], 3, ['f'], true, some ⟨[], 1, "#define ZIS_STUB_A 3 /* f mapped */".toList⟩⟩,
        ⟨['B'], 1, ['g'], false, some ⟨[], 2, "#define ZIS_STUB_B 01 /* g */".toList⟩⟩] := by rfl
  obtain ⟨definitions, initLines, asmLines, hdefinitions, hinit, hasm, -, -, -, hagree⟩ :=
    backends_agree
      (generate_eq_ok_iff.mpr ⟨_, _, hread, emitLines_init _ (.mode .r12), rfl⟩)
      (generate_eq_ok_iff.mpr ⟨_, _, hread, emitLines_asm_eq_ok_iff.mpr ⟨by decide, rfl⟩, rfl⟩)
  obtain rfl := Except.ok.inj (hdefinitions.symm.trans hread)
  exact ⟨_, _, _, hdefinitions, hinit, hasm, ((hagree (by decide) (by decide)).1 (by decide)).2.1⟩

end Backends

end Slots

end StubVector
