import StubVector.Proofs.Pipeline.Stages

/-!
# Routines of a listing

`routineLines mode definition` are the lines of one stub routine: its entry, its body and its
branch. A listing is the routines between the opening and the closing lines
(`emitLines_asm_eq_ok_iff`), and the init statements are one line a definition (`emitLines_init`).

* `mem_routineBody_cases`: the kinds of lines between the entry and the branch.
* `Named`: the symbol has a first character, and it is not a space, so that a line with its label
  cannot be taken for one without a label.
* `unbroken_of_mem_listing`: no emitted line holds a line break, if no symbol and no name does.
-/

namespace StubVector

open Text

namespace Fragment

variable {mode : DispatchMode} {definition : Definition} {symbol instruction : Text}

/-- The line that opens the routine of a symbol. -/
def entryLine (symbol : Text) : Text := unlabelled ("ENTRY ".toList ++ symbol)

/-- The line that ends a routine. -/
def branchLine : Text := unlabelled "BR   15".toList

/-- The instruction that declares the name of a function. -/
def aliasInstruction (name : Text) : Text := "ALIAS C'".toList ++ name ++ ['\'']

theorem aliasLines_eq (definition : Definition) : aliasLines definition =
    if definition.isMapped then []
    else [labelled definition.symbol (aliasInstruction definition.functionName)] := rfl

/-- The lines of a routine between its entry and its branch. -/
def routineBody (mode : DispatchMode) (definition : Definition) : List Text :=
  aliasLines definition ++ dispatchLines definition.symbol mode ++
    [loadLine definition.symbol (definition.index * pointerSize)]

/-- The lines of a routine. -/
def routineLines (mode : DispatchMode) (definition : Definition) : List Text :=
  entryLine definition.symbol :: (routineBody mode definition ++ [branchLine])

/-- A line of a body is the alias line of its definition, a dispatch instruction with or without the
label, or the load from the slot. -/
theorem mem_routineBody_cases {line : Text} (h : line ∈ routineBody mode definition) :
    line = labelled definition.symbol (aliasInstruction definition.functionName) ∨
      (∃ instruction ∈ dispatch mode,
        line = labelled definition.symbol instruction ∨ line = unlabelled instruction) ∨
      line = loadLine definition.symbol (definition.index * pointerSize) := by
  rw [routineBody, List.mem_append, List.mem_append] at h
  rcases h with (h | h) | h
  · left
    rw [aliasLines_eq] at h
    split at h
    · simp at h
    · exact List.mem_singleton.mp h
  · right; left
    unfold dispatchLines at h
    split at h
    · simp at h
    · rename_i first rest hdispatch
      rw [hdispatch]
      rcases List.mem_cons.mp h with rfl | h
      · exact ⟨first, List.mem_cons_self, .inl rfl⟩
      · obtain ⟨instruction, hmem, rfl⟩ := List.mem_map.mp h
        exact ⟨instruction, List.mem_cons_of_mem first hmem, .inr rfl⟩
  · right; right
    exact List.mem_singleton.mp h

/-- A routine is delivered if its slot is in reach. -/
theorem trampoline_eq_ok_iff {lines : List Text} :
    trampoline mode definition = .ok lines ↔
      definition.index * pointerSize ≤ maxOffset ∧ lines = routineLines mode definition := by
  simp only [trampoline, slotOffset]
  by_cases h : maxOffset < definition.index * pointerSize
  · have hnot : ¬ definition.index * pointerSize ≤ maxOffset := Int.not_le.mpr h
    simp [h, hnot, Except.map]
  · have hle : definition.index * pointerSize ≤ maxOffset := Int.not_lt.mp h
    simp [h, hle, Except.map, routineLines, routineBody, entryLine, branchLine, eq_comm]

/-! ## The label column -/

/-- The symbol has a first character, and it is not a space. -/
def Named (symbol : Text) : Prop := ∃ c rest, symbol = c :: rest ∧ c ≠ ' '

theorem named_of_legible (h : definition.Legible) : Named definition.symbol := by
  obtain ⟨c, rest, hsymbol⟩ := List.exists_cons_of_ne_nil h.symbol_ne_nil
  refine ⟨c, rest, hsymbol, ?_⟩
  rintro rfl
  exact h.space_not_mem_symbol (by simp [hsymbol])

@[simp]
theorem length_label (symbol : Text) : (label symbol).length = labelWidth := by
  simp only [label, padRight, List.length_append, List.length_replicate, List.length_take]
  omega

theorem drop_labelled (symbol instruction : Text) :
    (labelled symbol instruction).drop labelWidth = ' ' :: instruction := by
  rw [labelled, List.append_assoc, ← length_label symbol, List.drop_left]
  rfl

theorem drop_succ_labelled (symbol instruction : Text) :
    (labelled symbol instruction).drop (labelWidth + 1) = instruction := by
  rw [← List.drop_drop, drop_labelled]
  rfl

/-- A labelled line starts as its symbol does. -/
theorem labelled_eq_cons (h : Named symbol) (instruction : Text) :
    ∃ c rest, labelled symbol instruction = c :: rest ∧ c ≠ ' ' := by
  obtain ⟨c, rest, rfl, hc⟩ := h
  exact ⟨c, _, rfl, hc⟩

theorem labelled_ne_unlabelled (h : Named symbol) (instruction other : Text) :
    labelled symbol instruction ≠ unlabelled other := by
  obtain ⟨c, rest, heq, hc⟩ := labelled_eq_cons h instruction
  rw [heq, unlabelled]
  intro h
  exact hc (List.cons.inj h).1

theorem dropFront?_unlabelled_labelled (h : Named symbol) (part instruction : Text) :
    dropFront? (unlabelled part) (labelled symbol instruction) = none := by
  rw [Option.eq_none_iff_forall_not_mem]
  intro rest hrest
  have heq := dropFront?_eq_some_iff.mp hrest
  rw [unlabelled, List.append_assoc] at heq
  exact labelled_ne_unlabelled h instruction (part ++ rest) heq

theorem dropFront?_unlabelled (part instruction : Text) :
    dropFront? (unlabelled part) (unlabelled instruction) = dropFront? part instruction := by
  simp [unlabelled, labelWidth, dropFront?]

/-! ## No line breaks -/

theorem unbroken_unlabelled (h : Unbroken instruction) : Unbroken (unlabelled instruction) := by
  have hspaces : Unbroken (List.replicate (labelWidth + 1) ' ') := by decide
  exact hspaces.append h

theorem unbroken_label (h : Unbroken symbol) : Unbroken (label symbol) := by
  refine (h.mono (List.take_subset labelWidth symbol)).append fun c hc => ?_
  rw [List.eq_of_mem_replicate hc]
  decide

theorem unbroken_labelled (h : Unbroken symbol) (hi : Unbroken instruction) :
    Unbroken (labelled symbol instruction) := by
  have hspace : Unbroken [' '] := by decide
  exact ((unbroken_label h).append hspace).append hi

theorem unbroken_initLine (h : definition.WellFormed) : Unbroken (initLine definition) := by
  have hfront : Unbroken "    stubVector[ZIS_STUB_".toList := by decide
  have hmiddle : Unbroken "] = (void*)".toList := by decide
  have hback : Unbroken [';'] := by decide
  exact (((hfront.append (unbroken_label h.unbroken_symbol)).append hmiddle).append
    h.unbroken_functionName).append hback

theorem unbroken_of_mem_dispatch (mode : DispatchMode) :
    ∀ line ∈ dispatch mode, Unbroken line := by
  cases mode <;> decide +kernel

theorem unbroken_aliasInstruction (h : Unbroken instruction) :
    Unbroken (aliasInstruction instruction) := by
  have hfront : Unbroken "ALIAS C'".toList := by decide
  have hback : Unbroken ['\''] := by decide
  exact (hfront.append h).append hback

theorem unbroken_loadLine (h : Unbroken symbol) (n : Nat) : Unbroken (loadLine symbol n) := by
  have hfront : Unbroken "LG   15,X'".toList := by decide
  have hdigits : Unbroken (upperHex 2 n) := fun c hc =>
    isLineBreak_eq_false_of_visible (isBlank_eq_false_of_mem_upperHex hc)
  have hback : Unbroken "'(,15)    ".toList := by decide
  exact unbroken_unlabelled (((hfront.append hdigits).append hback).append h)

/-- The offset of a legible definition is a natural number. -/
theorem exists_offset (h : definition.Legible) :
    ∃ n : Nat, definition.index = n ∧ definition.index * pointerSize = (n * 8 : Nat) := by
  obtain ⟨n, hn⟩ := Int.eq_ofNat_of_zero_le h.index_nonneg
  exact ⟨n, hn, by simp [hn, pointerSize]⟩

theorem unbroken_of_mem_routineBody (h : definition.WellFormed) {line : Text}
    (hline : line ∈ routineBody mode definition) : Unbroken line := by
  rcases mem_routineBody_cases hline with rfl | ⟨instruction, hmem, rfl | rfl⟩ | rfl
  · exact unbroken_labelled h.unbroken_symbol (unbroken_aliasInstruction h.unbroken_functionName)
  · exact unbroken_labelled h.unbroken_symbol (unbroken_of_mem_dispatch mode instruction hmem)
  · exact unbroken_unlabelled (unbroken_of_mem_dispatch mode instruction hmem)
  · obtain ⟨n, -, hoffset⟩ := exists_offset h.toLegible
    rw [hoffset]
    exact unbroken_loadLine h.unbroken_symbol (n * 8)

theorem unbroken_of_mem_routineLines (h : definition.WellFormed) {line : Text}
    (hline : line ∈ routineLines mode definition) : Unbroken line := by
  rw [routineLines, List.mem_cons, List.mem_append] at hline
  rcases hline with rfl | hline | hline
  · have hfront : Unbroken "ENTRY ".toList := by decide
    exact unbroken_unlabelled (hfront.append h.unbroken_symbol)
  · exact unbroken_of_mem_routineBody h hline
  · rw [List.mem_singleton.mp hline]
    decide

/-- The lines of a listing. -/
def listing (mode : DispatchMode) (definitions : List Definition) : List Text :=
  asmOpening ++ definitions.flatMap (routineLines mode) ++ asmClosing

theorem unbroken_of_mem_listing {definitions : List Definition}
    (h : ∀ definition ∈ definitions, definition.WellFormed) {line : Text}
    (hline : line ∈ listing mode definitions) : Unbroken line := by
  have hopening : ∀ line ∈ asmOpening, Unbroken line := by decide +kernel
  have hclosing : ∀ line ∈ asmClosing, Unbroken line := by decide +kernel
  simp only [listing, List.mem_append, List.mem_flatMap] at hline
  rcases hline with (hline | ⟨definition, hmem, hline⟩) | hline
  · exact hopening line hline
  · exact unbroken_of_mem_routineLines (h definition hmem) hline
  · exact hclosing line hline

end Fragment

/-! ## What the pipelines deliver -/

open Fragment

theorem expandAll_init (definitions : List Definition) :
    Pipeline.init.expandAll definitions = .ok (definitions.map initLine) := by
  induction definitions with
  | nil => rfl
  | cons definition definitions ih =>
    rw [Pipeline.expandAll, ih]
    rfl

theorem expandAll_routines_eq_ok_iff {mode : DispatchMode} {definitions : List Definition}
    {out : List Text} :
    (Pipeline.routines mode).expandAll definitions = .ok out ↔
      (∀ definition ∈ definitions, definition.index * pointerSize ≤ maxOffset) ∧
        out = definitions.flatMap (routineLines mode) := by
  induction definitions generalizing out with
  | nil => simp [Pipeline.expandAll, eq_comm]
  | cons definition definitions ih =>
    rw [Pipeline.expandAll_cons_eq_ok_iff, List.forall_mem_cons, List.flatMap_cons]
    constructor
    · rintro ⟨pieces, rest, hpieces, hrest, rfl⟩
      obtain ⟨hreach, rfl⟩ := trampoline_eq_ok_iff.mp hpieces
      obtain ⟨hall, rfl⟩ := ih.mp hrest
      exact ⟨⟨hreach, hall⟩, rfl⟩
    · rintro ⟨⟨hreach, hall⟩, rfl⟩
      exact ⟨_, _, trampoline_eq_ok_iff.mpr ⟨hreach, rfl⟩, ih.mpr ⟨hall, rfl⟩, rfl⟩

/-- The init statements of definitions, one a line. -/
theorem emitLines_init (definitions : List Definition) (mode : Selector) :
    emitLines definitions (.kind .init) mode = .ok (definitions.map initLine) := by
  change Pipeline.init.enclose (Pipeline.init.expandAll definitions) = _
  rw [expandAll_init]
  simp [Pipeline.enclose, Pipeline.init, Except.map]

/-- The listing of definitions is delivered if all their slots are in reach. -/
theorem emitLines_asm_eq_ok_iff {mode : DispatchMode} {definitions : List Definition}
    {out : List Text} :
    emitLines definitions (.kind .asm) (.mode mode) = .ok out ↔
      (∀ definition ∈ definitions, definition.index * pointerSize ≤ maxOffset) ∧
        out = listing mode definitions := by
  change (Pipeline.routines mode).enclose ((Pipeline.routines mode).expandAll definitions) = _ ↔ _
  constructor
  · intro h
    cases hall : (Pipeline.routines mode).expandAll definitions with
    | error failure => rw [hall] at h; cases h
    | ok body =>
      rw [hall] at h
      cases h
      obtain ⟨hreach, rfl⟩ := expandAll_routines_eq_ok_iff.mp hall
      exact ⟨hreach, rfl⟩
  · rintro ⟨hreach, rfl⟩
    rw [expandAll_routines_eq_ok_iff.mpr ⟨hreach, rfl⟩]
    rfl

end StubVector
