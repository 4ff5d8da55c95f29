import StubVector.Proofs.Pipeline.Delivery
import StubVector.Proofs.Pipeline.Refusal

/-!
# Headers in parts

A header is read and expanded line by line, and the only thing that is carried from one line to the
next is the number of lines before it. So a header in two parts gives what its parts give, one after
the other, where the second part is some lines further down.

* `SourceLine.down`, `Definition.down`, `Failure.down`: the same, some lines further down.
* `Header.yields`: what reading on demand yields, and the failure with which it ends.
* `Pipeline.Steady`: a pipeline expands a definition in the same way wherever it stands.
* `OutputKind.enclose`: the text of an output kind around its body.
* `Failure.unnumbered`: a failure without the number of its line.
* `generate_compositional`: **generation is compositional over the header**.
-/

namespace StubVector

open Text

/-! ## Further down -/

/-- The same line, `count` lines further down. -/
def SourceLine.down (count : Nat) (source : SourceLine) : SourceLine :=
  { source with lineNumber := source.lineNumber + count }

/-- The same definition, `count` lines further down. -/
def Definition.down (count : Nat) (definition : Definition) : Definition :=
  { definition with source := definition.source.map (·.down count) }

/-- The same failure, `count` lines further down. -/
def Failure.down (count : Nat) : Failure → Failure
  | faulty fault source => faulty fault (source.down count)
  | failure => failure

/-- The failure without the number of its line. -/
def Failure.unnumbered : Failure → Failure
  | faulty fault source => faulty fault { source with lineNumber := 0 }
  | failure => failure

@[simp] theorem Failure.unnumbered_down (count : Nat) (failure : Failure) :
    (failure.down count).unnumbered = failure.unnumbered := by
  cases failure <;> rfl

theorem Failure.down_comm (failure : Failure) (count other : Nat) :
    (failure.down count).down other = (failure.down other).down count := by
  cases failure with
  | faulty fault source =>
    simp only [down, SourceLine.down, faulty.injEq, SourceLine.mk.injEq, true_and, and_true]
    omega
  | _ => rfl

theorem Header.sourceLine_add (path : Text) (before count : Nat) (line : Text) :
    sourceLine path (before + count) line = (sourceLine path before line).down count := by
  simp only [sourceLine, SourceLine.down, SourceLine.mk.injEq, true_and, and_true]
  omega

namespace Line

variable (count : Nat) (source : SourceLine)

theorem parseIndex_down (field : Text) :
    parseIndex field (source.down count) = (parseIndex field source).mapError (·.down count) := by
  unfold parseIndex readIndex
  split
  · rfl
  · split <;> rfl

theorem parseAfterMarker_down (rest : Text) :
    parseAfterMarker rest (source.down count) =
      ((parseAfterMarker rest source).map (·.down count)).mapError (·.down count) := by
  unfold parseAfterMarker
  simp only [Letter.ofChar_char]
  cases cutAt? ' ' rest with
  | none => rfl
  | some fields =>
    obtain ⟨symbol, afterSymbol⟩ := fields
    dsimp only
    split
    · rfl
    · cases cutAt? ' ' (trim afterSymbol) with
      | none => rfl
      | some fields =>
        obtain ⟨digits, afterIndex⟩ := fields
        dsimp only
        rw [parseIndex_down]
        cases parseIndex digits source with
        | error failure => rfl
        | ok index =>
          cases commentBody? (trim afterIndex) with
          | none => rfl
          | some body =>
            simp only [Except.mapError]
            split <;> rfl

/-- A line is read in the same way wherever it stands. -/
theorem parse_down (line : Text) :
    parse line (source.down count) =
      ((parse line source).map (Option.map (·.down count))).mapError (·.down count) := by
  rw [parse, parse, Letter.ofText_char]
  cases dropFront? marker line with
  | none => rfl
  | some rest =>
    dsimp only
    rw [parseAfterMarker_down]
    cases parseAfterMarker rest source <;> rfl

end Line

/-! ## What reading yields -/

namespace Header

variable {path : Text} {before : Nat} {lines front back : List Text}

/-- What reading yields: the definitions up to the first line that cannot be read, and the failure
of that line, if there is one. The lines follow `before` lines of the same file. -/
def yieldsAfter (path : Text) : (before : Nat) → List Text → List Definition × Option Failure
  | _, [] => ([], none)
  | before, line :: lines =>
    match Line.parse line (sourceLine path before line) with
    | .error failure => ([], some failure)
    | .ok found =>
      let (definitions, failure) := yieldsAfter path (before + 1) lines
      (found.toList ++ definitions, failure)

/-- What reading the lines of a header yields. -/
def yields (path : Text) (lines : List Text) : List Definition × Option Failure :=
  yieldsAfter path 0 lines

/-- What is yielded is what a cursor delivers. -/
theorem exists_deliversFrom_yieldsAfter (path : Text) (taken : Nat) (lines : List Text) :
    ∃ steps stop, Cursor.DeliversFrom Pipeline.definitions path taken lines steps stop ∧
      steps.map (·.1) = (yieldsAfter path taken lines).1.map Delivery.piece ++
        (yieldsAfter path taken lines).2.toList.map Delivery.failed := by
  induction lines generalizing taken with
  | nil => exact ⟨_, _, Cursor.deliversFrom_nil taken, rfl⟩
  | cons line lines ih =>
    have htext : (sourceLine path taken line).text = line := rfl
    obtain ⟨steps, stop, hrest, hsteps⟩ := ih (taken + 1)
    rw [yieldsAfter]
    cases hparse : Line.parse line (sourceLine path taken line) with
    | error failure =>
      have hline : Pipeline.definitions.expandLine (sourceLine path taken line) =
          .error failure := by
        rw [Pipeline.expandLine, htext, hparse]
      exact ⟨_, _, Cursor.deliversFrom_cons_of_error hline, rfl⟩
    | ok found =>
      have hline : Pipeline.definitions.expandLine (sourceLine path taken line) =
          .ok found.toList := by
        rw [Pipeline.expandLine, htext, hparse]
        cases found <;> rfl
      refine ⟨_, _, Cursor.deliversFrom_cons_of_ok hline hrest, ?_⟩
      simp only [List.map_append, hsteps, piecesAt, List.map_map, List.append_assoc]
      rfl

/-- **Reading on demand.** However often it is pulled, it delivers what it yields, then the failure
if there is one, and nothing after that. -/
theorem pulls_definitions (path : Text) (lines : List Text) (count : Nat) :
    (Cursor.pulls Pipeline.definitions path count (.start lines)).map (·.1) =
      ((yields path lines).1.map Delivery.piece ++
        (yields path lines).2.toList.map Delivery.failed ++
          List.replicate count Delivery.finished).take count := by
  obtain ⟨steps, stop, hfrom, hsteps⟩ := exists_deliversFrom_yieldsAfter path 0 lines
  have hdelivers : Cursor.Delivers Pipeline.definitions path (.start lines)
      (piecesAt 0 [] ++ steps) stop := Cursor.delivers_start rfl hfrom
  rw [hdelivers count, List.map_take, List.map_append, List.map_replicate, List.map_append, hsteps]
  rfl

/-- Reading as a whole fails if reading on demand does. -/
theorem parseLinesAfter_eq_yieldsAfter (path : Text) (before : Nat) (lines : List Text) :
    parseLinesAfter path before lines =
      match (yieldsAfter path before lines).2 with
      | some failure => .error failure
      | none => .ok (yieldsAfter path before lines).1 := by
  induction lines generalizing before with
  | nil => rfl
  | cons line lines ih =>
    rw [parseLinesAfter, yieldsAfter]
    cases Line.parse line (sourceLine path before line) with
    | error failure => rfl
    | ok found =>
      simp only [ih]
      cases (yieldsAfter path (before + 1) lines).2 <;> rfl

/-- Lines further down yield the same, further down. -/
theorem yieldsAfter_add (path : Text) (before count : Nat) (lines : List Text) :
    yieldsAfter path (before + count) lines =
      ((yieldsAfter path before lines).1.map (·.down count),
        (yieldsAfter path before lines).2.map (·.down count)) := by
  induction lines generalizing before with
  | nil => rfl
  | cons line lines ih =>
    have hnext : before + count + 1 = before + 1 + count := by omega
    rw [yieldsAfter, yieldsAfter, sourceLine_add, Line.parse_down]
    cases Line.parse line (sourceLine path before line) with
    | error failure => rfl
    | ok found =>
      simp only [Except.map, Except.mapError, hnext, ih]
      cases found <;> rfl

theorem yieldsAfter_append (path : Text) (before : Nat) (front back : List Text) :
    yieldsAfter path before (front ++ back) =
      match yieldsAfter path before front with
      | (definitions, some failure) => (definitions, some failure)
      | (definitions, none) =>
        (definitions ++ (yieldsAfter path (before + front.length) back).1,
          (yieldsAfter path (before + front.length) back).2) := by
  induction front generalizing before with
  | nil => rfl
  | cons line front ih =>
    have hlength : before + (line :: front).length = before + 1 + front.length := by
      rw [List.length_cons]
      omega
    rw [List.cons_append, yieldsAfter, yieldsAfter, hlength, ih]
    cases Line.parse line (sourceLine path before line) with
    | error failure => rfl
    | ok found =>
      dsimp only
      obtain ⟨definitions, _ | failure⟩ := yieldsAfter path (before + 1) front
      · simp only [List.append_assoc]
      · rfl

/-- **Reading in parts.** The first part yields what it yields; unless it fails, the second part
follows, further down. -/
theorem yields_append (path : Text) (front back : List Text) :
    yields path (front ++ back) =
      match yields path front with
      | (definitions, some failure) => (definitions, some failure)
      | (definitions, none) =>
        (definitions ++ (yields path back).1.map (·.down front.length),
          (yields path back).2.map (·.down front.length)) := by
  rw [yields, yieldsAfter_append, yieldsAfter_add]
  rfl

section Parse

variable {definitions : List Definition} {failure : Failure}

theorem parseLines_eq_ok_iff_yields :
    parseLines path lines = .ok definitions ↔ yields path lines = (definitions, none) := by
  rw [parseLines, parseLinesAfter_eq_yieldsAfter, yields]
  obtain ⟨found, _ | failure⟩ := yieldsAfter path 0 lines <;> simp

theorem parseLines_eq_error_iff_yields :
    parseLines path lines = .error failure ↔ (yields path lines).2 = some failure := by
  rw [parseLines, parseLinesAfter_eq_yieldsAfter, yields]
  obtain ⟨found, _ | first⟩ := yieldsAfter path 0 lines <;> simp

theorem parseLines_append_eq_ok_iff :
    parseLines path (front ++ back) = .ok definitions ↔
      ∃ first second, parseLines path front = .ok first ∧ parseLines path back = .ok second ∧
        definitions = first ++ second.map (·.down front.length) := by
  simp only [parseLines_eq_ok_iff_yields, yields_append]
  obtain ⟨first, _ | failure⟩ := yields path front
  · obtain ⟨second, _ | failure⟩ := yields path back <;> simp [eq_comm]
  · simp

theorem parseLines_append_eq_error_iff :
    parseLines path (front ++ back) = .error failure ↔
      parseLines path front = .error failure ∨
        (∃ first, parseLines path front = .ok first) ∧
          ∃ cause, parseLines path back = .error cause ∧ failure = cause.down front.length := by
  simp only [parseLines_eq_ok_iff_yields, parseLines_eq_error_iff_yields, yields_append]
  obtain ⟨first, _ | failure⟩ := yields path front
  · simp [Option.map_eq_some_iff, eq_comm (a := failure)]
  · simp

end Parse

/-- Lines without the marker yield nothing. -/
theorem parseLines_of_inert (h : ∀ line ∈ lines, Line.isDefinition line = false) :
    parseLines path lines = .ok [] := by
  have hall : ∀ before, parseLinesAfter path before lines = .ok [] := by
    induction lines with
    | nil => exact fun _ => rfl
    | cons line lines ih =>
      intro before
      rw [List.forall_mem_cons] at h
      exact parseLinesAfter_cons_eq_ok_iff.mpr
        ⟨none, [], Line.parse_of_isDefinition_eq_false h.1 _, ih h.2 _, rfl⟩
  exact hall 0

end Header

/-! ## Expanding in parts -/

namespace Pipeline

variable {β : Type} {pipeline : Pipeline β} {path : Text}

/-- The pipeline expands a definition in the same way wherever it stands. -/
def Steady (pipeline : Pipeline β) : Prop :=
  ∀ count definition, definition.source.isSome →
    pipeline.expand (definition.down count) =
      (pipeline.expand definition).mapError (·.down count)

theorem expandLine_down (h : pipeline.Steady) (count : Nat) (source : SourceLine) :
    pipeline.expandLine (source.down count) =
      (pipeline.expandLine source).mapError (·.down count) := by
  have htext : (source.down count).text = source.text := rfl
  rw [expandLine, expandLine, htext, Line.parse_down]
  cases hparse : Line.parse source.text source with
  | error failure => rfl
  | ok found =>
    cases found with
    | none => rfl
    | some definition =>
      have hsource : definition.source.isSome := by
        rw [Line.source_of_parse hparse]
        rfl
      change pipeline.expandAll [definition.down count] =
        (pipeline.expandAll [definition]).mapError (·.down count)
      simp only [expandAll, h count definition hsource]
      cases pipeline.expand definition <;> rfl

/-- Lines further down are expanded in the same way. -/
theorem expandLinesAfter_add (h : pipeline.Steady) (path : Text) (before count : Nat)
    (lines : List Text) :
    pipeline.expandLinesAfter path (before + count) lines =
      (pipeline.expandLinesAfter path before lines).mapError (·.down count) := by
  induction lines generalizing before with
  | nil => rfl
  | cons line lines ih =>
    have hnext : before + count + 1 = before + 1 + count := by omega
    rw [expandLinesAfter_cons, expandLinesAfter_cons, Header.sourceLine_add, expandLine_down h,
      hnext, ih]
    cases pipeline.expandLine (Header.sourceLine path before line) with
    | error failure => rfl
    | ok pieces => cases pipeline.expandLinesAfter path (before + 1) lines <;> rfl

theorem expandLinesAfter_append (pipeline : Pipeline β) (path : Text) (before : Nat)
    (front back : List Text) :
    pipeline.expandLinesAfter path before (front ++ back) =
      (pipeline.expandLinesAfter path before front).bind fun first =>
        (pipeline.expandLinesAfter path (before + front.length) back).map (first ++ ·) := by
  induction front generalizing before with
  | nil =>
    change _ = (pipeline.expandLinesAfter path before back).map (fun pieces => [] ++ pieces)
    rw [List.nil_append]
    cases pipeline.expandLinesAfter path before back <;> rfl
  | cons line front ih =>
    have hlength : before + (line :: front).length = before + 1 + front.length := by
      rw [List.length_cons]
      omega
    rw [List.cons_append, expandLinesAfter_cons, expandLinesAfter_cons, hlength, ih]
    cases pipeline.expandLine (Header.sourceLine path before line) with
    | error failure => rfl
    | ok pieces =>
      cases pipeline.expandLinesAfter path (before + 1) front with
      | error failure => rfl
      | ok first =>
        cases pipeline.expandLinesAfter path (before + 1 + front.length) back with
        | error failure => rfl
        | ok second => simp [Except.bind, Except.map]

/-- **Expanding in parts.** The second part is expanded as it is by itself, further down. -/
theorem expandLinesAfter_zero_append (h : pipeline.Steady) (path : Text)
    (front back : List Text) :
    pipeline.expandLinesAfter path 0 (front ++ back) =
      (pipeline.expandLinesAfter path 0 front).bind fun first =>
        ((pipeline.expandLinesAfter path 0 back).mapError (·.down front.length)).map
          (first ++ ·) := by
  rw [expandLinesAfter_append, expandLinesAfter_add h]

/-- A line without the marker has no pieces. -/
theorem expandLine_of_inert (pipeline : Pipeline β) {source : SourceLine}
    (h : Line.isDefinition source.text = false) : pipeline.expandLine source = .ok [] := by
  rw [expandLine, Line.parse_of_isDefinition_eq_false h]
  rfl

/-- Where a line stands shows in the number of a failure only. -/
theorem expandLine_unnumbered (h : pipeline.Steady) (path : Text) (before : Nat) (line : Text) :
    (pipeline.expandLine (Header.sourceLine path before line)).mapError Failure.unnumbered =
      (pipeline.expandLine (Header.sourceLine path 0 line)).mapError Failure.unnumbered := by
  have hdown := expandLine_down h before (Header.sourceLine path 0 line)
  rw [← Header.sourceLine_add, Nat.zero_add] at hdown
  rw [hdown]
  cases pipeline.expandLine (Header.sourceLine path 0 line) <;> simp [Except.mapError]

/-- Only the lines with the marker count. The lines that are left out change where the others stand,
and so the number of a failure. -/
theorem expandLinesAfter_filter (h : pipeline.Steady) (path : Text) (before other : Nat)
    (lines : List Text) :
    (pipeline.expandLinesAfter path before lines).mapError Failure.unnumbered =
      (pipeline.expandLinesAfter path other (lines.filter Line.isDefinition)).mapError
        Failure.unnumbered := by
  have hbind : ∀ first rest : Except Failure (List β),
      (first.bind fun pieces => rest.map (pieces ++ ·)).mapError Failure.unnumbered =
        (first.mapError Failure.unnumbered).bind fun pieces =>
          (rest.mapError Failure.unnumbered).map (pieces ++ ·) := by
    intro first rest
    cases first <;> cases rest <;> rfl
  induction lines generalizing before other with
  | nil => rfl
  | cons line lines ih =>
    rw [expandLinesAfter_cons, hbind, expandLine_unnumbered h]
    cases hline : Line.isDefinition line with
    | true =>
      rw [List.filter_cons_of_pos hline, expandLinesAfter_cons, hbind,
        expandLine_unnumbered h path other, ih]
    | false =>
      rw [List.filter_cons_of_neg (by simp [hline]), ← ih (before + 1),
        expandLine_of_inert pipeline hline]
      cases pipeline.expandLinesAfter path (before + 1) lines <;> rfl

theorem expandLinesAfter_of_inert (pipeline : Pipeline β) (path : Text) (before : Nat)
    {lines : List Text} (h : ∀ line ∈ lines, Line.isDefinition line = false) :
    pipeline.expandLinesAfter path before lines = .ok [] := by
  induction lines generalizing before with
  | nil => rfl
  | cons line lines ih =>
    rw [List.forall_mem_cons] at h
    rw [expandLinesAfter_cons, expandLine_of_inert pipeline h.1, ih _ h.2]
    rfl

theorem steady_init : Pipeline.init.Steady := fun _ _ _ => rfl

theorem steady_routines (mode : DispatchMode) : (Pipeline.routines mode).Steady := by
  intro count definition hsource
  obtain ⟨source, hsource⟩ := Option.isSome_iff_exists.mp hsource
  have hplace : Fragment.place (definition.down count) =
      (Fragment.place definition).down count := by
    rw [Fragment.place, Fragment.place, Definition.down, hsource]
    rfl
  have hoffset : Fragment.slotOffset (definition.down count) =
      (Fragment.slotOffset definition).mapError (·.down count) := by
    simp only [Fragment.slotOffset, hplace]
    change (if _ < definition.index * _ then _ else _) = _
    split <;> rfl
  change Fragment.trampoline mode (definition.down count) =
    (Fragment.trampoline mode definition).mapError (·.down count)
  rw [Fragment.trampoline, hoffset, Fragment.trampoline]
  cases Fragment.slotOffset definition <;> rfl

end Pipeline

/-! ## Generating in parts -/

/-- The text of an output kind around its body. -/
def OutputKind.enclose (output : OutputKind) (body : Text) : Text :=
  unlines output.opening ++ body ++ unlines output.closing

theorem OutputKind.enclose_init (body : Text) : init.enclose body = body := List.append_nil body

theorem OutputKind.enclose_inj {output : OutputKind} {body other : Text} :
    output.enclose body = output.enclose other ↔ body = other := by
  rw [enclose, enclose, List.append_left_inj, List.append_right_inj]

theorem Text.unlines_append (front back : List Text) :
    unlines (front ++ back) = unlines front ++ unlines back := List.flatMap_append

/-- Whether texts for lines are put together from the texts for their parts. -/
structure Compositional (body : List Text → Except Failure Text) : Prop where
  append : ∀ front back, body (front ++ back) =
    (body front).bind fun first =>
      ((body back).mapError (·.down front.length)).map (first ++ ·)
  inert : ∀ lines, (∀ line ∈ lines, Line.isDefinition line = false) → body lines = .ok []
  filter : ∀ lines, (body lines).mapError Failure.unnumbered =
    (body (lines.filter Line.isDefinition)).mapError Failure.unnumbered

section Generate

variable {kind mode : Selector} {output : OutputKind} {path text : Text}
  {front inert back lines others : List Text} {failure : Failure}

/-- The pieces of a steady pipeline are compositional. -/
theorem Pipeline.Steady.compositional {pipeline : Pipeline Text} (h : pipeline.Steady)
    (path : Text) :
    Compositional fun lines => (pipeline.expandLinesAfter path 0 lines).map unlines where
  append front back := by
    rw [expandLinesAfter_zero_append h]
    cases pipeline.expandLinesAfter path 0 front with
    | error failure => rfl
    | ok first =>
      cases pipeline.expandLinesAfter path 0 back with
      | error failure => rfl
      | ok second => exact congrArg Except.ok (unlines_append first second)
  inert lines hinert := by
    rw [expandLinesAfter_of_inert pipeline path 0 hinert]
    rfl
  filter lines := by
    have hmap : ∀ pieces : Except Failure (List Text),
        (pieces.map unlines).mapError Failure.unnumbered =
          (pieces.mapError Failure.unnumbered).map unlines := by
      intro pieces
      cases pieces <;> rfl
    rw [hmap, expandLinesAfter_filter h path 0 0, hmap]

/-- **The body of a generated text.** Around it stands what stands around every text of its output
kind, and it is compositional. -/
theorem Selector.Known.exists_compositional (h : Selector.Known kind mode output) (path : Text) :
    ∃ body, Compositional body ∧
      ∀ lines, generate path lines kind mode = (body lines).map output.enclose := by
  obtain ⟨pipeline, hpipeline, hopening, hclosing, hsteady⟩ : ∃ pipeline,
      Pipeline.ofKind kind mode = .ok pipeline ∧ pipeline.opening = .ok output.opening ∧
        pipeline.closing = output.closing ∧ pipeline.Steady := by
    obtain ⟨member, hmember⟩ := h.exists_ofKind_eq (α := Char)
    rw [hmember]
    cases output with
    | asm => exact ⟨_, rfl, rfl, rfl, Pipeline.steady_routines member⟩
    | init => exact ⟨_, rfl, rfl, rfl, Pipeline.steady_init⟩
  refine ⟨_, hsteady.compositional path, fun lines => ?_⟩
  rw [generate_eq_of_ofKind hpipeline, Pipeline.run, Pipeline.enclose, hopening, hclosing]
  cases pipeline.expandLinesAfter path 0 lines with
  | error failure => rfl
  | ok pieces =>
    change Except.ok (unlines (output.opening ++ pieces ++ output.closing)) =
      .ok (output.enclose (unlines pieces))
    rw [unlines_append, unlines_append, OutputKind.enclose]

theorem exists_enclose_eq_of_generate (h : Selector.Known kind mode output)
    (hgenerate : generate path lines kind mode = .ok text) :
    ∃ body, text = output.enclose body := by
  obtain ⟨body, -, hbody⟩ := h.exists_compositional path
  rw [hbody] at hgenerate
  cases hlines : body lines with
  | error failure => rw [hlines] at hgenerate; cases hgenerate
  | ok found =>
    rw [hlines] at hgenerate
    exact ⟨found, (Except.ok.inj hgenerate).symm⟩

/-- The body of a text in two parts is that of the first part and then that of the second. -/
theorem generate_append_eq_ok_iff (h : Selector.Known kind mode output) :
    generate path (front ++ back) kind mode = .ok text ↔
      ∃ first second, generate path front kind mode = .ok (output.enclose first) ∧
        generate path back kind mode = .ok (output.enclose second) ∧
        text = output.enclose (first ++ second) := by
  obtain ⟨body, hlaws, hbody⟩ := h.exists_compositional path
  simp only [hbody, hlaws.append]
  cases body front with
  | error failure => simp [Except.bind, Except.map]
  | ok first =>
    cases body back with
    | error failure => simp [Except.bind, Except.map, Except.mapError]
    | ok second =>
      simp [Except.bind, Except.map, Except.mapError, OutputKind.enclose_inj, eq_comm]

/-- It fails as its first part does, or else as its second part does, further down. -/
theorem generate_append_eq_error_iff (h : Selector.Known kind mode output) :
    generate path (front ++ back) kind mode = .error failure ↔
      generate path front kind mode = .error failure ∨
        (∃ text, generate path front kind mode = .ok text) ∧
          ∃ cause, generate path back kind mode = .error cause ∧
            failure = cause.down front.length := by
  obtain ⟨body, hlaws, hbody⟩ := h.exists_compositional path
  simp only [hbody, hlaws.append]
  cases body front with
  | error failure => simp [Except.bind, Except.map]
  | ok first =>
    cases body back <;> simp [Except.bind, Except.map, Except.mapError, eq_comm]

/-- Lines without the marker contribute nothing. -/
theorem generate_of_inert (h : Selector.Known kind mode output)
    (hinert : ∀ line ∈ inert, Line.isDefinition line = false) :
    generate path inert kind mode = .ok (output.enclose []) := by
  obtain ⟨body, hlaws, hbody⟩ := h.exists_compositional path
  rw [hbody, hlaws.inert inert hinert]
  rfl

/-- Only the lines with the marker count, apart from the number of a failure. -/
theorem generate_congr_of_filter (h : Selector.Known kind mode output)
    (hfilter : lines.filter Line.isDefinition = others.filter Line.isDefinition) :
    (generate path lines kind mode).mapError Failure.unnumbered =
      (generate path others kind mode).mapError Failure.unnumbered := by
  obtain ⟨body, hlaws, hbody⟩ := h.exists_compositional path
  have hmap : ∀ found : Except Failure Text,
      (found.map output.enclose).mapError Failure.unnumbered =
        (found.mapError Failure.unnumbered).map output.enclose := by
    intro found
    cases found <;> rfl
  rw [hbody, hbody, hmap, hmap, hlaws.filter lines, hlaws.filter others, hfilter]

theorem generate_insert_eq_ok_iff (h : Selector.Known kind mode output)
    (hinert : ∀ line ∈ inert, Line.isDefinition line = false) :
    generate path (front ++ inert ++ back) kind mode = .ok text ↔
      generate path (front ++ back) kind mode = .ok text := by
  obtain ⟨body, hlaws, hbody⟩ := h.exists_compositional path
  simp only [hbody, hlaws.append, hlaws.inert inert hinert]
  cases body front with
  | error failure => rfl
  | ok first => cases body back <;> simp [Except.bind, Except.map, Except.mapError]

/-- Where lines without the marker are inserted, a failure before them stays, and one after them
stands further down. -/
theorem generate_insert_eq_error_iff (h : Selector.Known kind mode output)
    (hinert : ∀ line ∈ inert, Line.isDefinition line = false) :
    generate path (front ++ inert ++ back) kind mode = .error failure ↔
      generate path front kind mode = .error failure ∨
        (∃ text, generate path front kind mode = .ok text) ∧
          ∃ cause, generate path (front ++ back) kind mode = .error cause ∧
            failure = cause.down inert.length := by
  obtain ⟨body, hlaws, hbody⟩ := h.exists_compositional path
  simp only [List.append_assoc, hbody, hlaws.append, hlaws.inert inert hinert]
  cases body front with
  | error failure => simp [Except.bind, Except.map]
  | ok first =>
    cases body back with
    | error cause =>
      simp [Except.bind, Except.map, Except.mapError, Failure.down_comm cause front.length, eq_comm]
    | ok second => simp [Except.bind, Except.map, Except.mapError]

/-- **Generation is compositional over the header.** The definitions of a header in two parts are
those of the first part and then those of the second, further down, and so is the body of what is
generated from it. A failure of the first part is reported as it is, or else one of the second part,
further down. Lines without the marker contribute nothing, wherever they stand. -/
theorem generate_compositional (path : Text) :
    (∀ lines count, (Cursor.pulls Pipeline.definitions path count (.start lines)).map (·.1) =
      ((Header.yields path lines).1.map Delivery.piece ++
        (Header.yields path lines).2.toList.map Delivery.failed ++
          List.replicate count Delivery.finished).take count) ∧
    (∀ front back, Header.yields path (front ++ back) =
      match Header.yields path front with
      | (definitions, some failure) => (definitions, some failure)
      | (definitions, none) =>
        (definitions ++ (Header.yields path back).1.map (·.down front.length),
          (Header.yields path back).2.map (·.down front.length))) ∧
    (∀ front back,
      (∀ definitions, Header.parseLines path (front ++ back) = .ok definitions ↔
        ∃ first second, Header.parseLines path front = .ok first ∧
          Header.parseLines path back = .ok second ∧
          definitions = first ++ second.map (·.down front.length)) ∧
      ∀ failure, Header.parseLines path (front ++ back) = .error failure ↔
        Header.parseLines path front = .error failure ∨
          (∃ first, Header.parseLines path front = .ok first) ∧
            ∃ cause, Header.parseLines path back = .error cause ∧
              failure = cause.down front.length) ∧
    ∀ kind mode output, Selector.Known kind mode output →
      (∀ lines text, generate path lines kind mode = .ok text →
        ∃ body, text = output.enclose body) ∧
      (∀ front back,
        (∀ text, generate path (front ++ back) kind mode = .ok text ↔
          ∃ first second, generate path front kind mode = .ok (output.enclose first) ∧
            generate path back kind mode = .ok (output.enclose second) ∧
            text = output.enclose (first ++ second)) ∧
        (∀ failure, generate path (front ++ back) kind mode = .error failure ↔
          generate path front kind mode = .error failure ∨
            (∃ text, generate path front kind mode = .ok text) ∧
              ∃ cause, generate path back kind mode = .error cause ∧
                failure = cause.down front.length) ∧
        (output = .init → ∀ first second, generate path front kind mode = .ok first →
          generate path back kind mode = .ok second →
            generate path (front ++ back) kind mode = .ok (first ++ second))) ∧
      (∀ inert, (∀ line ∈ inert, Line.isDefinition line = false) →
        Header.parseLines path inert = .ok [] ∧
        generate path inert kind mode = .ok (output.enclose []) ∧
        ∀ front back,
          (∀ text, generate path (front ++ inert ++ back) kind mode = .ok text ↔
            generate path (front ++ back) kind mode = .ok text) ∧
          ∀ failure, generate path (front ++ inert ++ back) kind mode = .error failure ↔
            generate path front kind mode = .error failure ∨
              (∃ text, generate path front kind mode = .ok text) ∧
                ∃ cause, generate path (front ++ back) kind mode = .error cause ∧
                  failure = cause.down inert.length) ∧
      ∀ lines others, lines.filter Line.isDefinition = others.filter Line.isDefinition →
        (generate path lines kind mode).mapError Failure.unnumbered =
          (generate path others kind mode).mapError Failure.unnumbered := by
  refine ⟨Header.pulls_definitions path, Header.yields_append path, fun front back =>
    ⟨fun definitions => Header.parseLines_append_eq_ok_iff, fun failure =>
      Header.parseLines_append_eq_error_iff⟩, fun kind mode output h => ?_⟩
  refine ⟨fun lines text => exists_enclose_eq_of_generate h, fun front back =>
    ⟨fun text => generate_append_eq_ok_iff h, fun failure => generate_append_eq_error_iff h, ?_⟩,
    fun inert hinert => ⟨Header.parseLines_of_inert hinert, generate_of_inert h hinert,
      fun front back => ⟨fun text => generate_insert_eq_ok_iff h hinert, fun failure =>
        generate_insert_eq_error_iff h hinert⟩⟩, fun lines others =>
      generate_congr_of_filter h⟩
  -- nothing stands around init statements
  rintro rfl first second hfirst hsecond
  refine (generate_append_eq_ok_iff h).mpr ⟨first, second, ?_, ?_, ?_⟩
  · rwa [OutputKind.enclose_init]
  · rwa [OutputKind.enclose_init]
  · rw [OutputKind.enclose_init]

/-- A blank line between two definitions, of which the second cannot be read. -/
theorem generate_compositional_blank_line :
    generate "h".toList
        (["#define ZIS_STUB_A 1 /* f */".toList] ++ [[]] ++ ["#define ZIS_STUB_B".toList])
        (.kind .asm) (.mode .zvte) =
      .error (.faulty .badDefine ⟨"h".toList, 3, "#define ZIS_STUB_B".toList⟩) ∧
    generate "h".toList
        (["#define ZIS_STUB_A 1 /* f */".toList] ++ ["#define ZIS_STUB_B 2 /* g */".toList])
        (.kind .init) (.mode .zvte) =
      .ok ("    stubVector[ZIS_STUB_A       ] = (void*)f;\n".toList ++
        "    stubVector[ZIS_STUB_B       ] = (void*)g;\n".toList) := by
  obtain ⟨-, -, -, hknown⟩ := generate_compositional "h".toList
  obtain ⟨-, -, hinsert, -⟩ := hknown (.kind .asm) (.mode .zvte) .asm ⟨rfl, fun _ => ⟨.zvte, rfl⟩⟩
  obtain ⟨-, happend, -, -⟩ := hknown (.kind .init) (.mode .zvte) .init ⟨rfl, by simp⟩
  constructor
  · obtain ⟨-, -, hblank⟩ := hinsert [[]] (by decide +kernel)
    refine ((hblank _ _).2 _).mpr (.inr ⟨⟨_, rfl⟩, ?_⟩)
    exact ⟨.faulty .badDefine ⟨"h".toList, 2, "#define ZIS_STUB_B".toList⟩, rfl, rfl⟩
  · exact (happend _ _).2.2 rfl _ _ rfl rfl

end Generate

end StubVector
