import Mathlib.Data.Option.Basic
import StubVector.Pipeline
import StubVector.Proofs.Text.Letters

/-!
# Generating in other letters

What is generated does not depend on the kind of letters: if the lines of a header, and its path,
are mapped to other letters, so is the generated text, or the failure with its wording. In
particular a header of characters is a header of wide text, and any header may be read as the
characters that its letters count as.

* `SourceLine.map`, `Definition.map`, `Failure.map`: definitions and failures in other letters.
* `Letter.Keeps.parse_map`, `parseLines_map`: reading commutes with a map of letters.
* `Pipeline.Maps`: pipelines that do the same in different letters.
* `Letter.Keeps.generate_map`: **so does generating**.
-/

namespace StubVector

open Text Letter

variable {α β : Type}

/-! ## Definitions and failures in other letters -/

/-- A line of a header in other letters. -/
def SourceLine.map (φ : α → β) (source : SourceLine α) : SourceLine β where
  path := source.path.map φ
  lineNumber := source.lineNumber
  text := source.text.map φ

/-- A definition in other letters. -/
def Definition.map (φ : α → β) (definition : Definition α) : Definition β where
  symbol := definition.symbol.map φ
  index := definition.index
  functionName := definition.functionName.map φ
  isMapped := definition.isMapped
  source := definition.source.map (·.map φ)

/-- A failure in other letters. -/
def Failure.map (φ : α → β) : Failure α → Failure β
  | faulty fault source => faulty fault (source.map φ)
  | oversizedIndex digits => oversizedIndex digits
  | oversizedNumber => oversizedNumber
  | unknownKind given => unknownKind given
  | unknownMode given => unknownMode given

/-! ## Reading -/

section Reading

theorem Header.sourceLine_map (φ : α → β) (path : List α) (before : Nat) (line : List α) :
    (sourceLine path before line).map φ = sourceLine (path.map φ) before (line.map φ) :=
  rfl

variable [Letter α] [Letter β] {φ : α → β}

/-- The wording of a failure in other letters. -/
theorem Failure.message_map (h : Keeps φ) (failure : Failure α) :
    (failure.map φ).message = failure.message.map φ := by
  cases failure with
  | faulty fault source =>
    simp [map, message, Fault.messageAt, SourceLine.map, h.ofText_map]
  | oversizedIndex | oversizedNumber | unknownKind | unknownMode =>
    simp [map, message, h.ofText_map]

namespace Letter.Keeps

variable (h : Keeps φ)
include h

theorem readIndex_map (digits : List α) :
    Line.readIndex (digits.map φ) = (Line.readIndex digits).mapError (Failure.map φ) := by
  rw [Line.readIndex, Line.readIndex, List.length_map, h.readDecimal_map]
  split <;> rfl

theorem parseIndex_map (field : List α) (source : SourceLine α) :
    Line.parseIndex (field.map φ) (source.map φ) =
      (Line.parseIndex field source).mapError (Failure.map φ) := by
  rw [Line.parseIndex, Line.parseIndex, h.isDecimal_map, h.readIndex_map]
  split <;> rfl

variable [DecidableEq α] [DecidableEq β]

theorem commentBody?_map (comment : List α) :
    Line.commentBody? (comment.map φ) = (Line.commentBody? comment).map (List.map φ) := by
  simp only [Line.commentBody?]
  rw [h.dropFront?_map (by decide)]
  cases dropFront? (ofText "/*".toList) comment with
  | none => rfl
  | some opened =>
    simp only [Option.map_some, Option.bind_some]
    rw [h.dropBack?_map (by decide)]
    cases dropBack? (ofText "*/".toList) opened with
    | none => rfl
    | some body => exact congrArg some (h.trim_map body)

theorem splitMapped_map (body : List α) :
    Line.splitMapped (body.map φ) =
      ((Line.splitMapped body).1.map φ, (Line.splitMapped body).2) := by
  rw [Line.splitMapped, Line.splitMapped, h.dropBack?_map (by decide)]
  cases dropBack? (ofText Line.mappedMark) body with
  | none => rfl
  | some name => exact congrArg (·, true) (h.trimEnd_map name)

theorem parseAfterMarker_map (rest : List α) (source : SourceLine α) :
    Line.parseAfterMarker (rest.map φ) (source.map φ) =
      ((Line.parseAfterMarker rest source).map (Definition.map φ)).mapError (Failure.map φ) := by
  unfold Line.parseAfterMarker
  rw [h.cutAt?_map (by decide)]
  cases cutAt? (ofChar ' ') rest with
  | none => rfl
  | some fields =>
    obtain ⟨symbol, afterSymbol⟩ := fields
    simp only [Option.map_some, List.isEmpty_map]
    split
    · rfl
    · rw [h.trim_map, h.cutAt?_map (by decide)]
      cases cutAt? (ofChar ' ') (trim afterSymbol) with
      | none => rfl
      | some fields =>
        obtain ⟨digits, afterIndex⟩ := fields
        simp only [Option.map_some]
        rw [h.parseIndex_map]
        cases Line.parseIndex digits source with
        | error failure => rfl
        | ok index =>
          simp only [Except.mapError]
          rw [h.trim_map, h.commentBody?_map]
          cases Line.commentBody? (trim afterIndex) with
          | none => rfl
          | some body =>
            simp only [Option.map_some, h.splitMapped_map, List.isEmpty_map]
            split <;> rfl

/-- A line is read in the same way in other letters. -/
theorem parse_map (line : List α) (source : SourceLine α) :
    Line.parse (line.map φ) (source.map φ) =
      ((Line.parse line source).map (Option.map (Definition.map φ))).mapError (Failure.map φ) := by
  rw [Line.parse, Line.parse, h.dropFront?_map (by decide)]
  cases dropFront? (ofText Line.marker) line with
  | none => rfl
  | some rest =>
    simp only [Option.map_some]
    rw [h.parseAfterMarker_map]
    cases Line.parseAfterMarker rest source <;> rfl

/-- In a header, the line stands at the same place in other letters. -/
theorem parse_sourceLine_map (path : List α) (before : Nat) (line : List α) :
    Line.parse (line.map φ) (Header.sourceLine (path.map φ) before (line.map φ)) =
      ((Line.parse line (Header.sourceLine path before line)).map
        (Option.map (Definition.map φ))).mapError (Failure.map φ) := by
  rw [← Header.sourceLine_map, h.parse_map]

theorem parseLinesAfter_map (path : List α) (before : Nat) (lines : List (List α)) :
    Header.parseLinesAfter (path.map φ) before (lines.map (List.map φ)) =
      ((Header.parseLinesAfter path before lines).map (List.map (Definition.map φ))).mapError
        (Failure.map φ) := by
  induction lines generalizing before with
  | nil => rfl
  | cons line lines ih =>
    rw [List.map_cons, Header.parseLinesAfter, Header.parseLinesAfter, h.parse_sourceLine_map]
    cases Line.parse line (Header.sourceLine path before line) with
    | error failure => rfl
    | ok found =>
      simp only [Except.map, Except.mapError]
      rw [ih]
      cases Header.parseLinesAfter path (before + 1) lines with
      | error failure => rfl
      | ok definitions => cases found <;> rfl

/-- So are the lines of a header. -/
theorem parseLines_map (path : List α) (lines : List (List α)) :
    Header.parseLines (path.map φ) (lines.map (List.map φ)) =
      ((Header.parseLines path lines).map (List.map (Definition.map φ))).mapError
        (Failure.map φ) :=
  h.parseLinesAfter_map path 0 lines

end Letter.Keeps

end Reading

/-! ## Fragments -/

namespace Letter.Keeps

open Fragment

variable [Letter α] [Letter β] {φ : α → β} (h : Keeps φ)
include h

theorem label_map (symbol : List α) : label (symbol.map φ) = (label symbol).map φ := by
  rw [label, label, ← List.map_take, h.padRight_map]

theorem unlabelled_map (instruction : List α) :
    unlabelled (instruction.map φ) = (unlabelled instruction).map φ := by
  rw [unlabelled, unlabelled, List.map_append, h.replicate_map]

theorem labelled_map (symbol instruction : List α) :
    labelled (symbol.map φ) (instruction.map φ) = (labelled symbol instruction).map φ := by
  simp only [labelled, h.label_map, List.map_append, h.ofText_map]

theorem initLine_map (definition : Definition α) :
    initLine (definition.map φ) = (initLine definition).map φ := by
  simp only [initLine, Definition.map, h.label_map, List.map_append, h.ofText_map]

theorem slotOffset_map (definition : Definition α) :
    slotOffset (definition.map φ) = (slotOffset definition).mapError (Failure.map φ) := by
  have hplace : place (definition.map φ) = (place definition).map φ := by
    rw [place, place]
    cases hsource : definition.source with
    | none => simp [Definition.map, hsource, SourceLine.map, h.ofText_map]
    | some source => simp [Definition.map, hsource]
  have hindex : (definition.map φ).index = definition.index := rfl
  simp only [slotOffset, hplace, hindex]
  split <;> rfl

theorem aliasLines_map (definition : Definition α) :
    aliasLines (definition.map φ) = (aliasLines definition).map (List.map φ) := by
  rw [aliasLines, aliasLines, Definition.map]
  split
  · rfl
  · rw [List.map_singleton, ← h.labelled_map]
    simp only [List.map_append, h.ofText_map]

theorem dispatchLines_map (symbol : List α) (mode : DispatchMode) :
    dispatchLines (symbol.map φ) mode = (dispatchLines symbol mode).map (List.map φ) := by
  unfold dispatchLines
  split
  · rfl
  · rw [List.map_cons, ← h.labelled_map, h.ofText_map, List.map_map]
    congr 2
    funext line
    rw [Function.comp_apply, ← h.unlabelled_map, h.ofText_map]

theorem trampoline_map (mode : DispatchMode) (definition : Definition α) :
    trampoline mode (definition.map φ) =
      ((trampoline mode definition).map (List.map (List.map φ))).mapError (Failure.map φ) := by
  rw [trampoline, trampoline, h.slotOffset_map]
  cases slotOffset definition with
  | error failure => rfl
  | ok offset =>
    simp only [Except.map, Except.mapError, List.map_append, List.map_cons, List.map_nil,
      ← h.aliasLines_map, ← h.dispatchLines_map, loadLine, ← h.unlabelled_map, h.ofText_map]
    rfl

end Letter.Keeps

/-! ## Pipelines -/

/-- Whether a pipeline does in other letters what the first one does, with pieces that are mapped.
-/
structure Pipeline.Maps {γ δ : Type} (φ : α → β) (ψ : γ → δ) (first : Pipeline γ α)
    (second : Pipeline δ β) : Prop where
  opening : second.opening = (first.opening.map (List.map ψ)).mapError (Failure.map φ)
  expand : ∀ definition, second.expand (definition.map φ) =
    ((first.expand definition).map (List.map ψ)).mapError (Failure.map φ)
  closing : second.closing = first.closing.map ψ

namespace Pipeline.Maps

variable {γ δ : Type} {φ : α → β} {ψ : γ → δ} {first : Pipeline γ α} {second : Pipeline δ β}
  (hmaps : Maps φ ψ first second)
include hmaps

theorem expandAll_map (definitions : List (Definition α)) :
    second.expandAll (definitions.map (Definition.map φ)) =
      ((first.expandAll definitions).map (List.map ψ)).mapError (Failure.map φ) := by
  induction definitions with
  | nil => rfl
  | cons definition definitions ih =>
    rw [List.map_cons, expandAll, expandAll, hmaps.expand]
    cases first.expand definition with
    | error failure => rfl
    | ok pieces =>
      simp only [Except.map, Except.mapError]
      rw [ih]
      cases first.expandAll definitions with
      | error failure => rfl
      | ok rest => simp [Except.map, Except.mapError]

theorem enclose_map (body : Except (Failure α) (List γ)) :
    second.enclose ((body.map (List.map ψ)).mapError (Failure.map φ)) =
      ((first.enclose body).map (List.map ψ)).mapError (Failure.map φ) := by
  rw [enclose, enclose, hmaps.opening, hmaps.closing]
  cases first.opening with
  | error failure => rfl
  | ok opening => cases body <;> simp [Except.map, Except.mapError]

variable [DecidableEq α] [DecidableEq β] [Letter α] [Letter β] (h : Keeps φ)
include h

theorem expandLinesAfter_map (path : List α) (before : Nat) (lines : List (List α)) :
    second.expandLinesAfter (path.map φ) before (lines.map (List.map φ)) =
      ((first.expandLinesAfter path before lines).map (List.map ψ)).mapError (Failure.map φ) := by
  induction lines generalizing before with
  | nil => rfl
  | cons line lines ih =>
    rw [List.map_cons, expandLinesAfter, expandLinesAfter, h.parse_sourceLine_map]
    cases Line.parse line (Header.sourceLine path before line) with
    | error failure => rfl
    | ok found =>
      have hfound : (found.map (Definition.map φ)).toList =
          found.toList.map (Definition.map φ) := by
        cases found <;> rfl
      simp only [Except.map, Except.mapError]
      rw [hfound, hmaps.expandAll_map]
      cases first.expandAll found.toList with
      | error failure => rfl
      | ok pieces =>
        simp only [Except.map, Except.mapError]
        rw [ih]
        cases first.expandLinesAfter path (before + 1) lines <;> simp [Except.map, Except.mapError]

theorem run_map (path : List α) (lines : List (List α)) :
    second.run (path.map φ) (lines.map (List.map φ)) =
      ((first.run path lines).map (List.map ψ)).mapError (Failure.map φ) := by
  rw [run, run, hmaps.expandLinesAfter_map h, hmaps.enclose_map]

end Pipeline.Maps

namespace Letter.Keeps

variable [Letter α] [Letter β] {φ : α → β} (h : Keeps φ)
include h

theorem maps_init : Pipeline.Maps φ (List.map φ) Pipeline.init Pipeline.init where
  opening := rfl
  expand definition := by
    simp [Pipeline.init, Except.map, Except.mapError, h.initLine_map]
  closing := rfl

theorem maps_asm (mode : Selector) :
    Pipeline.Maps φ (List.map φ) (Pipeline.asm mode) (Pipeline.asm mode) := by
  rw [Pipeline.asm, Pipeline.asm, Fragment.resolveMode, Fragment.resolveMode]
  cases mode.mode? with
  | none => exact ⟨rfl, fun _ => rfl, rfl⟩
  | some mode =>
    have htexts : ∀ texts : List Text,
        texts.map (ofText : Text → List β) = (texts.map ofText).map (List.map φ) := by
      intro texts
      rw [List.map_map]
      exact List.map_congr_left fun text _ => (h.ofText_map text).symm
    exact ⟨congrArg Except.ok (htexts _), h.trampoline_map mode, htexts _⟩

variable [DecidableEq α] [DecidableEq β]

/-- **What is generated does not depend on the kind of letters.** -/
theorem generate_map (path : List α) (lines : List (List α)) (kind mode : Selector) :
    generate (path.map φ) (lines.map (List.map φ)) kind mode =
      ((generate path lines kind mode).map (List.map φ)).mapError (Failure.map φ) := by
  have hrun : ∀ (first : Pipeline (List α) α) (second : Pipeline (List β) β),
      Pipeline.Maps φ (List.map φ) first second →
        (second.run (path.map φ) (lines.map (List.map φ))).map unlines =
          (((first.run path lines).map unlines).map (List.map φ)).mapError (Failure.map φ) := by
    intro first second hmaps
    rw [hmaps.run_map h]
    cases first.run path lines with
    | error failure => rfl
    | ok out => exact congrArg Except.ok (h.unlines_map out)
  rw [generate, generate, Pipeline.ofKind, Pipeline.ofKind]
  cases kind.kind? with
  | none => rfl
  | some kind =>
    cases kind with
    | asm => exact hrun _ _ (h.maps_asm mode)
    | init => exact hrun _ _ h.maps_init

end Letter.Keeps

end StubVector
