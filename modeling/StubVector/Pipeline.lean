import StubVector.Definition.Header
import StubVector.Fragment

/-!
# Pipelines

A pipeline turns the definitions of a header into pieces of output: pieces before the first
definition, the pieces of every definition, and pieces after the last. Definitions are expanded as
they are read, so the first line that cannot be read or expanded decides the failure.

* `Pipeline.emit`: the pieces for a list of definitions.
* `Pipeline.run`: the pieces for the lines of a header.
* `Pipeline.definitions`, `Pipeline.init`, `Pipeline.asm`: the pipelines of the generator.
* `generate`: the generated text for the lines of a header.
-/

namespace StubVector

/-- How definitions become pieces of output. -/
structure Pipeline (β : Type) (α : Type := Char) where
  /-- The pieces before the first definition. -/
  opening : Except (Failure α) (List β)
  /-- The pieces of one definition. -/
  expand : Definition α → Except (Failure α) (List β)
  /-- The pieces after the last definition. -/
  closing : List β

namespace Pipeline

variable {β α : Type}

/-- The pieces of definitions, one after the other. -/
def expandAll (pipeline : Pipeline β α) : List (Definition α) → Except (Failure α) (List β)
  | [] => .ok []
  | definition :: definitions =>
    match pipeline.expand definition with
    | .error failure => .error failure
    | .ok pieces => (pipeline.expandAll definitions).map (pieces ++ ·)

/-- The pieces of `body` between the opening and the closing ones. -/
def enclose (pipeline : Pipeline β α) (body : Except (Failure α) (List β)) :
    Except (Failure α) (List β) :=
  match pipeline.opening with
  | .error failure => .error failure
  | .ok opening => body.map fun pieces => opening ++ pieces ++ pipeline.closing

/-- The pieces for a list of definitions. -/
def emit (pipeline : Pipeline β α) (definitions : List (Definition α)) :
    Except (Failure α) (List β) :=
  pipeline.enclose (pipeline.expandAll definitions)

/-- Delivers the definitions themselves (`parse_stub_definitions`). -/
def definitions : Pipeline (Definition α) α where
  opening := .ok []
  expand definition := .ok [definition]
  closing := []

/-- Delivers nothing but a failure. -/
def failing (failure : Failure α) : Pipeline β α where
  opening := .error failure
  expand _ := .error failure
  closing := []

variable [Letter α]

/-- Delivers the statements that fill the stub vector (`emit_init_lines`). -/
def init : Pipeline (List α) α where
  opening := .ok []
  expand definition := .ok [Fragment.initLine definition]
  closing := []

/-- Delivers the stub routines for a dispatch mode. -/
def routines (mode : DispatchMode) : Pipeline (List α) α where
  opening := .ok (Fragment.asmOpening.map Letter.ofText)
  expand := Fragment.trampoline mode
  closing := Fragment.asmClosing.map Letter.ofText

/-- Delivers the stub routines; an unknown dispatch mode shows at the first delivery
(`emit_asm_lines`). -/
def asm (mode : Selector) : Pipeline (List α) α :=
  match Fragment.resolveMode mode with
  | .ok mode => routines mode
  | .error failure => failing failure

/-- The pipeline of an output kind. The dispatch mode is looked at for stub routines only. -/
def ofKind (kind mode : Selector) : Except (Failure α) (Pipeline (List α) α) :=
  match kind.kind? with
  | some .asm => .ok (asm mode)
  | some .init => .ok init
  | none => .error (.unknownKind kind)

variable [DecidableEq α]

/-- The pieces for the definitions on lines that follow `before` lines of the same file. -/
def expandLinesAfter (pipeline : Pipeline β α) (path : List α) :
    (before : Nat) → List (List α) → Except (Failure α) (List β)
  | _, [] => .ok []
  | before, line :: lines =>
    match Line.parse line (Header.sourceLine path before line) with
    | .error failure => .error failure
    | .ok found =>
      match pipeline.expandAll found.toList with
      | .error failure => .error failure
      | .ok pieces => (pipeline.expandLinesAfter path (before + 1) lines).map (pieces ++ ·)

/-- The pieces for the lines of a header. -/
def run (pipeline : Pipeline β α) (path : List α) (lines : List (List α)) :
    Except (Failure α) (List β) :=
  pipeline.enclose (pipeline.expandLinesAfter path 0 lines)

end Pipeline

variable {α : Type} [Letter α]

/-- The lines of output for a list of definitions (`emit_lines`). -/
def emitLines (definitions : List (Definition α)) (kind mode : Selector) :
    Except (Failure α) (List (List α)) :=
  (Pipeline.ofKind kind mode).bind (·.emit definitions)

variable [DecidableEq α]

/-- The generated text for the lines of a header (`generate`). -/
def generate (path : List α) (lines : List (List α)) (kind mode : Selector) :
    Except (Failure α) (List α) :=
  ((Pipeline.ofKind kind mode).bind (·.run path lines)).map Text.unlines

end StubVector
