import StubVector.Pipeline

/-!
# Delivery on demand

A cursor delivers the pieces of a pipeline one at a time, and takes a line of the header only when
it needs one. The pieces of a definition are computed together, when the first of them is asked for.
Nothing is delivered after a failure.

* `Cursor.next`: the next delivery, and the cursor after it.
* `Cursor.pulls`: the first deliveries, each with the number of lines that were taken by then.
-/

namespace StubVector

/-- What a cursor delivers. -/
inductive Delivery (β : Type) where
  | piece (value : β)
  | failed (failure : Failure)
  | finished
  deriving Repr

/-- What a cursor does when no piece is ready. -/
inductive Phase where
  /-- The opening pieces are due. -/
  | opening
  /-- The next definition is due. -/
  | body
  /-- Nothing is due. -/
  | over
  deriving DecidableEq, Repr

/-- The state of a delivery on demand. -/
structure Cursor (β : Type) where
  /-- Pieces that are computed but not delivered. -/
  ready : List β := []
  /-- Lines that are not taken. -/
  lines : List Text
  /-- The number of lines that are taken. -/
  taken : Nat := 0
  phase : Phase := .opening
  deriving Repr

namespace Cursor

variable {β : Type}

/-- A cursor before its first delivery. -/
def start (lines : List Text) : Cursor β := { lines }

/-- The delivery after the last line: the first of the closing pieces. -/
def close (pipeline : Pipeline β) (taken : Nat) : Delivery β × Cursor β :=
  match pipeline.closing with
  | [] => (.finished, { lines := [], taken, phase := .over })
  | piece :: ready => (.piece piece, { ready, lines := [], taken, phase := .over })

/-- Takes lines up to the next definition with pieces and delivers the first of them. -/
def advance (pipeline : Pipeline β) (path : Text) :
    (taken : Nat) → (lines : List Text) → Delivery β × Cursor β
  | taken, [] => close pipeline taken
  | taken, line :: lines =>
    match Line.parse line (Header.sourceLine path taken line) with
    | .error failure => (.failed failure, { lines, taken := taken + 1, phase := .over })
    | .ok found =>
      match pipeline.expandAll found.toList with
      | .error failure => (.failed failure, { lines, taken := taken + 1, phase := .over })
      | .ok [] => advance pipeline path (taken + 1) lines
      | .ok (piece :: ready) => (.piece piece, { ready, lines, taken := taken + 1, phase := .body })

/-- The next delivery, and the cursor after it. -/
def next (pipeline : Pipeline β) (path : Text) (cursor : Cursor β) : Delivery β × Cursor β :=
  match cursor.ready, cursor.phase with
  | piece :: ready, _ => (.piece piece, { cursor with ready })
  | [], .opening =>
    match pipeline.opening with
    | .error failure => (.failed failure, { cursor with phase := .over })
    | .ok [] => advance pipeline path cursor.taken cursor.lines
    | .ok (piece :: ready) => (.piece piece, { cursor with ready, phase := .body })
  | [], .body => advance pipeline path cursor.taken cursor.lines
  | [], .over => (.finished, cursor)

/-- The first `count` deliveries, each with the number of lines that were taken by then. -/
def pulls (pipeline : Pipeline β) (path : Text) : (count : Nat) → Cursor β → List (Delivery β × Nat)
  | 0, _ => []
  | count + 1, cursor =>
    let (delivery, after) := cursor.next pipeline path
    (delivery, after.taken) :: pulls pipeline path count after

end Cursor

end StubVector
