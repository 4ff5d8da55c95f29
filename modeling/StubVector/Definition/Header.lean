import StubVector.Definition.Line
import StubVector.Text.Lines

/-!
# Headers

The definitions of a header are those of its lines, in order. The lines are numbered from one; a
line without the marker is skipped, and the first line that cannot be read ends the reading.

* `Header.parseLines`: the definitions on the lines of a header.
* `Header.parseText`: the definitions in the text of a header.
-/

namespace StubVector.Header

variable {α : Type} [DecidableEq α] [Letter α]

/-- The line that follows `before` lines of a file. -/
def sourceLine (path : List α) (before : Nat) (line : List α) : SourceLine α :=
  { path, lineNumber := before + 1, text := line }

/-- The definitions on lines that follow `before` lines of the same file. -/
def parseLinesAfter (path : List α) :
    (before : Nat) → List (List α) → Except (Failure α) (List (Definition α))
  | _, [] => .ok []
  | before, line :: lines =>
    match Line.parse line (sourceLine path before line) with
    | .error failure => .error failure
    | .ok found => (parseLinesAfter path (before + 1) lines).map (found.toList ++ ·)

/-- The definitions on the lines of a header (`parse_stub_definitions`). -/
def parseLines (path : List α) (lines : List (List α)) :
    Except (Failure α) (List (Definition α)) :=
  parseLinesAfter path 0 lines

/-- The definitions in the text of a header (`parse_header_text`). -/
def parseText (path text : Text) : Except Failure (List Definition) :=
  parseLines path (Text.splitLines text)

end StubVector.Header
