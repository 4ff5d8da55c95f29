import StubVector.Text

/-!
# Stub definitions

A stub header assigns to every stub a slot of the stub vector and the function that the slot calls.
Their names are text of characters, unless other letters are named.
-/

namespace StubVector

/-- A line of a header, and where it stands. -/
structure SourceLine (α : Type := Char) where
  path : List α
  lineNumber : Int
  text : List α
  deriving DecidableEq, Repr

/-- A stub: its symbol, its slot in the stub vector, and the function behind it. -/
structure Definition (α : Type := Char) where
  symbol : List α
  index : Int
  functionName : List α
  /-- The function is reached under the symbol itself, so that the stub routine declares no alias.
  -/
  isMapped : Bool
  source : Option (SourceLine α) := none
  deriving DecidableEq, Repr

/-- The path under which text that comes from no file is reported. -/
def memoryPath : Text := "<memory>".toList

end StubVector
