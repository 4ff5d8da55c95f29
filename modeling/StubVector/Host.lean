import StubVector.Charset

/-!
# Hosts

What the programs of this library find on the system that they run on: the charsets that it knows,
and a console that prints their text. Every console prints all characters; what it makes of halves
of pairs is its own.

* `Console.strict`: a console that stores what it prints in UTF-8.
* `Console.printLines`: what is printed of lines until one of them is refused.
* `Host.strict`, `Host.lenient`: hosts with the charsets of this library.
-/

namespace StubVector

/-- What prints the text of a program. -/
structure Console where
  /-- The halves for which a text is not printed. -/
  refused? : WideText → Option HalfRow
  refused?_ofText : ∀ text : Text, refused? (.ofText text) = none

/-- What a system gives to the programs that run on it. -/
structure Host where
  charsets : Charsets
  console : Console

namespace Console

/-- A console that refuses text with halves, which UTF-8 cannot store. -/
def strict : Console where
  refused? := WideText.firstRow? (·.char?.isSome)
  refused?_ofText := WideText.firstRow?_ofText fun _ => rfl

/-- A console that prints every text. -/
def lenient : Console where
  refused? _ := none
  refused?_ofText _ := rfl

variable (console : Console)

/-- What is printed of lines, and what is refused of the line at which printing ends. -/
def printLines : List WideText → WideText × Option HalfRow
  | [] => ([], none)
  | line :: lines =>
    match console.refused? line with
    | some halves => ([], some halves)
    | none =>
      let (text, refused) := printLines lines
      (line ++ ['\n'] ++ text, refused)

/-- Lines of which none is refused are all printed. -/
theorem printLines_of_forall {console : Console} {lines : List WideText}
    (h : ∀ line ∈ lines, console.refused? line = none) :
    console.printLines lines = (Text.unlines lines, none) := by
  induction lines with
  | nil => rfl
  | cons line lines ih =>
    obtain ⟨hline, hlines⟩ := List.forall_mem_cons.mp h
    rw [printLines, hline, ih hlines]
    rfl

end Console

namespace Host

/-- A host with the charsets of this library, whose console stores what it prints in UTF-8. -/
def strict : Host := { charsets := Charset.registry, console := .strict }

/-- A host with the charsets of this library, whose console prints every text. -/
def lenient : Host := { charsets := Charset.registry, console := .lenient }

end Host

end StubVector
