import StubVector.Text.Quoted

/-!
# Output kinds and dispatch modes

What is generated, and how a stub routine finds the stub vector. A request names either of them by a
`Selector`: a member of one of the two enumerations, or a text.

* `Selector.kind?` and `Selector.mode?`: the member that a selector names, if it names one. A text
  names the member whose name it is, letter for letter; a member of the other enumeration names
  none.
* `Selector.describe`: how messages show a selector that names nothing.
-/

namespace StubVector

/-- What is generated from a header. -/
inductive OutputKind where
  /-- The stub routines of a plugin, in assembly. -/
  | asm
  /-- The statements of the base plugin that fill the stub vector. -/
  | init
  deriving DecidableEq, Repr

/-- How a stub routine finds the stub vector. -/
inductive DispatchMode where
  /-- Through the anchor that general purpose register 12 leads to. -/
  | r12
  /-- Through the first entry of the vector table. -/
  | zvte
  deriving DecidableEq, Repr

namespace OutputKind

/-- The name of an output kind on the command line. -/
def name : OutputKind → Text
  | asm => "asm".toList
  | init => "init".toList

/-- The output kinds, in the order in which they are offered. -/
def all : List OutputKind := [asm, init]

/-- The output kind of that name. -/
def ofName? (text : Text) : Option OutputKind := all.find? (·.name = text)

theorem ofName?_name (kind : OutputKind) : ofName? kind.name = some kind := by
  cases kind <;> rfl

end OutputKind

namespace DispatchMode

/-- The name of a dispatch mode on the command line. -/
def name : DispatchMode → Text
  | r12 => "r12".toList
  | zvte => "zvte".toList

/-- The dispatch modes, in the order in which they are offered. -/
def all : List DispatchMode := [r12, zvte]

/-- The dispatch mode of that name. -/
def ofName? (text : Text) : Option DispatchMode := all.find? (·.name = text)

theorem ofName?_name (mode : DispatchMode) : ofName? mode.name = some mode := by
  cases mode <;> rfl

end DispatchMode

/-- What a request names as its output kind or its dispatch mode. -/
inductive Selector where
  | text (given : Text)
  | kind (member : OutputKind)
  | mode (member : DispatchMode)
  deriving DecidableEq, Repr

namespace Selector

/-- The output kind that the selector names. -/
def kind? : Selector → Option OutputKind
  | text given => OutputKind.ofName? given
  | kind member => some member
  | mode _ => none

/-- The dispatch mode that the selector names. -/
def mode? : Selector → Option DispatchMode
  | text given => DispatchMode.ofName? given
  | kind _ => none
  | mode member => some member

/-- The selector as messages show it. -/
def describe : Selector → Text
  | text given => Text.quoted given
  | kind .asm => "<OutputKind.ASM: 'asm'>".toList
  | kind .init => "<OutputKind.INIT: 'init'>".toList
  | mode .r12 => "<DispatchMode.R12: 'r12'>".toList
  | mode .zvte => "<DispatchMode.ZVTE: 'zvte'>".toList

end Selector

end StubVector
