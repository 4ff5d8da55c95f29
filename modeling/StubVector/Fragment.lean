import StubVector.Failure

/-!
# Fragments of the output

What one definition contributes to each kind of output, and what stands around the stub routines.

* `initLine`: the statement that stores a function in its slot of the stub vector.
* `trampoline`: the routine that loads its target from the stub vector and branches to it.
* `slotOffset`: the displacement of a slot; it has to fit the 20-bit signed displacement of a load.
* `asmOpening`, `asmClosing`: the lines before the first routine and after the last one.
-/

namespace StubVector.Fragment

open Text

open Letter (ofText)

variable {α : Type} [Letter α]

/-- The width of the label column. -/
def labelWidth : Nat := 8

/-- The size of a slot of the stub vector. -/
def pointerSize : Int := 8

/-- The greatest displacement of a load instruction. -/
def maxOffset : Int := 0x7FFFF

/-- The symbol cut or padded to the label column (`_label`). -/
def label (symbol : List α) : List α := padRight labelWidth (symbol.take labelWidth)

/-- A line without a label. -/
def unlabelled (instruction : List α) : List α :=
  List.replicate (labelWidth + 1) (Letter.ofChar ' ') ++ instruction

/-- A line with the label of a symbol. -/
def labelled (symbol instruction : List α) : List α := label symbol ++ ofText [' '] ++ instruction

/-- The statement that stores a function in its slot of the stub vector (`emit_init_line`). -/
def initLine (definition : Definition α) : List α :=
  ofText "    stubVector[ZIS_STUB_".toList ++ label definition.symbol ++
    ofText "] = (void*)".toList ++ definition.functionName ++ ofText [';']

/-- Where a definition is reported: at its source line, or by its symbol alone. -/
def place (definition : Definition α) : SourceLine α :=
  definition.source.getD { path := ofText memoryPath, lineNumber := 0, text := definition.symbol }

/-- The displacement of a slot in the stub vector (`_vector_offset`). -/
def slotOffset (definition : Definition α) : Except (Failure α) Int :=
  let offset := definition.index * pointerSize
  if maxOffset < offset then .error (.faulty .indexOutOfRange (place definition)) else .ok offset

/-- The instructions that load the address of the stub vector into register 15
(`dispatch_prologue`). -/
def dispatch : DispatchMode → List Text
  | .r12 => [
      "LLGT 15,X'2A8'(,12)   Get the (R)LE CAA's RLETask".toList,
      "LLGT 15,X'38'(,15)   Get the RLETasks RLEAnchor".toList,
      "LG   15,X'18'(,15)   Get the Stub Vector ".toList]
  | .zvte => [
      "LLGT 15,16(0,0)       CVT".toList,
      "LLGT 15,X'8C'(,15)    ECVT".toList,
      "LLGT 15,X'CC'(,15)    CSRCTABL".toList,
      "LLGT 15,X'23C'(,15)   ZVT".toList,
      "LLGT 15,X'9C'(,15)    FIRST ZVTE (the ZIS)".toList,
      "LG   15,X'80'(,15)    ZIS STUB VECTOR".toList]

/-- The instructions of `dispatch` as lines: the first has the label of the routine. -/
def dispatchLines (symbol : List α) (mode : DispatchMode) : List (List α) :=
  match dispatch mode with
  | [] => []
  | first :: rest => labelled symbol (ofText first) :: rest.map fun line => unlabelled (ofText line)

/-- The declaration of the name behind a routine, which a mapped function does not need. -/
def aliasLines (definition : Definition α) : List (List α) :=
  if definition.isMapped then []
  else [labelled definition.symbol
    (ofText "ALIAS C'".toList ++ definition.functionName ++ ofText ['\''])]

/-- The instruction that loads the target from the slot at a displacement. -/
def loadLine (symbol : List α) (offset : Int) : List α :=
  unlabelled (ofText ("LG   15,X'".toList ++ upperHex 2 offset ++ "'(,15)    ".toList) ++ symbol)

/-- The routine that loads its target from the stub vector and branches to it
(`emit_trampoline`). -/
def trampoline (mode : DispatchMode) (definition : Definition α) :
    Except (Failure α) (List (List α)) :=
  (slotOffset definition).map fun offset =>
    [unlabelled (ofText "ENTRY ".toList ++ definition.symbol)] ++ aliasLines definition ++
      dispatchLines definition.symbol mode ++
      [loadLine definition.symbol offset, unlabelled (ofText "BR   15".toList)]

/-- The lines before the first routine. -/
def asmOpening : List Text := [
  "         TITLE 'ZISSTUBS'".toList,
  "         ACONTROL AFPR".toList,
  "ZISSTUBS CSECT".toList,
  "ZISSTUBS AMODE 64".toList,
  "ZISSTUBS RMODE ANY".toList,
  "         SYSSTATE ARCHLVL=2,AMODE64=YES".toList,
  "         IEABRCX DEFINE".toList,
  ".* The HLASM GOFF option is needed to assemble this program".toList]

/-- The lines after the last routine. -/
def asmClosing : List Text := [
  "         EJECT".toList,
  "ZISSTUBS CSECT ,".toList,
  "         END".toList]

/-- The dispatch mode that a selector names. -/
def resolveMode (selector : Selector) : Except (Failure α) DispatchMode :=
  match selector.mode? with
  | some mode => .ok mode
  | none => .error (.unknownMode selector)

end StubVector.Fragment
