import StubVector.Text.Lowercase
import StubVector.Text.Wide

/-!
# Lower case of wide text

Half of a pair has no case, and the letters on its two sides are no neighbours.

* `WideText.lowercase`: the lower-case form of a wide text.
* `WideText.lowercase_ofText`: without halves, it is that of the text.
-/

namespace StubVector.WideText

/-- The text before the first half of a pair, and every half with the text after it. -/
def pieces : WideText → Text × List (Fin 0x800 × Text)
  | [] => ([], [])
  | .char c :: wide => ((c :: (pieces wide).1), (pieces wide).2)
  | .half offset :: wide => ([], (offset, (pieces wide).1) :: (pieces wide).2)

/-- The lower-case form of a wide text. -/
def lowercase (wide : WideText) : WideText :=
  ofText (Text.lowercase (pieces wide).1) ++
    (pieces wide).2.flatMap fun (offset, text) => .half offset :: ofText (Text.lowercase text)

/-- A text is one piece. -/
@[simp] theorem pieces_ofText (text : Text) : pieces (ofText text) = (text, []) := by
  induction text with
  | nil => rfl
  | cons c text ih => simp [pieces, ih]

/-- The lower-case form of a text is that of the text as wide text. -/
@[simp] theorem lowercase_ofText (text : Text) :
    lowercase (ofText text) = ofText (Text.lowercase text) := by
  simp [lowercase]

end StubVector.WideText
