import StubVector.Glob

/-!
# Matching names

Whether the pieces of a component stand for a name. The answer is worked out for all rests of the
name at once, piece by piece from the last, so that the time grows with the product of their
numbers.

* `Glob.accept`: whether pieces stand for a name.
* `Glob.accept_run_cons` and `Glob.accept_cons`: the answer, code point by code point.
-/

namespace StubVector.Glob

/-- Whether a member stands for the code point. -/
def Member.accepts (member : Member) (point : CodePoint) : Bool :=
  match member with
  | one other => point = other
  | range first last => first.value ≤ point.value && point.value ≤ last.value

/-- Whether a piece stands for the code point. -/
def Piece.accepts (piece : Piece) (point : CodePoint) : Bool :=
  match piece with
  | run => false
  | any => true
  | one other => point = other
  | bracket negated members => negated != members.any (·.accepts point)

/-- For every rest of a row of answers, whether one of them is yes. -/
def anyOfRests (answers : List Bool) : List Bool :=
  answers.foldr (fun answer later => (answer || later.headD false) :: later) []

/-- For every rest of the name, the longest first, whether pieces stand for it. -/
def acceptRests : List Piece → WideText → List Bool
  | [], name => name.map (fun _ => false) ++ [true]
  | .run :: pieces, name => anyOfRests (acceptRests pieces name)
  | piece :: pieces, name =>
    name.zipWith (fun point later => piece.accepts point && later) (acceptRests pieces name).tail ++
      [false]

/-- Whether pieces stand for the name. -/
def accept (pieces : List Piece) (name : WideText) : Bool := (acceptRests pieces name).headD false

/-! ## Code point by code point -/

@[simp] theorem length_anyOfRests (answers : List Bool) :
    (anyOfRests answers).length = answers.length := by
  induction answers with
  | nil => rfl
  | cons answer answers ih => simpa [anyOfRests] using ih

@[simp] theorem length_acceptRests (pieces : List Piece) (name : WideText) :
    (acceptRests pieces name).length = name.length + 1 := by
  induction pieces with
  | nil => simp [acceptRests]
  | cons piece pieces ih => cases piece <;> simp [acceptRests, ih]

/-- The answers for the rests of a name are its own answer and those for the rests of what follows
its first code point. -/
theorem acceptRests_cons (pieces : List Piece) (point : CodePoint) (name : WideText) :
    acceptRests pieces (point :: name) =
      accept pieces (point :: name) :: acceptRests pieces name := by
  suffices h : (acceptRests pieces (point :: name)).tail = acceptRests pieces name by
    rw [accept, ← h]
    have hlength := length_acceptRests pieces (point :: name)
    cases hrests : acceptRests pieces (point :: name) with
    | nil => simp [hrests] at hlength
    | cons answer answers => rfl
  induction pieces with
  | nil => simp [acceptRests]
  | cons piece pieces ih =>
    have hlength := length_acceptRests pieces name
    obtain ⟨answer, hrests⟩ : ∃ answer, acceptRests pieces (point :: name) =
        answer :: acceptRests pieces name := by
      have hcons := length_acceptRests pieces (point :: name)
      cases hrests : acceptRests pieces (point :: name) with
      | nil => simp [hrests] at hcons
      | cons answer answers =>
        rw [hrests, List.tail_cons] at ih
        exact ⟨answer, by rw [ih]⟩
    cases hname : acceptRests pieces name with
    | nil => simp [hname] at hlength
    | cons second answers =>
      cases piece <;> simp [acceptRests, anyOfRests, hrests, hname]

/-- No pieces stand for the empty name alone. -/
theorem accept_nil (name : WideText) : accept [] name = name.isEmpty := by
  cases name <;> simp [accept, acceptRests]

/-- A row of any code points may be empty, or start with any code point. -/
theorem accept_run_cons (pieces : List Piece) (point : CodePoint) (name : WideText) :
    accept (.run :: pieces) (point :: name) =
      (accept pieces (point :: name) || accept (.run :: pieces) name) := by
  rw [accept, acceptRests, acceptRests_cons]
  rfl

/-- At the end of a name only an empty row of code points is left. -/
theorem accept_run_nil (pieces : List Piece) : accept (.run :: pieces) [] = accept pieces [] := by
  have hlength := length_acceptRests pieces []
  cases hrests : acceptRests pieces [] with
  | nil => simp [hrests] at hlength
  | cons answer answers =>
    cases answers with
    | nil => simp [accept, acceptRests, anyOfRests, hrests]
    | cons _ _ => simp [hrests] at hlength

/-- Any other piece stands for exactly one code point. -/
theorem accept_cons (piece : Piece) (hpiece : piece ≠ .run) (pieces : List Piece)
    (point : CodePoint) (name : WideText) :
    accept (piece :: pieces) (point :: name) = (piece.accepts point && accept pieces name) := by
  have htail : (acceptRests pieces (point :: name)).tail = acceptRests pieces name := by
    rw [acceptRests_cons, List.tail_cons]
  cases hrests : acceptRests pieces name with
  | nil =>
    have hlength := length_acceptRests pieces name
    simp [hrests] at hlength
  | cons answer answers =>
    cases piece with
    | run => exact absurd rfl hpiece
    | _ => simp [accept, acceptRests, htail, hrests]

/-- Any other piece stands for no empty name. -/
theorem accept_cons_nil (piece : Piece) (hpiece : piece ≠ .run) (pieces : List Piece) :
    accept (piece :: pieces) [] = false := by
  cases piece with
  | run => exact absurd rfl hpiece
  | _ => simp [accept, acceptRests]

end StubVector.Glob
