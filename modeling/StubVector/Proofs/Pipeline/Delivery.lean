import StubVector.Pipeline.Cursor
import StubVector.Proofs.Pipeline.Offence

/-!
# Deliveries on demand

A cursor delivers what a run gives, piece by piece, and takes no line before it has to. How many
lines are taken at a delivery is told by what is delivered: the opening pieces need no line, the
pieces of a definition need the lines up to its own, and the closing pieces need all lines.

* `Cursor.Delivers`: every pull of a cursor, as a list of steps and what follows them.
* `Cursor.delivers_next`: one pull, from which the other lemmas about `Delivers` follow.
* `Cursor.exists_delivers_append`: the lines in front of which no line offends, by induction.
* `Pipeline.KeepsStep`: pulling a pipeline keeps step with its run.
* `pulls_keep_step`: all pipelines of the generator do.
-/

namespace StubVector

open Fragment

variable {β : Type}

/-- The piece that is delivered, if it is one. -/
def Delivery.piece? : Delivery β → Option β
  | .piece value => some value
  | _ => none

/-- Pieces that are delivered while `taken` lines are taken. -/
def piecesAt (taken : Nat) (pieces : List β) : List (Delivery β × Nat) :=
  pieces.map fun value => (.piece value, taken)

/-- The number of the line that a definition stands on. -/
def Definition.lineNumber (definition : Definition) : Nat := (place definition).lineNumber.toNat

/-- The pieces of a definition, delivered while the lines up to its own are taken. -/
def Pipeline.deliveries (pipeline : Pipeline β) (definition : Definition) :
    List (Delivery β × Nat) :=
  match pipeline.expand definition with
  | .ok pieces => piecesAt definition.lineNumber pieces
  | .error _ => []

theorem filterMap_piecesAt (taken : Nat) (pieces : List β) :
    (piecesAt taken pieces).filterMap (·.1.piece?) = pieces := by
  rw [piecesAt, List.filterMap_map]
  exact List.filterMap_some

/-- The deliveries of definitions are their pieces. -/
theorem Pipeline.filterMap_deliveries {pipeline : Pipeline β} {definitions : List Definition}
    {body : List β} (h : pipeline.expandAll definitions = .ok body) :
    (definitions.flatMap pipeline.deliveries).filterMap (·.1.piece?) = body := by
  induction definitions generalizing body with
  | nil =>
    cases h
    rfl
  | cons definition definitions ih =>
    obtain ⟨pieces, rest, hpieces, hrest, rfl⟩ := pipeline.expandAll_cons_eq_ok_iff.mp h
    rw [List.flatMap_cons, List.filterMap_append, ih hrest, deliveries, hpieces]
    exact congrArg (· ++ rest) (filterMap_piecesAt _ pieces)

namespace Cursor

variable {pipeline : Pipeline β} {path : Text} {cursor after : Cursor β}
  {steps : List (Delivery β × Nat)} {stop : Nat} {delivery : Delivery β}

/-! ## Pulling -/

/-- However often it is pulled, the cursor delivers the steps in order, and nothing after them; then
`stop` lines are taken and no more. -/
def Delivers (pipeline : Pipeline β) (path : Text) (cursor : Cursor β)
    (steps : List (Delivery β × Nat)) (stop : Nat) : Prop :=
  ∀ count, pulls pipeline path count cursor =
    (steps ++ List.replicate count (Delivery.finished, stop)).take count

/-- One pull, and what the cursor after it delivers. -/
theorem delivers_next (hnext : cursor.next pipeline path = (delivery, after))
    (h : Delivers pipeline path after steps stop) :
    Delivers pipeline path cursor ((delivery, after.taken) :: steps) stop := by
  intro count
  cases count with
  | zero => rfl
  | succ count =>
    have hend : (steps ++ List.replicate count (Delivery.finished, stop)).take count =
        (steps ++ List.replicate (count + 1) (Delivery.finished, stop)).take count := by
      rw [List.take_append, List.take_append, List.take_replicate, List.take_replicate]
      congr 2
      omega
    rw [pulls, hnext, List.cons_append, List.take_succ_cons, ← hend, ← h count]

/-- A cursor that is over delivers nothing. -/
theorem delivers_over (hready : cursor.ready = []) (hphase : cursor.phase = .over) :
    Delivers pipeline path cursor [] cursor.taken := by
  have hnext : cursor.next pipeline path = (.finished, cursor) := by
    rw [next, hready, hphase]
  intro count
  induction count with
  | zero => rfl
  | succ count ih =>
    rw [pulls, hnext, List.nil_append, List.replicate_succ, List.take_succ_cons]
    exact congrArg (_ :: ·) ih

/-- Where the next pull finds nothing, there is nothing to deliver. -/
theorem delivers_nil_of_next (hnext : cursor.next pipeline path = (.finished, after))
    (hready : after.ready = []) (hphase : after.phase = .over) :
    Delivers pipeline path cursor [] after.taken := by
  intro count
  cases count with
  | zero => rfl
  | succ count =>
    have hafter : Delivers pipeline path after [] after.taken := delivers_over hready hphase
    rw [pulls, hnext, List.nil_append, List.replicate_succ, List.take_succ_cons]
    exact congrArg (_ :: ·) (hafter count)

/-- Pieces that are ready are delivered first, and no line is taken for them. -/
theorem delivers_ready {lines : List Text} {taken : Nat} {phase : Phase} (pieces : List β)
    (h : Delivers pipeline path { lines, taken, phase } steps stop) :
    Delivers pipeline path { ready := pieces, lines, taken, phase }
      (piecesAt taken pieces ++ steps) stop := by
  induction pieces with
  | nil => exact h
  | cons value pieces ih =>
    have hnext : next pipeline path { ready := value :: pieces, lines, taken, phase } =
        (.piece value, { ready := pieces, lines, taken, phase }) := rfl
    have hstep := delivers_next hnext ih
    exact hstep

/-- What is pulled of a cursor is a beginning of what it delivers. -/
theorem Delivers.pieces_prefix (h : Delivers pipeline path cursor steps stop) (count : Nat) :
    (pulls pipeline path count cursor).filterMap (·.1.piece?) <+:
      steps.filterMap (·.1.piece?) := by
  have hnothing : (List.replicate count ((.finished : Delivery β), stop)).filterMap
      (·.1.piece?) = [] := by
    rw [List.filterMap_eq_nil_iff]
    intro step hstep
    rw [List.eq_of_mem_replicate hstep]
    rfl
  have hprefix := (List.take_prefix count
    (steps ++ List.replicate count (.finished, stop))).filterMap (·.1.piece?)
  rw [List.filterMap_append, hnothing, List.append_nil] at hprefix
  rw [h count]
  exact hprefix

/-! ## Taking lines -/

theorem advance_cons (taken : Nat) (line : Text) (lines : List Text) :
    advance pipeline path taken (line :: lines) =
      match pipeline.expandLine (Header.sourceLine path taken line) with
      | .error failure => (.failed failure, { lines, taken := taken + 1, phase := .over })
      | .ok [] => advance pipeline path (taken + 1) lines
      | .ok (value :: ready) =>
        (.piece value, { ready, lines, taken := taken + 1, phase := .body }) := by
  have htext : (Header.sourceLine path taken line).text = line := rfl
  rw [advance, Pipeline.expandLine, htext]
  cases Line.parse line (Header.sourceLine path taken line) with
  | error failure => rfl
  | ok found => rfl

/-- The cursor delivers the steps once the lines from here on are due. -/
def DeliversFrom (pipeline : Pipeline β) (path : Text) (taken : Nat) (lines : List Text)
    (steps : List (Delivery β × Nat)) (stop : Nat) : Prop :=
  ∀ cursor : Cursor β, cursor.next pipeline path = advance pipeline path taken lines →
    Delivers pipeline path cursor steps stop

/-- After the last line the closing pieces are delivered. -/
theorem deliversFrom_nil (taken : Nat) :
    DeliversFrom pipeline path taken [] (piecesAt taken pipeline.closing) taken := by
  intro cursor hnext
  rw [advance, close] at hnext
  cases hclosing : pipeline.closing with
  | nil =>
    rw [hclosing] at hnext
    exact delivers_nil_of_next hnext rfl rfl
  | cons value closing =>
    rw [hclosing] at hnext
    have hover : Delivers pipeline path { lines := [], taken, phase := .over } [] taken :=
      delivers_over rfl rfl
    have hready := delivers_ready closing hover
    rw [List.append_nil] at hready
    exact delivers_next hnext hready

/-- A line that offends ends the delivery. -/
theorem deliversFrom_cons_of_error {taken : Nat} {line : Text} {lines : List Text}
    {failure : Failure}
    (h : pipeline.expandLine (Header.sourceLine path taken line) = .error failure) :
    DeliversFrom pipeline path taken (line :: lines) [(.failed failure, taken + 1)]
      (taken + 1) := by
  intro cursor hnext
  rw [advance_cons, h] at hnext
  exact delivers_next hnext (delivers_over rfl rfl)

/-- The pieces of a line are delivered with the line taken, and then those of the next lines. -/
theorem deliversFrom_cons_of_ok {taken : Nat} {line : Text} {lines : List Text} {pieces : List β}
    (h : pipeline.expandLine (Header.sourceLine path taken line) = .ok pieces)
    (hrest : DeliversFrom pipeline path (taken + 1) lines steps stop) :
    DeliversFrom pipeline path taken (line :: lines) (piecesAt (taken + 1) pieces ++ steps)
      stop := by
  intro cursor hnext
  rw [advance_cons, h] at hnext
  cases pieces with
  | nil => exact hrest cursor hnext
  | cons value ready =>
    have hbody : Delivers pipeline path { lines, taken := taken + 1, phase := .body } steps stop :=
      hrest _ rfl
    have hready := delivers_ready ready hbody
    exact delivers_next hnext hready

/-- The opening pieces are delivered before a line is taken. -/
theorem delivers_start {opening : List β} {lines : List Text}
    (hopening : pipeline.opening = .ok opening)
    (h : DeliversFrom pipeline path 0 lines steps stop) :
    Delivers pipeline path (start lines) (piecesAt 0 opening ++ steps) stop := by
  cases opening with
  | nil =>
    refine h _ ?_
    rw [next, start, hopening]
  | cons value ready =>
    have hnext : (start lines).next pipeline path =
        (.piece value, { ready, lines, taken := 0, phase := .body }) := by
      rw [next, start, hopening]
    have hbody : Delivers pipeline path { lines, taken := 0, phase := .body } steps stop :=
      h _ rfl
    have hready := delivers_ready ready hbody
    exact delivers_next hnext hready

/-! ## Lines that do not offend -/

variable {reach : Definition → Prop}

/-- The pieces of a line that is clean are the deliveries of the definition on it. -/
theorem exists_expandLine_of_clean (hserves : pipeline.Serves reach) {before : Nat} {line : Text}
    (hclean : Clean reach (Header.sourceLine path before line)) :
    ∃ found pieces, Line.parse line (Header.sourceLine path before line) = .ok found ∧
      pipeline.expandAll found.toList = .ok pieces ∧
      pipeline.expandLine (Header.sourceLine path before line) = .ok pieces ∧
      found.toList.flatMap pipeline.deliveries = piecesAt (before + 1) pieces := by
  cases hline : pipeline.expandLine (Header.sourceLine path before line) with
  | error failure =>
    exact absurd ((Pipeline.expandLine_eq_error_iff hserves).mp hline) (hclean failure)
  | ok pieces =>
    have hexpand := hline
    have htext : (Header.sourceLine path before line).text = line := rfl
    rw [Pipeline.expandLine, htext] at hexpand
    cases hparse : Line.parse line (Header.sourceLine path before line) with
    | error failure =>
      rw [hparse] at hexpand
      cases hexpand
    | ok found =>
      rw [hparse] at hexpand
      refine ⟨found, pieces, rfl, hexpand, rfl, ?_⟩
      cases found with
      | none =>
        cases hexpand
        rfl
      | some definition =>
        obtain ⟨own, none', hown, hnone, rfl⟩ := pipeline.expandAll_cons_eq_ok_iff.mp hexpand
        cases hnone
        have hnumber : definition.lineNumber = before + 1 := by
          rw [Definition.lineNumber, place, Line.source_of_parse hparse]
          exact Int.toNat_natCast (before + 1)
        rw [Option.toList_some, List.flatMap_singleton, Pipeline.deliveries, hown, hnumber,
          List.append_nil]

/-- **Clean lines.** As long as no line offends, the definitions on the lines are delivered one
after the other, and then what the next lines give. -/
theorem exists_delivers_append (hserves : pipeline.Serves reach) {before : Nat} {front : List Text}
    (hclean : ∀ source ∈ Header.sourceLinesAfter path before front, Clean reach source) :
    ∃ definitions body, Header.parseLinesAfter path before front = .ok definitions ∧
      pipeline.expandAll definitions = .ok body ∧
      ∀ back steps stop, DeliversFrom pipeline path (before + front.length) back steps stop →
        DeliversFrom pipeline path before (front ++ back)
          (definitions.flatMap pipeline.deliveries ++ steps) stop := by
  induction front generalizing before with
  | nil => exact ⟨[], [], rfl, rfl, fun back steps stop h => h⟩
  | cons line front ih =>
    rw [Header.sourceLinesAfter_cons, List.forall_mem_cons] at hclean
    obtain ⟨found, pieces, hparse, hpieces, hline, hown⟩ :=
      exists_expandLine_of_clean hserves hclean.1
    obtain ⟨definitions, body, hread, hbody, hdelivers⟩ := ih hclean.2
    refine ⟨found.toList ++ definitions, pieces ++ body,
      Header.parseLinesAfter_cons_eq_ok_iff.mpr ⟨found, definitions, hparse, hread, rfl⟩,
      pipeline.expandAll_append_eq_ok_iff.mpr ⟨pieces, body, hpieces, hbody, rfl⟩, ?_⟩
    intro back steps stop h
    have hlength : before + (line :: front).length = before + 1 + front.length := by
      rw [List.length_cons]
      omega
    rw [hlength] at h
    rw [List.flatMap_append, hown, List.append_assoc]
    exact deliversFrom_cons_of_ok hline (hdelivers back steps stop h)

/-- Where `n` lines are clean and the next one offends, these are the lines. -/
theorem exists_lines_of_firstOffence {lines : List Text} {n : Nat} {failure : Failure}
    (h : FirstOffence reach (Header.sourceLines path lines) n failure) :
    ∃ line back, lines = lines.take n ++ line :: back ∧ (lines.take n).length = n ∧
      (∀ source ∈ Header.sourceLines path (lines.take n), Clean reach source) ∧
      Offence reach (Header.sourceLine path n line) failure := by
  obtain ⟨line, hline, hoffence⟩ := firstOffence_sourceLines h
  obtain ⟨hn, rfl⟩ := List.getElem?_eq_some_iff.mp hline
  refine ⟨lines[n], lines.drop (n + 1), ?_, List.length_take_of_le hn.le, ?_, hoffence⟩
  · rw [← List.drop_eq_getElem_cons hn, List.take_append_drop]
  · intro source hsource
    obtain ⟨m, hm⟩ := List.getElem?_of_mem hsource
    obtain ⟨earlier, hearlier, rfl⟩ := Header.getElem?_sourceLines_eq_some_iff.mp hm
    have hlt : m < n := by
      have hlength := (List.getElem?_eq_some_iff.mp hearlier).1
      rw [List.length_take] at hlength
      omega
    rw [List.getElem?_take_of_lt hlt] at hearlier
    exact h.clean_before m hlt _
      (Header.getElem?_sourceLines_eq_some_iff.mpr ⟨earlier, hearlier, rfl⟩)

end Cursor

/-! ## In step with the run -/

open Cursor

/-- Pulling the pipeline keeps step with its run, which fails exactly with the first offence.

If the run succeeds, its pieces are delivered: the opening ones while no line is taken, those of
each definition while the lines up to its own are taken, and the closing ones while all lines are
taken, which they still are at the end. If the line after the first `n` is the first that offends,
the definitions on these `n` lines are delivered in the same way, then the failure with that line
taken, and then nothing. -/
structure Pipeline.KeepsStep (pipeline : Pipeline β) (reach : Definition → Prop)
    (opening : List β) : Prop where
  fails_iff : ∀ path lines failure, pipeline.run path lines = .error failure ↔
    ∃ n, FirstOffence reach (Header.sourceLines path lines) n failure
  whole : ∀ path lines out, pipeline.run path lines = .ok out →
    ∃ definitions body, Header.parseLines path lines = .ok definitions ∧
      pipeline.expandAll definitions = .ok body ∧ out = opening ++ body ++ pipeline.closing ∧
      Delivers pipeline path (start lines)
        (piecesAt 0 opening ++ definitions.flatMap pipeline.deliveries ++
          piecesAt lines.length pipeline.closing) lines.length ∧
      ∀ count, (pulls pipeline path count (start lines)).filterMap (·.1.piece?) <+: out
  failing : ∀ path lines n failure,
    FirstOffence reach (Header.sourceLines path lines) n failure →
    ∃ definitions body, Header.parseLines path (lines.take n) = .ok definitions ∧
      pipeline.expandAll definitions = .ok body ∧
      Delivers pipeline path (start lines)
        (piecesAt 0 opening ++ definitions.flatMap pipeline.deliveries ++
          [(.failed failure, n + 1)]) (n + 1) ∧
      ∀ count, (pulls pipeline path count (start lines)).filterMap (·.1.piece?) <+:
        opening ++ body

/-- A pipeline that expands what is in reach keeps step with its run. -/
theorem Pipeline.Serves.keepsStep {pipeline : Pipeline β} {reach : Definition → Prop}
    {opening : List β} (hserves : pipeline.Serves reach)
    (hopening : pipeline.opening = .ok opening) : pipeline.KeepsStep reach opening where
  fails_iff path lines failure := Pipeline.run_eq_error_iff hserves hopening
  whole := by
    intro path lines out hrun
    have hclean := (Pipeline.exists_run_eq_ok_iff hserves hopening).mp ⟨out, hrun⟩
    obtain ⟨definitions, body, hread, hbody, hdelivers⟩ := exists_delivers_append hserves hclean
    have hout : out = opening ++ body ++ pipeline.closing := by
      obtain ⟨others, hothers, hemit⟩ := pipeline.run_eq_ok_iff.mp hrun
      obtain rfl : others = definitions := Except.ok.inj (hothers.symm.trans hread)
      rw [emit, enclose, hopening, hbody] at hemit
      exact (Except.ok.inj hemit).symm
    have hfrom := hdelivers [] _ _ (deliversFrom_nil (0 + lines.length))
    rw [List.append_nil, Nat.zero_add] at hfrom
    have hstart := delivers_start hopening hfrom
    rw [← List.append_assoc] at hstart
    refine ⟨definitions, body, hread, hbody, hout, hstart, fun count => ?_⟩
    have hprefix := hstart.pieces_prefix count
    rwa [List.filterMap_append, List.filterMap_append, filterMap_piecesAt, filterMap_piecesAt,
      Pipeline.filterMap_deliveries hbody, ← hout] at hprefix
  failing := by
    intro path lines n failure hfirst
    obtain ⟨line, back, hlines, hlength, hclean, hoffence⟩ := exists_lines_of_firstOffence hfirst
    obtain ⟨definitions, body, hread, hbody, hdelivers⟩ := exists_delivers_append hserves hclean
    have hline : pipeline.expandLine (Header.sourceLine path (0 + (lines.take n).length) line) =
        .error failure := by
      rw [hlength, Nat.zero_add]
      exact (Pipeline.expandLine_eq_error_iff hserves).mpr hoffence
    have hfrom := hdelivers (line :: back) _ _ (deliversFrom_cons_of_error hline)
    rw [← hlines, hlength, Nat.zero_add] at hfrom
    have hstart := delivers_start hopening hfrom
    rw [← List.append_assoc] at hstart
    refine ⟨definitions, body, hread, hbody, hstart, fun count => ?_⟩
    have hprefix := hstart.pieces_prefix count
    rwa [List.filterMap_append, List.filterMap_append, filterMap_piecesAt,
      Pipeline.filterMap_deliveries hbody,
      List.filterMap_cons_none rfl, List.filterMap_nil, List.append_nil] at hprefix

/-- **Pulling keeps step with running.** All stages of the generator keep step with their runs: the
reading of definitions, the init statements, the stub routines of a known dispatch mode, and the
output of known selectors. Stub routines offend where an index is above 65535, and nothing else does
that can be read. -/
theorem pulls_keep_step :
    Pipeline.definitions.KeepsStep Anywhere [] ∧
    Pipeline.init.KeepsStep Anywhere [] ∧
    (∀ mode member, Selector.mode? mode = some member →
      (Pipeline.asm mode).KeepsStep (fun definition => definition.index ≤ 65535) asmOpening ∧
        (Pipeline.asm mode).closing = asmClosing ∧ asmOpening.length = 8) ∧
    ∀ kind mode output, Selector.Known kind mode output →
      ∃ pipeline, Pipeline.ofKind kind mode = .ok pipeline ∧
        pipeline.KeepsStep output.Reaches output.opening ∧ pipeline.closing = output.closing := by
  refine ⟨serves_definitions.keepsStep rfl, serves_init.keepsStep rfl, ?_, ?_⟩
  · intro mode member hmember
    have hmode : Pipeline.asm (α := Char) mode = Pipeline.routines member := by
      rw [Pipeline.asm, resolveMode, hmember]
    rw [hmode]
    exact ⟨(serves_routines member).keepsStep rfl, rfl, rfl⟩
  · intro kind mode output hknown
    obtain ⟨pipeline, hpipeline, hopening, hclosing, hserves⟩ := hknown.exists_pipeline
    exact ⟨pipeline, hpipeline, hserves.keepsStep hopening, hclosing⟩

/-- A definition behind a line without one, and then a line that cannot be read. -/
theorem pulls_keep_step_unreadable_line :
    pulls Pipeline.init "h".toList 4 (start
        [[], "#define ZIS_STUB_A 1 /* f */".toList, "#define ZIS_STUB_B".toList]) = [
      (.piece "    stubVector[ZIS_STUB_A       ] = (void*)f;".toList, 2),
      (.failed (.faulty .badDefine ⟨"h".toList, 3, "#define ZIS_STUB_B".toList⟩), 3),
      (.finished, 3), (.finished, 3)] := by
  have hread : Header.parseLines "h".toList [[], "#define ZIS_STUB_A 1 /* f */".toList] =
      .ok [⟨['A'], 1, ['f'], false,
        some ⟨"h".toList, 2, "#define ZIS_STUB_A 1 /* f */".toList⟩⟩] := by rfl
  have hfirst : FirstOffence Anywhere (Header.sourceLines "h".toList
      [[], "#define ZIS_STUB_A 1 /* f */".toList, "#define ZIS_STUB_B".toList]) 2
      (.faulty .badDefine ⟨"h".toList, 3, "#define ZIS_STUB_B".toList⟩) := by
    refine ⟨⟨_, rfl, .unreadable (by rfl)⟩, fun m hm source hsource failure hoffence => ?_⟩
    obtain rfl | rfl : m = 0 ∨ m = 1 := by omega
    · cases hsource
      exact not_offence_of_none (by rfl) failure hoffence
    · cases hsource
      exact ((offence_iff_of_some (by rfl)).mp hoffence).1 trivial
  obtain ⟨definitions, body, hdefinitions, -, hdelivers, -⟩ :=
    pulls_keep_step.2.1.failing _ _ _ _ hfirst
  obtain rfl := Except.ok.inj (hdefinitions.symm.trans hread)
  exact hdelivers 4

end StubVector
