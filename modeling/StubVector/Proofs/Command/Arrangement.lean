import Mathlib.Data.List.Nodup
import Mathlib.Data.List.Perm.Basic
import StubVector.Proofs.Arguments.Rows
import StubVector.Proofs.Command.Call

/-!
# Arrangements

The options of a command line may stand before, between and behind its words. Only where a dispatch
mode is named does it matter whether an option stands directly before it: an option behind the
header leaves the dispatch mode unnamed, and then the word that should name it is one too many.

* `Command.OptionGroup`: an option with its value.
* `Command.Arrangement`: which options stand where.
* `Command.run_arranged`: **the place of an option matters only before a dispatch mode**.
-/

namespace StubVector.Command

open Grammar (IsWord Given)

/-- An option with its value, which does not begin with a hyphen. -/
inductive OptionGroup where
  | output (file : WideText) (isWord : IsWord file)
  | encoding (name : WideText) (isWord : IsWord name)
  | printDefinitions

namespace OptionGroup

/-- The option of a group. -/
def option : OptionGroup → OptionSpec
  | output _ _ => outputOption
  | encoding _ _ => encodingOption
  | printDefinitions => printOption

/-- The arguments of a group. -/
def arguments : OptionGroup → List WideText
  | output file _ => [.ofText "-o".toList, file]
  | encoding name _ => [.ofText "--encoding".toList, name]
  | printDefinitions => [.ofText "--print-definitions".toList]

/-- A group as an option that is given in full. -/
def given : OptionGroup → Given grammar
  | output file isWord => givenOutput file isWord
  | encoding name isWord => givenCharset name isWord
  | printDefinitions => givenPrint

theorem arguments_given (group : OptionGroup) : group.given.arguments = group.arguments := by
  cases group <;> rfl

/-- What a group names. -/
def naming (group : OptionGroup) : Naming := group.given.naming

/-- A request after a group. -/
def addTo (request : Request) : OptionGroup → Request
  | output file _ => { request with output := some file }
  | encoding name _ => { request with charset := some name }
  | printDefinitions => { request with printsDefinitions := true }

theorem act_naming (request : Request) (group : OptionGroup) :
    act request group.naming = .ok (addTo request group) := by
  cases group with
  | output file => exact act_output file
  | encoding name => exact act_charset name
  | printDefinitions => exact act_print

/-- Groups of different options do not get in each other's way. -/
theorem addTo_addTo (request : Request) {first second : OptionGroup}
    (h : first.option ≠ second.option) :
    addTo (addTo request first) second = addTo (addTo request second) first := by
  cases first <;> cases second <;> first | rfl | exact absurd rfl h

/-- Nor do a group and a word. -/
theorem act_slot_addTo (request : Request) (group : OptionGroup) (slot : Slot)
    (word : Option WideText) :
    act (addTo request group) (.slot slot word) =
      (act request (.slot slot word)).map (addTo · group) := by
  by_cases hkind : slot = kindSlot
  · rw [act.eq_def, act.eq_def]
    dsimp only
    rw [if_pos hkind, if_pos hkind]
    cases choose slot OutputKind.all OutputKind.name (word.getD []) <;> cases group <;> rfl
  by_cases hheader : slot = headerSlot
  · rw [act.eq_def, act.eq_def]
    dsimp only
    rw [if_neg hkind, if_neg hkind, if_pos hheader, if_pos hheader]
    cases group <;> rfl
  rw [act.eq_def, act.eq_def]
  dsimp only
  rw [if_neg hkind, if_neg hkind, if_neg hheader, if_neg hheader]
  cases word with
  | none => rfl
  | some word =>
    dsimp only
    cases choose slot DispatchMode.all DispatchMode.name word <;> cases group <;> rfl

end OptionGroup

open OptionGroup (addTo)

section Acting

variable {request : Request} {groups others : List OptionGroup} {rest : List Naming}

theorem actOn_groups_append (request : Request) (groups : List OptionGroup) (rest : List Naming) :
    actOn act request (groups.map (·.naming) ++ rest) =
      actOn act (groups.foldl addTo request) rest := by
  induction groups generalizing request with
  | nil => rfl
  | cons group groups ih =>
    rw [List.map_cons, List.cons_append, actOn, OptionGroup.act_naming]
    exact ih (addTo request group)

theorem actOn_groups (request : Request) (groups : List OptionGroup) :
    actOn act request (groups.map (·.naming)) = .ok (groups.foldl addTo request) := by
  have hacts := actOn_groups_append request groups []
  rwa [List.append_nil] at hacts

theorem act_slot_groups (request : Request) (groups : List OptionGroup) (slot : Slot)
    (word : Option WideText) :
    act (groups.foldl addTo request) (.slot slot word) =
      (act request (.slot slot word)).map fun request => groups.foldl addTo request := by
  induction groups generalizing request with
  | nil =>
    rw [List.foldl_nil]
    cases act request (.slot slot word) <;> rfl
  | cons group groups ih =>
    rw [List.foldl_cons, ih, OptionGroup.act_slot_addTo]
    cases act request (.slot slot word) <;> rfl

/-- A word may be acted on before the groups in front of it. -/
theorem actOn_groups_slot (request : Request) (groups : List OptionGroup) (slot : Slot)
    (word : Option WideText) (rest : List Naming) :
    actOn act request (groups.map (·.naming) ++ .slot slot word :: rest) =
      actOn act request (.slot slot word :: (groups.map (·.naming) ++ rest)) := by
  rw [actOn_groups_append, actOn, actOn, act_slot_groups]
  cases act request (.slot slot word) with
  | error halt => rfl
  | ok next => exact (actOn_groups_append next groups rest).symm

/-- Where acting on other namings has the same result, it has after one more naming. -/
theorem actOn_cons_congr {naming : Naming} {front back : List Naming}
    (h : ∀ request, actOn act request front = actOn act request back) :
    actOn act request (naming :: front) = actOn act request (naming :: back) := by
  rw [actOn, actOn, funext h]

/-- The order of groups of different options does not matter. -/
theorem foldl_addTo_eq_of_perm (hperm : groups.Perm others)
    (hnodup : (groups.map (·.option)).Nodup) (request : Request) :
    groups.foldl addTo request = others.foldl addTo request := by
  refine hperm.foldl_eq' (fun first hfirst second hsecond request => ?_) request
  by_cases heq : first.option = second.option
  · rw [List.inj_on_of_nodup_map hnodup hfirst hsecond heq]
  · exact OptionGroup.addTo_addTo request heq

end Acting

/-! ## Arranged options -/

/-- Which options stand where among the words of a command line. -/
structure Arrangement where
  front : List OptionGroup := []
  afterKind : List OptionGroup := []
  afterHeader : List OptionGroup := []
  last : List OptionGroup := []

namespace Arrangement

variable {kind header : WideText} {mode : Option WideText}

/-- All options, in order. -/
def groups (arrangement : Arrangement) : List OptionGroup :=
  arrangement.front ++ arrangement.afterKind ++ arrangement.afterHeader ++ arrangement.last

/-- The options among the words. -/
def arguments (arrangement : Arrangement) (kind header : WideText) (mode : Option WideText) :
    List WideText :=
  arrangement.front.flatMap (·.arguments) ++ [kind] ++
    arrangement.afterKind.flatMap (·.arguments) ++ [header] ++
    arrangement.afterHeader.flatMap (·.arguments) ++ mode.toList ++
    arrangement.last.flatMap (·.arguments)

/-- The word that names the dispatch mode: none does behind an option. -/
def modeWord (arrangement : Arrangement) (mode : Option WideText) : Option WideText :=
  if arrangement.afterHeader.isEmpty then mode else none

/-- The words that are left over. -/
def needless (arrangement : Arrangement) (mode : Option WideText) : List WideText :=
  if arrangement.afterHeader.isEmpty then [] else mode.toList

/-- What the arguments name. -/
def namings (arrangement : Arrangement) (kind header : WideText) (mode : Option WideText) :
    List Naming :=
  arrangement.front.map (·.naming) ++ .slot kindSlot (some kind) ::
    (arrangement.afterKind.map (·.naming) ++ .slot headerSlot (some header) ::
      .slot modeSlot (arrangement.modeWord mode) ::
        (arrangement.afterHeader ++ arrangement.last).map (·.naming))

/-- The marks of groups. -/
def marksOf (groups : List OptionGroup) : List Mark := (groups.map (·.given)).flatMap (·.marks)

theorem flatMap_arguments (groups : List OptionGroup) :
    groups.flatMap (·.arguments) = (groups.map (·.given)).flatMap (·.arguments) := by
  simp only [List.flatMap_map, OptionGroup.arguments_given]

theorem marks_arguments (arrangement : Arrangement) (hkind : IsWord kind) (hheader : IsWord header)
    (hmode : ∀ word ∈ mode, IsWord word) :
    grammar.marks (arrangement.arguments kind header mode) =
      .ok (marksOf arrangement.front ++ .word kind :: (marksOf arrangement.afterKind ++
        .word header :: (marksOf arrangement.afterHeader ++
          (mode.toList.map .word ++ marksOf arrangement.last)))) := by
  have hwords : ∀ word ∈ mode.toList, IsWord word := fun word h => hmode word (by simpa using h)
  simp only [arguments, flatMap_arguments, List.append_assoc, List.cons_append,
    List.nil_append, Grammar.marks_givens_append, Grammar.marks_word_cons hkind,
    Grammar.marks_word_cons hheader,
    Grammar.marks_words_append hwords, Grammar.marks_givens, Except.map, marksOf]

/-! ## Reading arranged arguments -/

section Reading

open Grammar (fill)

theorem fill_kind (hkind : IsWord kind) :
    fill grammar.slots [.word kind] =
      ([.slot kindSlot (some kind)], [headerSlot, modeSlot], []) :=
  Grammar.fill_word_cons hkind kindSlot [] (Grammar.fill_nil_of_required rfl [modeSlot])

/-- Without a word for it, the dispatch mode stays unnamed. -/
theorem fill_header (hheader : IsWord header) :
    fill [headerSlot, modeSlot] [.word header] =
      ([.slot headerSlot (some header), .slot modeSlot none], [], []) :=
  Grammar.fill_word_cons hheader headerSlot [] (Grammar.fill_nil_of_optional rfl)

/-- The first word names the output kind, wherever the options before the second one stand. -/
theorem readMarks_kind (hkind : IsWord kind) (groups : List OptionGroup) (header : WideText)
    (rest : List Mark) :
    grammar.readMarks grammar.slots [] (.word kind :: (marksOf groups ++ .word header :: rest)) =
      (grammar.readMarks [headerSlot, modeSlot] [.word header] rest).after
        (.slot kindSlot (some kind) :: groups.map (·.naming)) := by
  cases groups with
  | nil => exact Grammar.readMarks_row hkind kindSlot _ header [] rest
  | cons group groups =>
    have hread := Grammar.readMarks_words_givens_append grammar.slots
      (List.cons_ne_nil kind [])
      (List.cons_ne_nil group.given (groups.map (·.given))) (.word header :: rest)
    rw [List.map_singleton, Grammar.flush_of_fill (fill_kind hkind)] at hread
    rw [Grammar.readMarks]
    refine hread.trans ?_
    simp only [List.filterMap_nil, Grammar.Reading.withNeedless_nil, Grammar.Reading.after_after,
      Grammar.readMarks, List.nil_append, List.singleton_append, List.map_cons, List.map_map]
    rfl

/-- Behind the header, an option ends the words that name something. -/
theorem readMarks_header (hheader : IsWord header) (hmode : ∀ word ∈ mode, IsWord word)
    (arrangement : Arrangement) :
    grammar.readMarks [headerSlot, modeSlot] [.word header]
        (marksOf arrangement.afterHeader ++
          (mode.toList.map .word ++ marksOf arrangement.last)) =
      { namings := .slot headerSlot (some header) :: .slot modeSlot (arrangement.modeWord mode) ::
          (arrangement.afterHeader ++ arrangement.last).map (·.naming)
        ending := .complete [] (arrangement.needless mode) } := by
  obtain ⟨front, afterKind, afterHeader, last⟩ := arrangement
  have hmark : [Mark.word header] = [header].map .word := rfl
  cases afterHeader with
  | nil =>
    have hwords : ∀ word ∈ mode.toList, IsWord word := fun word h => hmode word (by simpa using h)
    have hmodeFill : fill [modeSlot] (mode.toList.map .word) =
        ([.slot modeSlot mode], [], []) := by
      cases mode with
      | none => exact Grammar.fill_nil_of_optional rfl
      | some word => exact Grammar.fill_word_cons (hmode word rfl) modeSlot [] rfl
    have hfill := Grammar.fill_word_cons hheader headerSlot mode.toList hmodeFill
    have hread := Grammar.readMarks_row_givens (last.map (·.given))
      (List.cons_ne_nil header mode.toList) hfill
    rw [hmark, marksOf, List.map_nil, List.flatMap_nil, List.nil_append, Grammar.readMarks_words]
    refine hread.trans ?_
    simp [modeWord, needless, OptionGroup.naming]
  | cons group groups =>
    have hread := Grammar.readMarks_words_givens_append [headerSlot, modeSlot]
      (List.cons_ne_nil header [])
      (List.cons_ne_nil group.given (groups.map (·.given)))
      (mode.toList.map .word ++ marksOf last)
    rw [List.map_singleton, Grammar.flush_of_fill (fill_header hheader)] at hread
    refine hread.trans ?_
    have hlast : grammar.readMarks [] [] (mode.toList.map .word ++ marksOf last) =
        { namings := (last.map (·.given)).map (·.naming), ending := .complete [] mode.toList } :=
      Grammar.readMarks_words_givens_of_no_slots mode.toList (last.map (·.given))
    rw [hlast]
    simp [modeWord, needless, OptionGroup.naming, Grammar.Reading.after, Function.comp_def]

/-- **What arranged arguments name.** -/
theorem read_arranged (hkind : IsWord kind) (hheader : IsWord header)
    (hmode : ∀ word ∈ mode, IsWord word) (arrangement : Arrangement) :
    grammar.read (arrangement.arguments kind header mode) =
      { namings := arrangement.namings kind header mode
        ending := .complete [] (arrangement.needless mode) } := by
  rw [Grammar.read, marks_arguments arrangement hkind hheader hmode]
  dsimp only
  rw [marksOf, Grammar.readMarks_givens_append, readMarks_kind hkind,
    readMarks_header hheader hmode]
  simp [Grammar.Reading.after, namings, OptionGroup.naming]

end Reading

/-! ## What arranged arguments ask for -/

/-- Acting on the words first changes nothing. -/
theorem actOn_namings_arranged (arrangement : Arrangement) (request : Request) :
    actOn act request (arrangement.namings kind header mode) =
      actOn act request (.slot kindSlot (some kind) :: .slot headerSlot (some header) ::
        .slot modeSlot (arrangement.modeWord mode) :: arrangement.groups.map (·.naming)) := by
  unfold namings
  rw [actOn_groups_slot]
  refine actOn_cons_congr fun request => ?_
  rw [← List.append_assoc, ← List.map_append, actOn_groups_slot]
  refine actOn_cons_congr fun request => ?_
  rw [actOn_groups_slot, ← List.map_append, groups, List.append_assoc, List.append_assoc,
    List.append_assoc]

/-- What arranged arguments ask for: the words are acted on, then the options. -/
theorem requestOf_arranged (hkind : IsWord kind) (hheader : IsWord header)
    (hmode : ∀ word ∈ mode, IsWord word) (arrangement : Arrangement) :
    requestOf (arrangement.arguments kind header mode) =
      (actOn act {} (.slot kindSlot (some kind) :: .slot headerSlot (some header) ::
        .slot modeSlot (arrangement.modeWord mode) :: arrangement.groups.map (·.naming))).bind
          fun request =>
            match arrangement.needless mode with
            | [] => .ok request
            | argument :: rest => .error (.fault (.needlessArguments (argument :: rest))) := by
  have hsome : (arrangement.arguments kind header mode).isEmpty = false := by simp [arguments]
  rw [requestOf, hsome, if_neg (by simp), Request.ofArguments, Grammar.interpret,
    read_arranged hkind hheader hmode]
  dsimp only
  rw [actOn_namings_arranged]
  cases arrangement.needless mode <;> rfl

/-- Where no option stands behind the header in one arrangement, and none in another, the words name
the same. -/
theorem words_eq_of_afterHeader {first second : Arrangement}
    (h : mode.isSome → (first.afterHeader = [] ↔ second.afterHeader = [])) :
    first.modeWord mode = second.modeWord mode ∧ first.needless mode = second.needless mode := by
  cases mode with
  | none => simp [modeWord, needless]
  | some word =>
    have hempty : first.afterHeader.isEmpty = second.afterHeader.isEmpty := by
      rw [Bool.eq_iff_iff, List.isEmpty_iff, List.isEmpty_iff]
      exact h rfl
    rw [modeWord, modeWord, needless, needless, hempty]
    exact ⟨rfl, rfl⟩

end Arrangement

open Arrangement

/-- An empty header. -/
def headerFiles : FileTree := .ofEntries [("h.h".toList, .file [])]

theorem isWord_of_mem_some_zvte :
    ∀ word ∈ some (WideText.ofText "zvte".toList), IsWord word := by
  intro word hword
  cases hword
  decide

/-- The options of a command line may not stand anywhere: behind an option, no word names a dispatch
mode. -/
theorem not_forall_run_arranged :
    ¬ ∀ (kind : OutputKind) (header : WideText) (mode : Option WideText)
      (first second : Arrangement) (host : Host) (files : FileTree),
      IsWord header → (∀ word ∈ mode, IsWord word) →
      first.groups.Perm second.groups → (first.groups.map (·.option)).Nodup →
      run host files (first.arguments (.ofText kind.name) header mode) =
        run host files (second.arguments (.ofText kind.name) header mode) := by
  intro h
  have hsame := h .init "h.h".toList (some "zvte".toList)
    { afterHeader := [.printDefinitions] } { last := [.printDefinitions] }
    .strict headerFiles (by decide) isWord_of_mem_some_zvte (.refl _)
    (by decide)
  have hexit := congrArg Outcome.exitCode hsame
  revert hexit
  decide +kernel

/-- **The place of an option matters only before a dispatch mode.** Two arrangements of the same
options, each given at most once, have the same outcome, if with a dispatch mode either both or none
have options between the header and that mode. Options there leave the dispatch mode over, so that
the command is not run. -/
theorem run_arranged {kind header : WideText} {mode : Option WideText} (hkind : IsWord kind)
    (hheader : IsWord header) (hmode : ∀ word ∈ mode, IsWord word) (host : Host)
    (files : FileTree) :
    (∀ first second : Arrangement, first.groups.Perm second.groups →
      (first.groups.map (·.option)).Nodup →
      (mode.isSome → (first.afterHeader = [] ↔ second.afterHeader = [])) →
      run host files (first.arguments kind header mode) =
        run host files (second.arguments kind header mode)) ∧
    ∀ (output : OutputKind) (word : WideText) (arrangement : Arrangement),
      kind = .ofText output.name → mode = some word → arrangement.afterHeader ≠ [] →
      run host files (arrangement.arguments kind header mode) =
        { exitCode := 2
          stderr := WideText.ofText usage ++
            WideText.ofText "stubgen: error: unrecognized arguments: ".toList ++ word ++
            WideText.ofText ['\n']
          files } := by
  refine ⟨fun first second hperm hnodup hplace => ?_, ?_⟩
  · obtain ⟨hword, hneedless⟩ := words_eq_of_afterHeader hplace
    have hgroups : ∀ request, actOn act request (first.groups.map (·.naming)) =
        actOn act request (second.groups.map (·.naming)) := by
      intro request
      rw [actOn_groups, actOn_groups, foldl_addTo_eq_of_perm hperm hnodup]
    have hrequest : requestOf (first.arguments kind header mode) =
        requestOf (second.arguments kind header mode) := by
      rw [requestOf_arranged hkind hheader hmode, requestOf_arranged hkind hheader hmode, hword,
        hneedless]
      congr 1
      exact actOn_cons_congr fun _ => actOn_cons_congr fun _ => actOn_cons_congr hgroups
    rw [run, run, hrequest]
  · rintro output word arrangement rfl rfl hafter
    have hempty : arrangement.afterHeader.isEmpty = false := by simpa using hafter
    have hrequest : requestOf (arrangement.arguments (.ofText output.name) header (some word)) =
        .error (.fault (.needlessArguments [word])) := by
      rw [requestOf_arranged hkind hheader hmode, modeWord, needless, hempty, actOn, act_kind]
      change (actOn act _ _).bind _ = _
      rw [actOn, act_header]
      change (actOn act _ (arrangement.groups.map (·.naming))).bind _ = _
      rw [actOn_groups]
      rfl
    have hcomplaint : program.complaint (.needlessArguments [word]) = WideText.ofText usage ++
        WideText.ofText "stubgen: error: unrecognized arguments: ".toList ++ word ++
        WideText.ofText ['\n'] := by
      simp only [Program.complaint, UsageFault.message, List.intercalate_singleton]
      simp only [List.append_assoc]
      rfl
    rw [run, hrequest]
    change program.halt files _ = _
    rw [Program.halt, hcomplaint]

/-- An output in front and the wish for the definitions before the header, or both behind the
dispatch mode; and an output before the dispatch mode. -/
theorem run_arranged_print_before_header :
    run .strict headerFiles
        (["-o", "out", "asm", "--print-definitions", "h.h", "zvte"].map (.ofText ·.toList)) =
      run .strict headerFiles
        (["asm", "h.h", "zvte", "--print-definitions", "-o", "out"].map (.ofText ·.toList)) ∧
    run .strict headerFiles
        (["asm", "h.h", "-o", "out", "zvte"].map (.ofText ·.toList)) =
      { exitCode := 2
        stderr := WideText.ofText usage ++
          WideText.ofText "stubgen: error: unrecognized arguments: ".toList ++
          WideText.ofText "zvte".toList ++ WideText.ofText ['\n']
        files := headerFiles } := by
  have houtput : IsWord (.ofText "out".toList) := by decide
  have hheader : IsWord (.ofText "h.h".toList) := by decide
  obtain ⟨hsame, hleft⟩ := run_arranged (isWord_name_kind .asm) hheader isWord_of_mem_some_zvte
    .strict headerFiles
  constructor
  · exact hsame { front := [.output _ houtput], afterKind := [.printDefinitions] }
      { last := [.printDefinitions, .output _ houtput] } (.swap _ _ [])
      (by simp [groups, OptionGroup.option, outputOption, printOption]) (by simp)
  · exact hleft .asm _ { afterHeader := [.output _ houtput] } rfl rfl (by simp)

end StubVector.Command
