import StubVector.Command
import StubVector.Proofs.Arguments.Given

/-!
# Calls

A call gives the command an output kind, a header, a dispatch mode and a charset, and maybe an
output or the wish for the definitions. Nothing that it names begins with a hyphen, so that its
arguments ask for what it names.

* `Command.Call`: what the command is called for, and the arguments of the call.
* `Command.requestOf_arguments`: **the arguments of a call ask for it**.
-/

namespace StubVector.Command

open Grammar (IsWord Given)

/-- What the command is called for. -/
structure Call where
  kind : OutputKind
  header : WideText
  mode : DispatchMode
  charset : WideText
  output : Option WideText := none
  printsDefinitions : Bool := false

namespace Call

/-- The arguments that are options. -/
def optionArguments (call : Call) : List WideText :=
  .ofText "--encoding".toList :: call.charset ::
    (call.output.elim [] fun output => [.ofText "-o".toList, output]) ++
    if call.printsDefinitions then [.ofText "--print-definitions".toList] else []

/-- The arguments of a call. -/
def arguments (call : Call) : List WideText :=
  [.ofText call.kind.name, call.header, .ofText call.mode.name] ++ call.optionArguments

/-- What the options of a call name. -/
def optionNamings (call : Call) : List Naming :=
  .option encodingOption (some call.charset) ::
    (call.output.toList.map fun output => .option outputOption (some output)) ++
    if call.printsDefinitions then [.option printOption none] else []

/-- What the arguments of a call name. -/
def namings (call : Call) : List Naming :=
  [.slot kindSlot (some (.ofText call.kind.name)), .slot headerSlot (some call.header),
    .slot modeSlot (some (.ofText call.mode.name))] ++ call.optionNamings

/-- What the command is asked for by a call. -/
def request (call : Call) : Request where
  kind := call.kind
  mode := call.mode
  header := some call.header
  output := call.output
  charset := some call.charset
  printsDefinitions := call.printsDefinitions

/-- Whether nothing that is named in a call begins with a hyphen. -/
structure Plain (call : Call) : Prop where
  header : IsWord call.header
  charset : IsWord call.charset
  output : ∀ output ∈ call.output, IsWord output

end Call

/-- The option that names a charset. -/
def givenCharset (charset : WideText) (h : IsWord charset) : Given grammar where
  argument := "--encoding".toList
  option := encodingOption
  value := some charset
  begins := ⟨_, _, rfl⟩
  ne_separator := by decide
  named := by decide
  valued := rfl
  isWord := by simpa using h

/-- The option that names an output. -/
def givenOutput (output : WideText) (h : IsWord output) : Given grammar where
  argument := "-o".toList
  option := outputOption
  value := some output
  begins := ⟨_, _, rfl⟩
  ne_separator := by decide
  named := by decide
  valued := rfl
  isWord := by simpa using h

/-- The option that asks for the definitions. -/
def givenPrint : Given grammar where
  argument := "--print-definitions".toList
  option := printOption
  value := none
  begins := ⟨_, _, rfl⟩
  ne_separator := by decide
  named := by decide
  valued := rfl
  isWord := nofun

theorem isWord_name_kind (kind : OutputKind) : IsWord (.ofText kind.name) := by
  cases kind <;> decide

theorem isWord_name_mode (mode : DispatchMode) : IsWord (.ofText mode.name) := by
  cases mode <;> decide

/-! ## What a call asks for -/

section Acting

variable {request : Request}

theorem act_kind (kind : OutputKind) :
    act request (.slot kindSlot (some (.ofText kind.name))) = .ok { request with kind } := by
  have hchoose : choose kindSlot OutputKind.all OutputKind.name (.ofText kind.name) = .ok kind := by
    cases kind <;> decide +kernel
  rw [act, if_pos rfl, Option.getD_some, hchoose]
  rfl

theorem act_header (header : WideText) :
    act request (.slot headerSlot (some header)) = .ok { request with header := some header } := by
  rw [act, if_neg (by decide), if_pos rfl]

theorem act_mode (mode : DispatchMode) :
    act request (.slot modeSlot (some (.ofText mode.name))) = .ok { request with mode } := by
  have hchoose : choose modeSlot DispatchMode.all DispatchMode.name (.ofText mode.name) =
      .ok mode := by
    cases mode <;> decide +kernel
  rw [act, if_neg (by decide), if_neg (by decide), hchoose]
  rfl

theorem act_charset (charset : WideText) :
    act request (.option encodingOption (some charset)) =
      .ok { request with charset := some charset } := by
  rw [act, if_neg (by decide), if_neg (by decide), if_pos rfl]

theorem act_output (output : WideText) :
    act request (.option outputOption (some output)) =
      .ok { request with output := some output } := by
  rw [act, if_neg (by decide), if_pos rfl]

theorem act_print :
    act request (.option printOption none) = .ok { request with printsDefinitions := true } := by
  rw [act, if_neg (by decide), if_neg (by decide), if_neg (by decide)]

end Acting

/-- Acting on what the arguments of a call name gives what is asked for. -/
theorem actOn_namings (call : Call) : actOn act {} call.namings = .ok call.request := by
  obtain ⟨kind, header, mode, charset, output, prints⟩ := call
  cases output <;> cases prints <;>
    simp [Call.namings, Call.optionNamings, actOn, act_kind, act_header, act_mode, act_charset,
      act_output, act_print, Except.bind, Call.request]

/-- The options of a call are given in full. -/
theorem Call.Plain.exists_givens {call : Call} (h : call.Plain) :
    ∃ givens : List (Given grammar), givens.flatMap (·.arguments) = call.optionArguments ∧
      givens.map (·.naming) = call.optionNamings := by
  obtain ⟨kind, header, mode, charset, output, prints⟩ := call
  obtain ⟨outputs, houtputs, hnamings⟩ : ∃ givens : List (Given grammar),
      givens.flatMap (·.arguments) = (output.elim [] fun output => [.ofText "-o".toList, output]) ∧
      givens.map (·.naming) =
        output.toList.map fun output => .option outputOption (some output) := by
    cases output with
    | none => exact ⟨[], rfl, rfl⟩
    | some output => exact ⟨[givenOutput output (h.output output rfl)], rfl, rfl⟩
  obtain ⟨flags, hflags, hflagNamings⟩ : ∃ givens : List (Given grammar),
      givens.flatMap (·.arguments) =
        (if prints then [.ofText "--print-definitions".toList] else []) ∧
      givens.map (·.naming) = if prints then [.option printOption none] else [] := by
    cases prints with
    | false => exact ⟨[], rfl, rfl⟩
    | true => exact ⟨[givenPrint], rfl, rfl⟩
  refine ⟨givenCharset charset h.charset :: outputs ++ flags, ?_, ?_⟩
  · rw [List.flatMap_append, List.flatMap_cons, houtputs, hflags]
    rfl
  · rw [List.map_append, List.map_cons, hnamings, hflagNamings]
    rfl

/-- Every slot of the command gets its word, and every option its value. -/
theorem read_arguments {call : Call} (h : call.Plain) :
    grammar.read call.arguments = { namings := call.namings, ending := .complete [] [] } := by
  obtain ⟨givens, harguments, hnamings⟩ := h.exists_givens
  have hwords : ∀ word ∈ [WideText.ofText call.kind.name, call.header,
      WideText.ofText call.mode.name], IsWord word := by
    simp [isWord_name_kind, h.header, isWord_name_mode]
  rw [Call.arguments, ← harguments, Grammar.read_words_append_given givens rfl hwords, hnamings]
  rfl

/-- The arguments of a call ask for it. -/
theorem requestOf_arguments {call : Call} (h : call.Plain) :
    requestOf call.arguments = .ok call.request := by
  have hinterpret : grammar.interpret call.arguments act {} = .ok call.request := by
    rw [Grammar.interpret, read_arguments h]
    dsimp only
    rw [actOn_namings]
    rfl
  rw [requestOf, if_neg (by simp [Call.arguments]), Request.ofArguments, hinterpret]

end StubVector.Command
