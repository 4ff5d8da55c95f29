import StubVector.Text.DecimalDigit
import StubVector.Text.Wide

/-!
# Arguments

How the arguments of a command are told apart. An option has a long name after two hyphens and maybe
a letter after one hyphen; its value follows it, or stands in the same argument. The other arguments
are words, and fill the slots of the command in order: first slots that need a word, then slots that
may stay empty. After a lone pair of hyphens every argument is a word. Arguments are wide text.

* `Grammar.read`: what the arguments name, in order, and how the reading ends.
* `Grammar.interpret`: the result of acting on what the arguments name, one after the other.
* `UsageFault.message`: the wording of what is wrong with arguments.
-/

namespace StubVector

/-- An option of a command. -/
structure OptionSpec where
  letter : Option Char := none
  /-- The long name, with its hyphens. -/
  long : Text
  /-- The option takes a value. -/
  valued : Bool
  deriving DecidableEq, Repr

/-- A slot for a word. -/
structure Slot where
  name : Text
  /-- The slot may stay empty. -/
  optional : Bool := false
  deriving DecidableEq, Repr

/-- The arguments that a command takes. -/
structure Grammar where
  options : List OptionSpec
  slots : List Slot := []
  deriving Repr

/-- What is wrong with arguments. -/
inductive UsageFault where
  | missingValue (option : OptionSpec)
  | needlessValue (option : OptionSpec) (value : WideText)
  | ambiguousOption (argument : WideText) (candidates : List OptionSpec)
  | invalidChoice (slot : Slot) (value : WideText) (choices : List Text)
  | invalidInteger (option : OptionSpec) (value : WideText)
  | missingWords (slots : List Slot)
  | needlessArguments (arguments : List WideText)
  deriving DecidableEq, Repr

/-- What an argument names. The value of an option, or the word of a slot, is missing if the
arguments give a separator in its place. -/
inductive Naming where
  | option (option : OptionSpec) (value : Option WideText)
  | slot (slot : Slot) (word : Option WideText)
  deriving DecidableEq, Repr

/-- How the reading of arguments ends. -/
inductive Ending where
  | fault (fault : UsageFault)
  /-- Every argument is read: the slots that need a word and have none, and the arguments that name
  nothing. -/
  | complete (unfilled : List Slot) (needless : List WideText)
  deriving DecidableEq, Repr

namespace OptionSpec

/-- The names of an option, as messages show them. -/
def shown (option : OptionSpec) : Text :=
  match option.letter with
  | some letter => ['-', letter, '/'] ++ option.long
  | none => option.long

/-- Whether the argument is one of the names of the option. -/
def isNamed (argument : WideText) (option : OptionSpec) : Bool :=
  argument = .ofText option.long ||
    option.letter.any fun letter => argument = .ofText ['-', letter]

end OptionSpec

/-- The argument after which every argument is a word. -/
def separator : WideText := [.char '-', .char '-']

namespace UsageFault

/-- The items of a list, with commas between them. -/
def commaList (items : List Text) : Text := List.intercalate ", ".toList items

/-- What is wrong with the value of an argument. -/
def blame (argument problem : Text) : Text :=
  "argument ".toList ++ argument ++ ": ".toList ++ problem

/-- The wording of a fault. -/
def message : UsageFault → WideText
  | missingValue option => blame option.shown "expected one argument".toList
  | needlessValue option value =>
    blame option.shown ("ignored explicit argument ".toList ++ value.quoted)
  | ambiguousOption argument candidates =>
    "ambiguous option: ".toList ++ argument ++ " could match ".toList ++
      commaList (candidates.map (·.long))
  | invalidChoice slot value choices =>
    blame slot.name ("invalid choice: ".toList ++ value.quoted ++ " (choose from ".toList ++
      commaList (choices.map Text.quoted) ++ [')'])
  | invalidInteger option value =>
    blame option.shown ("invalid int value: ".toList ++ value.quoted)
  | missingWords slots =>
    "the following arguments are required: ".toList ++ commaList (slots.map (·.name))
  | needlessArguments arguments =>
    "unrecognized arguments: ".toList ++ List.intercalate [.char ' '] arguments

end UsageFault

/-! ## Telling arguments apart -/

/-- What an argument is. -/
inductive Mark where
  | word (text : WideText)
  | separator
  /-- An option, whether it is named by its long name, and the value in the same argument. -/
  | option (option : OptionSpec) (byLongName : Bool) (value : Option WideText)
  /-- An argument that looks like an option and is none. -/
  | unknown (text : WideText)
  deriving DecidableEq, Repr

namespace Grammar

/-- Whether an argument is a long name, or the start of one. -/
def isLong (argument : WideText) : Bool := Text.startsWith separator argument

/-- The option that an argument names in full. -/
def named? (grammar : Grammar) (argument : WideText) : Option OptionSpec :=
  grammar.options.find? (·.isNamed argument)

/-- The options that an argument may name by a part of a name or together with a value, and that
value. -/
def candidates (grammar : Grammar) (argument : WideText) : List OptionSpec × Option WideText :=
  if isLong argument then
    let (name, value) :=
      match Text.cutAt? (.char '=') argument with
      | some (name, value) => (name, some value)
      | none => (argument, none)
    (grammar.options.filter fun option =>
      Text.startsWith name (WideText.ofText option.long), value)
  else (grammar.options.filter (·.isNamed (argument.take 2)), some (argument.drop 2))

/-- What an argument is that is none of the names of the options. -/
def classifyInexact (grammar : Grammar) (argument : WideText) : Except UsageFault Mark :=
  let exact := (Text.cutAt? (.char '=') argument).bind fun (name, value) =>
    (grammar.named? name).map fun option => Mark.option option (isLong name) (some value)
  match exact with
  | some mark => .ok mark
  | none =>
    match grammar.candidates argument with
    | ([option], value) => .ok (.option option (isLong argument) value)
    | ([], _) =>
      if argument.toText?.any Text.isNegativeNumber || argument.contains (.char ' ') then
        .ok (.word argument)
      else .ok (.unknown argument)
    | (candidates, _) => .error (.ambiguousOption argument candidates)

/-- What an argument before the separator is. -/
def classify (grammar : Grammar) (argument : WideText) : Except UsageFault Mark :=
  match argument with
  | .char '-' :: _ :: _ =>
    match grammar.named? argument with
    | some option => .ok (.option option (isLong argument) none)
    | none => grammar.classifyInexact argument
  | _ => .ok (.word argument)

/-- What the arguments are. -/
def marks (grammar : Grammar) : List WideText → Except UsageFault (List Mark)
  | [] => .ok []
  | argument :: arguments =>
    if argument = separator then .ok (.separator :: arguments.map .word)
    else
      (grammar.classify argument).bind fun mark => (grammar.marks arguments).map (mark :: ·)

/-! ## Filling slots -/

/-- A mark as an argument, if it is no option. -/
def argumentOf? : Mark → Option WideText
  | .word text => some text
  | .separator => some separator
  | _ => none

/-- The word among the arguments of a slot: one separator is dropped. -/
def wordOf (arguments : List WideText) : Option WideText := (arguments.erase separator).head?

/-- The share of a slot in a row of words and separators, and the rest of the row. The separators on
both sides of the word belong to the share. -/
def takeShare? (slot : Slot) (row : List Mark) : Option (List Mark × List Mark) :=
  let (before, rest) := row.span (· = .separator)
  match rest with
  | .word text :: rest =>
    let (after, rest) := rest.span (· = .separator)
    some (before ++ .word text :: after, rest)
  | rest => if slot.optional then some (before, rest) else none

/-- Fills slots from a row of words and separators: what is named, the slots that are left, and the
rest of the row. -/
def fill : List Slot → List Mark → List Naming × List Slot × List Mark
  | [], row => ([], [], row)
  | slot :: slots, row =>
    match takeShare? slot row with
    | none => ([], slot :: slots, row)
    | some (share, rest) =>
      let (namings, left, rest) := fill slots rest
      (.slot slot (wordOf (share.filterMap argumentOf?)) :: namings, left, rest)

/-! ## Reading -/

/-- The letters after the letter of an option that takes no value: options that take none, the last
option, and the rest of the argument as its value. -/
def cluster (grammar : Grammar) (option : OptionSpec) (byLongName : Bool) :
    WideText → Except UsageFault (List OptionSpec × OptionSpec × Option WideText)
  | [] => if option.valued then .ok ([], option, some []) else .error (.needlessValue option [])
  | letter :: value =>
    if option.valued then .ok ([], option, some (letter :: value))
    else if byLongName then .error (.needlessValue option (letter :: value))
    else
      match grammar.named? [.char '-', letter] with
      | none => .error (.needlessValue option (letter :: value))
      | some next =>
        if value.isEmpty then .ok ([option], next, none)
        else
          (grammar.cluster next false value).map fun (flags, last, value) =>
            (option :: flags, last, value)

/-- What arguments name, and how their reading ends. -/
structure Reading where
  namings : List Naming
  ending : Ending
  deriving Repr

namespace Reading

/-- A reading that ends at once. -/
def stop (ending : Ending) : Reading := { namings := [], ending }

/-- A reading after other namings. -/
def after (namings : List Naming) (reading : Reading) : Reading :=
  { reading with namings := namings ++ reading.namings }

/-- A reading with other needless arguments in front. -/
def withNeedless (arguments : List WideText) (reading : Reading) : Reading :=
  match reading.ending with
  | .complete unfilled needless =>
    { reading with ending := .complete unfilled (arguments ++ needless) }
  | .fault _ => reading

end Reading

/-- Fills slots from the row before an option, or before the end, and goes on with the slots that
are left. -/
def flush (slots : List Slot) (row : List Mark) (next : List Slot → Reading) : Reading :=
  let (namings, left, rest) := fill slots row
  ((next left).withNeedless (rest.filterMap argumentOf?)).after namings

/-- The namings of options that take no value. -/
def flags (options : List OptionSpec) : List Naming := options.map (.option · none)

/-- The value of an option, if it is not a separator. -/
def valueOf (value : WideText) : Option WideText := wordOf [value]

/-- Reads marks; `row` holds the words and separators since the last option. -/
def readMarks (grammar : Grammar) (slots : List Slot) (row : List Mark) : List Mark → Reading
  | [] =>
    flush slots row fun left => .stop (.complete (left.filter (!·.optional)) [])
  | .word text :: marks => grammar.readMarks slots (row ++ [.word text]) marks
  | .separator :: marks => grammar.readMarks slots (row ++ [.separator]) marks
  | .unknown text :: marks =>
    let next (left : List Slot) := (grammar.readMarks left [] marks).withNeedless [text]
    if row.isEmpty then next slots else flush slots row next
  | .option option byLongName value :: marks =>
    let next (left : List Slot) : Reading :=
      let found : Except UsageFault (List OptionSpec × OptionSpec × Option WideText) :=
        match value with
        | none => .ok ([], option, none)
        | some value => grammar.cluster option byLongName value
      match found with
      | .error fault => .stop (.fault fault)
      | .ok (others, last, some value) =>
        (grammar.readMarks left [] marks).after (flags others ++ [.option last (valueOf value)])
      | .ok (others, last, none) =>
        if last.valued then
          match marks with
          | .word value :: marks =>
            (grammar.readMarks left [] marks).after (flags others ++ [.option last (valueOf value)])
          | _ => .stop (.fault (.missingValue last))
        else (grammar.readMarks left [] marks).after (flags (others ++ [last]))
    if row.isEmpty then next slots else flush slots row next

/-- What the arguments name, in order, and how the reading ends. -/
def read (grammar : Grammar) (arguments : List WideText) : Reading :=
  match grammar.marks arguments with
  | .error fault => .stop (.fault fault)
  | .ok marks => grammar.readMarks grammar.slots [] marks

end Grammar

/-! ## Acting on arguments -/

/-- Why arguments are not acted on to the end. -/
inductive Halt where
  /-- The help text is asked for. -/
  | help
  | fault (fault : UsageFault)
  deriving DecidableEq, Repr

/-- Acts on namings one after the other. -/
def actOn {σ : Type} (act : σ → Naming → Except Halt σ) : σ → List Naming → Except Halt σ
  | state, [] => .ok state
  | state, naming :: namings => (act state naming).bind fun state => actOn act state namings

/-- The result of acting on what the arguments name, one after the other. Missing words and needless
arguments are faults after all others. -/
def Grammar.interpret {σ : Type} (grammar : Grammar) (arguments : List WideText)
    (act : σ → Naming → Except Halt σ) (start : σ) : Except Halt σ :=
  let reading := grammar.read arguments
  (actOn act start reading.namings).bind fun state =>
    match reading.ending with
    | .fault fault => .error (.fault fault)
    | .complete (slot :: slots) _ => .error (.fault (.missingWords (slot :: slots)))
    | .complete [] (argument :: rest) => .error (.fault (.needlessArguments (argument :: rest)))
    | .complete [] [] => .ok state

end StubVector
