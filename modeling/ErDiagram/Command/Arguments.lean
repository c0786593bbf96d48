import ErDiagram.Connectivity.Pattern
import ErDiagram.Text.CharClass

/-!
# Arguments of the command line

A command, the file that it reads, and options. An option may be shortened as long as it is the
only one with that beginning, and its value may follow an equals sign. After two hyphens there
are no more options.

What an argument is depends on the options that there are, and these on the command, so that the
arguments up to the command and those behind it are read one after the other with different
options (`readFrom`, `readGiven`). An argument without a meaning is no error where it stands: a call
for help behind it is still heard.
-/

namespace ErDiagram.Command

/-- **What is to be done with a file.** Only one of the commands has an option of its own. The
strategy is given by its name, as a generation asks for it; that there is a strategy of this name
has been seen to when the arguments were read. -/
inductive Action where
  | generate (strategy : Option String)
  | parse
  | analyze
  | validate
  | serialize
deriving Repr, DecidableEq

/-- **What the arguments ask for.** Every invocation has a file and a command, so that arguments in
which one of them is missing have no invocation but a `Refusal`. -/
structure Invocation where
  /-- The level of messages, if one is given. -/
  level : Option String
  /-- What is to be done. -/
  action : Action
  /-- The file; a hyphen stands for the standard input. -/
  file : String
deriving Repr, DecidableEq

/-- **Why arguments ask for nothing.** Whatever makes them useless is one case: it is answered by
how the command is used, and only a call for help ends well. -/
inductive Refusal where
  /-- They ask for help. -/
  | help
  /-- They are no use. -/
  | usage
deriving Repr, DecidableEq

/-- What one argument is. -/
inductive Word where
  | value (s : String)
  /-- An option and the value that is attached to it. -/
  | option (name : String) (attached : Option String)
  /-- An option that there is not. -/
  | unknown
  /-- The beginning of more than one option. -/
  | ambiguous
deriving Repr, DecidableEq

/-- The option that asks for help. -/
def helpOption : String := "--help"

/-- Whether a text is a negative number, which is no option. -/
def isNegativeNumber (cs : List Char) : Bool :=
  match cs with
  | '-' :: r =>
    let rest := r.dropWhile Text.isAsciiDigit
    match rest with
    | [] => !r.isEmpty
    | '.' :: places => !places.isEmpty && places.all Text.isAsciiDigit
    | _ => false
  | _ => false

/-- The name and the attached value of an option. -/
def splitAttached (cs : List Char) : List Char × Option String :=
  match cs.dropWhile (· != '=') with
  | [] => (cs, none)
  | _ :: v => (cs.takeWhile (· != '='), some (String.ofList v))

/-- **What follows one hyphen as a call for help**: any number of the letter `h`, and then anything
but an equals sign or a hyphen, which attach a value; help takes none. -/
def shortHelp? (cs : List Char) : Option Word :=
  match cs with
  | '-' :: 'h' :: r =>
    match r.dropWhile (· == 'h') with
    | '=' :: v => some (.option helpOption (some (String.ofList v)))
    | '-' :: v => some (.option helpOption (some (String.ofList ('-' :: v))))
    | _ => some (.option helpOption none)
  | _ => none

/-- **What an argument is** where there are the given options. -/
def Word.of (options : List String) (arg : String) : Word :=
  let cs := arg.toList
  let (name, attached) := splitAttached cs
  if cs.head? != some '-' || cs == ['-'] then .value arg
  else if options.contains (String.ofList name) then .option (String.ofList name) attached
  else if let some help := shortHelp? cs then help
  else
    let full := if ['-', '-'].isPrefixOf cs then
        options.filter fun o => name.isPrefixOf o.toList
      else []
    match full with
    | [o] => .option o attached
    | _ :: _ :: _ => .ambiguous
    | [] =>
      if isNegativeNumber cs || cs.contains ' ' then .value arg
      else .unknown

/-- The value of an option: the attached one, or the next argument; with what is left. -/
def optionValue (options : List String) (attached : Option String) (rest : List String) :
    Except Refusal (String × List String) :=
  match attached, rest with
  | some v, _ => .ok (v, rest)
  | none, next :: more =>
    if next == "--" then .error .usage
    else match Word.of options next with
      | .value v => .ok (v, more)
      | _ => .error .usage
  | none, [] => .error .usage

theorem optionValue_length {options : List String} {attached : Option String}
    {rest more : List String} {v : String}
    (h : optionValue options attached rest = .ok (v, more)) : more.length ≤ rest.length := by
  unfold optionValue at h
  split at h
  · cases h; exact Nat.le_refl _
  · split at h
    · cases h
    · split at h
      · cases h; exact Nat.le_succ _
      · cases h
  · cases h

/-- The arguments of a command so far. -/
structure Given where
  /-- The file. -/
  file : Option String := none
  /-- Whether the last argument was the file. -/
  justFile : Bool := false
  /-- The strategy. -/
  strategy : Option String := none
  /-- Whether there was an argument that has no meaning. -/
  extra : Bool := false

/-- What arguments give when there are no more. -/
def Given.done (g : Given) : Except Refusal (String × Option String) :=
  match g.file with
  | some f => if g.extra then .error .usage else .ok (f, g.strategy)
  | none => .error .usage

/-- Adds the arguments behind two hyphens. -/
def Given.addLast (g : Given) (rest : List String) : Except Refusal (String × Option String) :=
  match g.file, rest with
  | none, [f] => { g with file := some f }.done
  | some _, [] => if g.justFile then g.done else .error .usage
  | _, _ => .error .usage

/-- **Reads the arguments of a command**: its file, and the strategy where that is an option. -/
def readGiven (options : List String) (g : Given) : List String →
    Except Refusal (String × Option String)
  | [] => g.done
  | arg :: rest =>
    if arg == "--" then g.addLast rest
    else match Word.of options arg with
      | .value v =>
        if g.file.isSome then readGiven options { g with extra := true, justFile := false } rest
        else readGiven options { g with file := some v, justFile := true } rest
      | .option name attached =>
        if name == helpOption then .error (if attached.isSome then .usage else .help)
        else
          match _h : optionValue options attached rest with
          | .error e => .error e
          | .ok (v, more) =>
            if (Strategy.ofName? v).isNone then .error .usage
            else readGiven options { g with strategy := some v, justFile := false } more
      | .unknown => readGiven options { g with extra := true, justFile := false } rest
      | .ambiguous => .error .usage
termination_by args => args.length
decreasing_by
  all_goals simp_wf
  · have := optionValue_length _h
    omega

/-- The options of a command. -/
def optionsOf : Action → List String
  | .generate _ => [helpOption, "--strategy"]
  | _ => [helpOption]

/-- The command of a name. -/
def actionOf? (name : String) : Option Action :=
  [("generate", Action.generate none), ("parse", .parse), ("analyze", .analyze),
    ("validate", .validate), ("serialize", .serialize)].lookup name

/-- A command with the strategy that is given. -/
def Action.withStrategy (a : Action) (strategy : Option String) : Action :=
  match a with
  | .generate _ => .generate strategy
  | a => a

/-- The options that stand before the command. -/
def mainOptions : List String := [helpOption, "--log-level"]

/-- Reads the arguments up to the command, and from there on those of the command. -/
def readFrom (level : Option String) (extra : Bool) : List String → Except Refusal Invocation
  | [] => .error .usage
  | arg :: rest =>
    if arg == "--" then .error .usage
    else match Word.of mainOptions arg with
      | .value v =>
        match actionOf? v with
        | none => .error .usage
        | some action => do
          let (file, strategy) ← readGiven (optionsOf action) { extra } rest
          pure ⟨level, action.withStrategy strategy, file⟩
      | .option name attached =>
        if name == helpOption then .error (if attached.isSome then .usage else .help)
        else
          match _h : optionValue mainOptions attached rest with
          | .error e => .error e
          | .ok (v, more) => readFrom (some v) extra more
      | .unknown => readFrom level true rest
      | .ambiguous => .error .usage
termination_by args => args.length
decreasing_by
  all_goals simp_wf
  · have := optionValue_length _h
    omega

/-- **Reads the arguments of the command line.** The beginning of several options is no use wherever
it stands, and it is complained about before anything else is looked at, even before a call for
help. -/
def Invocation.ofArguments (args : List String) : Except Refusal Invocation :=
  let before := args.takeWhile (· != "--")
  if before.any fun a => Word.of mainOptions a == .ambiguous then .error .usage
  else readFrom none false args

end ErDiagram.Command
