import ErDiagram.Command.Arguments
import ErDiagram.Command.Files
import ErDiagram.Json.Reader
import ErDiagram.Json.Writer
import ErDiagram.Report
import ErDiagram.Settings.Reading

/-!
# Running a command

A command reads one text and answers with one line of JSON. What a text does wrong is an answer as
well; only settings that make no sense, and a few texts that cannot be read at all, stop a command
without an answer.

The order in which things are looked at decides what is complained about: the settings come first,
then the level of messages, the log and the text.
-/

namespace ErDiagram.Command

/-- **How a command ends.** The code is not a function of the answer, as an answer that says what is
wrong is a JSON value like any other. -/
structure Outcome where
  /-- The exit code. -/
  code : Nat
  /-- The answer, if there is one. -/
  answer : Option Json

/-- **What stops a command without an answer.** There is a constructor for each place where nothing
stands by to turn a failure into an answer, so that the whole list can be read as what a command
does not take care of. -/
inductive Crash where
  /-- The settings do not fit. -/
  | settings (issues : List Record.Issue)
  /-- There is no level of messages of this name. -/
  | unknownLevel (name : String)
  /-- The name stands for a text, which is no level. -/
  | textLevel (text : String)
  /-- The name stands for a table, which is no level. -/
  | tableLevel
  /-- The log cannot be written. -/
  | log (e : LogError)
  /-- The path has a character that no path can have. -/
  | nullCharacter
  /-- The graph is nested too deeply. -/
  | tooDeep
  /-- The text cannot be read, for a reason that no line shows. -/
  | reading (e : ReadingError)
  /-- The diagram cannot be laid out. -/
  | layout (e : LayoutError)

/-- The wording for a text that is no level. -/
def textLevelMessage (text : String) : String := "Unknown level: '" ++ text ++ "'"

/-- The names of the levels of messages. -/
def levels : List String :=
  ["CRITICAL", "DEBUG", "ERROR", "FATAL", "INFO", "NOTSET", "WARN", "WARNING"]

/-- **What the name of a level stands for.** Names are looked up among all that the library of
messages has under a name in capital letters, and this is more than levels. What is found is
checked only later, so that it is a value before it is an error. -/
inductive Level where
  /-- A level of messages. -/
  | severity
  /-- A text, which is no level. -/
  | text (s : String)
  /-- A table, which is no level either. -/
  | table

/-- The level of messages: the one of the arguments, or the one of the settings. -/
def Level.ofSettings (given : Option String) (s : Settings) : Except Crash Level :=
  let name := Text.upper (match given with
    | some l => if l.isEmpty then s.logLevel else l
    | none => s.logLevel)
  if levels.contains name then .ok severity
  else if name == "BASIC_FORMAT" then .ok (text "%(levelname)s:%(name)s:%(message)s")
  else if name == "_STYLES" then .ok table
  else .error (.unknownLevel name)

/-- Refuses what is no level. -/
def Level.check : Level → Except Crash Unit
  | severity => .ok ()
  | text s => .error (.textLevel s)
  | table => .error .tableLevel

/-- A good answer. -/
def succeed (answer : Json) : Outcome := ⟨0, some answer⟩

/-- An answer that says what is wrong. -/
def fail (message : String) (more : List (String × Json)) : Outcome :=
  ⟨1, some (.obj ([("success", .bool false), ("error", .str message)] ++ more))⟩

/-- The answer to a text that says something wrong. -/
def failAt (e : SyntaxError) : Outcome := fail e.message [("line", .ofNat e.line)]

/-- Reads a text and reports on the diagram. -/
def onDiagram (text : String) (report : Diagram → Json) : Except Crash Outcome :=
  match Diagram.parse text with
  | .ok d => .ok (succeed (report d))
  | .error (.invalid e) => .ok (failAt e)
  | .error e => .error (.reading e)

/-- Generates a diagram from a text. -/
def onGenerated (text : String) (strategy : Option String) (s : Settings) :
    Except Crash Outcome :=
  match generate text strategy s with
  | .ok g => .ok (succeed (Report.generated g))
  | .error .blank => .ok (fail GenerationError.blankMessage [])
  | .error (.reading (.invalid e)) => .ok (failAt e)
  | .error (.reading e) => .error (.reading e)
  | .error (.layout e) => .error (.layout e)

/-- What is said about a text that is no graph. -/
def noGraph : String := "Invalid canvas graph"

/-- Writes the graph of a JSON text. -/
def onGraph (text : String) : Except Crash Outcome :=
  match Json.read text with
  | .error .tooDeep => .error .tooDeep
  | .ok (.obj fields) =>
    match Canvas.Graph.ofRecord fields with
    | .issues _ => .ok (fail noGraph [])
    | .ok g =>
      match g.serialize? with
      | some s => .ok (succeed (Report.text s))
      | none => .ok (fail Report.nothingToWrite [])
  | _ => .ok (fail noGraph [])

/-- Does with a text what is to be done. -/
def Action.run (s : Settings) (text : String) : Action → Except Crash Outcome
  | generate strategy => onGenerated text strategy s
  | parse => onDiagram text Report.diagram
  | analyze => onDiagram text Report.analysis
  | validate => onDiagram text Report.validation
  | serialize => onGraph text

/-- **Runs what the arguments ask for**, given the settings and, for settings that fit, what
became of opening the log and of reading the file. -/
def Invocation.run (i : Invocation) (settings : Record.Checked Settings)
    (source : Settings → Except LogError (Except FileError String)) : Except Crash Outcome :=
  match settings with
  | .issues l => .error (.settings l)
  | .ok s => do
    let level ← Level.ofSettings i.level s
    let source ← (source s).mapError .log
    level.check
    match source with
    | .error .nullCharacter => throw .nullCharacter
    | .error e => pure (fail ("Cannot read " ++ i.file ++ ": " ++ e.message) [])
    | .ok text => i.action.run s text

/-- What becomes of the log and the text of a command where there are some files, of which
another text is at hand under the name of a hyphen. -/
def Invocation.source (i : Invocation) (files : Files) (input : String) (s : Settings) :
    Except LogError (Except FileError String) := do
  let files ← match s.logFile with
    | some path => files.openLog path
    | none => pure files
  pure (if i.file == "-" then .ok input else files.read i.file)

/-- The end of a command whose arguments ask for nothing. -/
def Refusal.outcome : Refusal → Outcome
  | help => ⟨0, none⟩
  | usage => ⟨2, none⟩

/-- A text with every line break written as a line feed, which is how files are read. -/
def withLineFeeds : List Char → List Char
  | [] => []
  | [c] => if c = '\r' then ['\n'] else [c]
  | c :: d :: rest =>
    if c = '\r' then
      if d = '\n' then '\n' :: withLineFeeds rest else '\n' :: withLineFeeds (d :: rest)
    else c :: withLineFeeds (d :: rest)

/-- The text of a file as it is read. -/
def fileText (s : String) : String := String.ofList (withLineFeeds s.toList)

end ErDiagram.Command
