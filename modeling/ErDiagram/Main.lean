import ErDiagram.Command.Run

/-!
# The command line

Reads the arguments, the environment and the files, runs the command and prints its answer.
Everything that is decided is decided elsewhere, by functions of what was read; here it is read
and printed.

This is the only module with effects, and nothing is proved of it. All that it tells apart are the
errors of the operating system, such as a file that is not there, and it turns them into values
(`FileError`) for others to decide on.
-/

namespace ErDiagram.Command

/-- The variables for settings that are set. -/
def environment : IO (List (String × String)) := do
  let mut found := []
  for name in Settings.names do
    let lower := Settings.variableStart ++ name
    for variant in [Text.upper lower, lower] do
      if let some v ← IO.getEnv variant then
        found := found ++ [(variant, v)]
  return found

/-- The text of the file of variables, if there is one. -/
def variableFile : IO String := do
  try
    return fileText (← IO.FS.readFile ".env")
  catch _ =>
    return ""

/-- The text of a file, or why it cannot be read. -/
def readSource (file : String) : IO (Except FileError String) := do
  if file == "-" then
    let input ← IO.getStdin
    let mut text := ""
    let mut line ← input.getLine
    while !line.isEmpty do
      text := text ++ line
      line ← input.getLine
    return .ok (fileText text)
  try
    return .ok (fileText (← IO.FS.readFile file))
  catch
    | .noFileOrDirectory .. => return .error .missing
    | .inappropriateType .. => return .error .directory
    | e => return .error (.other (toString e))

/-- Runs an invocation and prints its answer. -/
def execute (i : Invocation) : IO UInt32 := do
  let sources : Settings.Sources :=
    { environment := ← environment, file := ← variableFile }
  let source ← readSource i.file
  match i.run sources.settings (fun _ => .ok source) with
  | .ok o =>
    if let some answer := o.answer then
      IO.println answer.render
    return UInt32.ofNat o.code
  | .error _ =>
    IO.eprintln "The command cannot be run with these settings or this text."
    return 1

end ErDiagram.Command

/-- The command line. -/
def main (args : List String) : IO UInt32 := do
  match ErDiagram.Command.Invocation.ofArguments args with
  | .ok i => ErDiagram.Command.execute i
  | .error r =>
    IO.eprintln "usage: [--log-level LEVEL] (generate | parse | analyze | validate | serialize) FILE"
    return UInt32.ofNat r.outcome.code
