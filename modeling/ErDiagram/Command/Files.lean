import ErDiagram.Settings.Reading

/-!
# Files

A command reads its text from a file, and it may be told to log to another one, which is made
before anything is read. What a path leads to depends on the files alone: the directories are
those that files stand in, and those that were made for a log.

Of all that is around the directory of the command only the directories themselves are known, so
that a path which leads there finds no file.
-/

namespace ErDiagram.Command

/-- **Why a file cannot be read.** The reasons are those that an answer quotes, and the last one
holds a wording that is not known here. -/
inductive FileError where
  | missing
  | directory
  | notDirectory
  | tooLong
  /-- The path has a character that no path can have. -/
  | nullCharacter
  | other (reason : String)
deriving Repr, DecidableEq

/-- The wording of a reason. -/
def FileError.message : FileError → String
  | missing => "No such file or directory"
  | directory => "Is a directory"
  | notDirectory => "Not a directory"
  | tooLong => "File name too long"
  | nullCharacter => "embedded null byte"
  | other reason => reason

/-- **Why a log cannot be written.** These are not the reasons of `FileError`: a log that is missing
is made, with the directories on its way, and what goes wrong is that something else is there. -/
inductive LogError where
  /-- A directory has the name of the log. -/
  | directory
  /-- A file has the name of the directory of the log. -/
  | occupied
  /-- A file stands where the path goes on. -/
  | notDirectory
  | tooLong
deriving Repr, DecidableEq

/-- **The files of the directory that a command is run in.** Paths are given by their parts. There
are no directories in it but those that were made: any other one is known by the files below it. -/
structure Files where
  /-- The texts of the files. -/
  texts : List (List String × String) := []
  /-- The directories that have been made, besides those that files stand in. -/
  made : List (List String) := []

namespace Files

/-- The parts of a path, without those that stay in place. -/
def parts (path : String) : List String :=
  ((Text.splitAt '/' path.toList).filter fun p => !p.isEmpty && p != ['.']).map String.ofList

/-- The files with the given paths and texts. -/
def ofList (l : List (String × String)) : Files := { texts := l.map fun f => (parts f.1, f.2) }

/-- The text of the file at a place. -/
def text? (fs : Files) (place : List String) : Option String := fs.texts.lookup place

/-- Whether there is a directory at a place. -/
def isDirectory (fs : Files) (place : List String) : Bool :=
  place.isEmpty || fs.made.contains place
    || fs.texts.any fun f => place != f.1 && place.isPrefixOf f.1

/-- The most bytes that a part of a path may have. -/
def partLimit : Nat := 255

/-- The most bytes that a path may have. -/
def pathLimit : Nat := 4095

/-- The place that a path leads to. Around the directory of the command only the directories
themselves are known. -/
def walk (fs : Files) (here : List String) : List String → Except FileError (List String)
  | [] => .ok here
  | part :: rest =>
    if partLimit < part.utf8ByteSize then .error .tooLong
    else if part == ".." then
      if here.isEmpty then .error (if rest.all (· == "..") then .directory else .missing)
      else walk fs here.dropLast rest
    else
      let next := here ++ [part]
      if fs.isDirectory next then walk fs next rest
      else if (fs.text? next).isNone then .error .missing
      else if rest.isEmpty then .ok next
      else .error .notDirectory

/-- **The text that a path leads to.** -/
def read (fs : Files) (path : String) : Except FileError String :=
  let ps := parts path
  if path.toList.contains '\x00' then .error .nullCharacter
  else if pathLimit < (Settings.normalPath path).utf8ByteSize then .error .tooLong
  else if path.toList.head? == some '/' then
    .error (if ps.all (· == "..") then .directory else .missing)
  else match fs.walk [] ps with
    | .error e => .error e
    | .ok place =>
      match fs.text? place with
      | some s => .ok s
      | none => .error .directory

/-- Makes the directories on a path that are missing, and gives the last one; of directories
around that of the command nothing is known, and nothing is made there. -/
def makeDirectories (fs : Files) (here : List String) :
    List String → Except LogError (Files × Option (List String))
  | [] => .ok (fs, some here)
  | part :: rest =>
    if partLimit < part.utf8ByteSize then .error .tooLong
    else if part == ".." then
      if here.isEmpty then .ok (fs, none) else makeDirectories fs here.dropLast rest
    else
      let next := here ++ [part]
      if fs.isDirectory next then makeDirectories fs next rest
      else if (fs.text? next).isNone then
        makeDirectories { fs with made := next :: fs.made } next rest
      else .error (if rest.isEmpty then .occupied else .notDirectory)

/-- **Opens a log**, which makes an empty file where there is none. -/
def openLog (fs : Files) (path : String) : Except LogError Files :=
  let ps := parts path
  match ps.getLast? with
  | none => .error .directory
  | some name =>
    if path.toList.head? == some '/' then .ok fs
    else if name == ".." && ps.dropLast.all (· == "..") then .error .directory
    else match fs.makeDirectories [] ps.dropLast with
      | .error e => .error e
      | .ok (fs, none) => .ok fs
      | .ok (fs, some here) =>
        let place := here ++ [name]
        if partLimit < name.utf8ByteSize then .error .tooLong
        else if name == ".." || fs.isDirectory place then .error .directory
        else if (fs.text? place).isSome then .ok fs
        else .ok { fs with texts := fs.texts ++ [(place, "")] }

end Files

end ErDiagram.Command
