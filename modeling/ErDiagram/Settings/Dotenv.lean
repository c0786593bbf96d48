import ErDiagram.OrderedMap
import ErDiagram.Text.Split

/-!
# Files of variables

A file of variables has one assignment `name=value` per line. Values may be quoted, and then go
over several lines; they may refer to other variables as `${name}` or `${name:-default}`. A line
that is no assignment is skipped.

Reading has two steps. The assignments are found first, by their form alone, and their values are
replaced afterwards, in order, since a value can only refer to what was assigned before it or to
the surroundings. Reading never fails: where an assignment breaks off, the next line is tried.
-/

namespace ErDiagram.Dotenv

open Text

/-- Variables and their values; a variable may be named without getting a value. -/
abbrev Variables := OrderedMap String (Option String)

private def isLineEnd (c : Char) : Bool := c == '\n' || c == '\r'

/-- Blanks that end no line. -/
private def isGap (c : Char) : Bool := isBlank c && !isLineEnd c

/-- The text behind the break that a text starts with. -/
private def dropBreak : List Char → List Char
  | '\r' :: '\n' :: r => r
  | '\n' :: r => r
  | '\r' :: r => r
  | r => r

/-- The text from the next line on. -/
private def nextLine (cs : List Char) : List Char :=
  match cs.dropWhile (!isLineEnd ·) with
  | [] => []
  | _ :: r => r

/-- The text up to a closing quote, and what follows it. A quote behind a backslash closes only
if there is no other one. -/
private def quoted? (quote : Char) : List Char → Option (List Char × List Char)
  | [] => none
  | '\\' :: c :: r =>
    if c = quote then
      match quoted? quote r with
      | some (v, r) => some ('\\' :: c :: v, r)
      | none => some (['\\'], r)
    else (quoted? quote (c :: r)).map fun (v, r) => ('\\' :: v, r)
  | c :: r => if c = quote then some ([], r) else (quoted? quote r).map fun (v, r) => (c :: v, r)

/-- The letters of escapes and what they stand for. -/
private def escapes : List (Char × Char) :=
  [('\\', '\\'), ('\'', '\''), ('"', '"'), ('a', '\x07'), ('b', '\x08'), ('f', '\x0c'),
    ('n', '\n'), ('r', '\r'), ('t', '\t'), ('v', '\x0b')]

/-- A quoted text with its escapes replaced; in single quotes only backslashes and single
quotes are escaped. -/
private def unescape (single : Bool) : List Char → List Char
  | '\\' :: c :: r =>
    match escapes.lookup c with
    | some d =>
      if single && c != '\\' && c != '\'' then '\\' :: unescape single (c :: r)
      else d :: unescape single r
    | none => '\\' :: unescape single (c :: r)
  | c :: r => c :: unescape single r
  | [] => []

/-- A text without a comment, which starts with blanks and a hash. -/
private def withoutComment : List Char → List Char
  | [] => []
  | c :: r =>
    if isBlank c && (r.dropWhile isBlank).head? == some '#' then [] else c :: withoutComment r

/-- A value and what follows it. -/
private def value? : List Char → Option (List Char × List Char)
  | '\'' :: r => (quoted? '\'' r).map fun (v, r) => (unescape true v, r)
  | '"' :: r => (quoted? '"' r).map fun (v, r) => (unescape false v, r)
  | cs =>
    let line := cs.takeWhile (!isLineEnd ·)
    some (stripRight (withoutComment line), cs.dropWhile (!isLineEnd ·))

/-- A name and what follows it; a comment has none. -/
private def name? : List Char → Option (Option (List Char) × List Char)
  | '#' :: r => some (none, '#' :: r)
  | '\'' :: r =>
    let name := r.takeWhile (· != '\'')
    match r.dropWhile (· != '\'') with
    | _ :: rest => if name.isEmpty then none else some (some name, rest)
    | [] => none
  | cs =>
    let isNameChar := fun c : Char => c != '=' && c != '#' && !isBlank c
    let name := cs.takeWhile isNameChar
    if name.isEmpty then none else some (some name, cs.dropWhile isNameChar)

/-- What follows the word that may stand before a name. -/
private def afterExport (cs : List Char) : List Char :=
  match splitAround? "export".toList cs with
  | some ([], r) =>
    match r with
    | c :: _ => if isGap c then r.dropWhile isGap else cs
    | [] => cs
  | _ => cs

/-- The end of a line, behind which the next assignment starts. -/
private def lineEnd? (cs : List Char) : Option (List Char) :=
  let rest := cs.dropWhile isGap
  let rest := if rest.head? == some '#' then rest.dropWhile (!isLineEnd ·) else rest
  let rest := rest.dropWhile isGap
  match rest with
  | [] => some []
  | c :: _ => if isLineEnd c then some (dropBreak rest) else none

/-- An assignment and what follows it. What is none is an error, which tells where reading has
stopped. -/
private def assignment (cs : List Char) :
    Except (List Char) (Option (List Char × Option (List Char)) × List Char) :=
  let start := afterExport cs
  match name? start with
  | none => .error start
  | some (name, rest) =>
    let rest := rest.dropWhile isGap
    let read : Except (List Char) (Option (List Char) × List Char) := match rest with
      | '=' :: r =>
        match value? (r.dropWhile isGap) with
        | some (v, r) => .ok (some v, r)
        | none => .error r
      | r => .ok (none, r)
    match read with
    | .error stop => .error stop
    | .ok (value, rest) =>
      match lineEnd? rest with
      | some after => .ok (name.map fun n => (n, value), after)
      | none => .error rest

/-- The assignments of a text. -/
private def assignments : Nat → List Char → List (List Char × Option (List Char))
  | 0, _ => []
  | fuel + 1, cs =>
    match cs.dropWhile isBlank with
    | [] => []
    | cs =>
      match assignment cs with
      | .ok (some a, rest) => a :: assignments fuel rest
      | .ok (none, rest) => assignments fuel rest
      | .error stop => assignments fuel (nextLine stop)

/-- The value of a variable: the one assigned before, or else the one of the surroundings. -/
private def resolve (outer : List (String × String)) (known : Variables) (name : String) :
    Option String :=
  match known.get? name with
  | some v => v
  | none => outer.lookup name

/-- A value with the variables that it refers to replaced. -/
private def expand (outer : List (String × String)) (known : Variables) :
    Nat → List Char → List Char
  | 0, cs => cs
  | _ + 1, [] => []
  | fuel + 1, '$' :: '\x7b' :: r =>
    let name := r.takeWhile fun c => c != '\x7d' && c != ':'
    let text (fallback : List Char) : List Char :=
      let n := String.ofList name
      if known.contains n || (outer.lookup n).isSome then
        ((resolve outer known n).getD "").toList
      else fallback
    match r.drop name.length with
    | '\x7d' :: rest => text [] ++ expand outer known fuel rest
    | ':' :: '-' :: rest =>
      let fallback := rest.takeWhile (· != '\x7d')
      match rest.drop fallback.length with
      | _ :: rest => text fallback ++ expand outer known fuel rest
      | [] => '$' :: expand outer known fuel ('\x7b' :: r)
    | _ => '$' :: expand outer known fuel ('\x7b' :: r)
  | fuel + 1, c :: r => c :: expand outer known fuel r

/-- **The variables of a file**, given those of its surroundings. A later assignment counts. -/
def read (outer : List (String × String)) (text : String) : Variables :=
  let cs := text.toList
  (assignments (cs.length + 1) cs).foldl (fun known (name, value) =>
    let value := value.map fun v => String.ofList (expand outer known (v.length + 1) v)
    known.insert (String.ofList name) value) .empty

end ErDiagram.Dotenv
