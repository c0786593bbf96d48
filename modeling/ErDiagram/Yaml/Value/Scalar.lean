import ErDiagram.Yaml.Tag
import ErDiagram.Yaml.Token.Basic

/-!
# Writing scalars

A text is written without quotes where it would read back as the same text, else in single
quotes, and in double quotes only if it has characters that need an escape or spaces beside a
line break. Lines are folded at a space once they are longer than `lineWidth`.

All functions give the characters to append, from the column that they start in. The column is an
argument because folding depends on it, so that a text is not written alike in every place; and
that it reads back alike must hold in all of them.
-/

namespace ErDiagram.Yaml.Value

/-- Lines that are longer than this are folded where they can be. -/
def lineWidth : Nat := 80

/-! ## What a text consists of -/

/-- Whether a character breaks lines inside a scalar. -/
def breaksLine (c : Char) : Bool :=
  c == '\n' || c.toNat == 0x85 || c.toNat == 0x2028 || c.toNat == 0x2029

/-- Whether a character separates a mark from what stands beside it. -/
def isSeparator (c : Char) : Bool :=
  breaksLine c || c == ' ' || c == '\t' || c == '\r' || c.toNat == 0

/-- Whether a character has to be escaped. -/
def isSpecial (c : Char) : Bool :=
  let n := Text.unitOf c
  !(c == '\n' || (0x20 ≤ n && n ≤ 0x7e) || n == 0x85 || (0xa0 ≤ n && n ≤ 0xd7ff)
    || (0xe000 ≤ n && n ≤ 0xfffd && n != 0xfeff) || (0x10000 ≤ n && n < 0x10ffff))

/-- Whether two neighbours of a text pass a test. -/
def anyNeighbours (p : Char → Char → Bool) : List Char → Bool
  | a :: b :: rest => p a b || anyNeighbours p (b :: rest)
  | _ => false

/-- Whether a text breaks a line next to a space. -/
def hasSpaceAtBreak (cs : List Char) : Bool :=
  anyNeighbours (fun a b => (a == ' ' && breaksLine b) || (breaksLine a && b == ' ')) cs

/-- The characters that mark something else than a text when it starts with them. -/
def leadingMarks : List Char :=
  ['#', ',', '[', ']', '\x7b', '\x7d', '&', '*', '!', '|', '>', '\'', '"', '%', '@', '\x60']

/-- Whether a text starts like something else, or has a mark inside. -/
def hasMarks (cs : List Char) : Bool :=
  ['-', '-', '-'].isPrefixOf cs || ['.', '.', '.'].isPrefixOf cs
    || (match cs with
      | c :: rest =>
        leadingMarks.contains c
          || ((c == '?' || c == '-') && (rest.head?.map isSeparator).getD true)
      | [] => false)
    || anyNeighbours (fun a b => (a == ':' && isSeparator b) || (isSeparator a && b == '#')) cs
    || cs.getLast? == some ':'

/-- Whether a text can stand without quotes. -/
def canBePlain (cs : List Char) : Bool :=
  !cs.isEmpty && cs.head? != some ' ' && cs.getLast? != some ' '
    && !cs.any breaksLine && !cs.any isSpecial && !hasMarks cs

/-- Whether a text can stand in single quotes. -/
def canBeSingle (cs : List Char) : Bool :=
  !cs.any isSpecial && !hasSpaceAtBreak cs

/-- **The style that a text is written in.** The tag is asked as well as the characters: a text such
as a number could be written without quotes, but it would not be read back as a text. -/
def styleOf (s : String) : ScalarStyle :=
  if canBePlain s.toList && Tag.ofPlain s == Tag.str then .plain
  else if canBeSingle s.toList then .singleQuoted
  else .doubleQuoted

/-! ## Folding -/

/-- Spaces in a row. -/
def spaces (n : Nat) : List Char := List.replicate n ' '

/-- A new line that starts with some spaces. -/
def newLine (indent : Nat) : List Char := '\n' :: spaces indent

/-- How characters share the runs that a text is written in. A text is folded at a run of a single
space, and never inside a word. -/
inductive RunKind where
  | blank
  | lineBreak
  | word
deriving Repr, DecidableEq

/-- The kind of a character. -/
def RunKind.of (c : Char) : RunKind :=
  if c = ' ' then blank else if breaksLine c then lineBreak else word

/-- The longest runs of characters of one kind. -/
def runs : List Char → List (List Char)
  | [] => []
  | c :: rest =>
    match runs rest with
    | (d :: more) :: later =>
      if RunKind.of c = RunKind.of d then (c :: d :: more) :: later
      else [c] :: (d :: more) :: later
    | later => [c] :: later

/-- Characters with each quote written twice. -/
def doubleQuotes (quote : Option Char) : List Char → List Char
  | [] => []
  | c :: rest =>
    if some c = quote then c :: c :: doubleQuotes quote rest else c :: doubleQuotes quote rest

/-- **The runs of a text, folded**: a single space inside the text becomes a line break once the
line is too long, and line breaks of the text are kept by one more of them. -/
def foldRuns (quote : Option Char) (indent : Nat) (split : Bool) :
    Bool → Nat → List (List Char) → List Char
  | _, _, [] => []
  | first, column, run :: later =>
    match (run.head?.map RunKind.of).getD .word with
    | .blank =>
      if split && run.length == 1 && !first && !later.isEmpty && lineWidth < column then
        newLine indent ++ foldRuns quote indent split false indent later
      else run ++ foldRuns quote indent split false (column + run.length) later
    | .lineBreak =>
      (if run.head? == some '\n' then ['\n'] else []) ++ run ++ spaces indent ++
        foldRuns quote indent split false indent later
    | .word =>
      let written := doubleQuotes quote run
      written ++ foldRuns quote indent split false (column + written.length) later

/-! ## Escapes -/

/-- A number in hexadecimal digits, at least some many. -/
def hexDigits (width n : Nat) : List Char :=
  let ds := (Nat.toDigits 16 n).map Char.toUpper
  List.replicate (width - ds.length) '0' ++ ds

/-- The letters of the escapes that have one. -/
def escapeLetters : List (Char × Char) :=
  [('\x00', '0'), ('\x07', 'a'), ('\x08', 'b'), ('\t', 't'), ('\n', 'n'), ('\x0b', 'v'),
    ('\x0c', 'f'), ('\r', 'r'), ('\x1b', 'e'), ('"', '"'), ('\\', '\\'), ('\x85', 'N'),
    ('\xa0', '_'), ('\u2028', 'L'), ('\u2029', 'P')]

/-- Whether a character is escaped between double quotes. -/
def isEscaped (c : Char) : Bool :=
  let n := c.toNat
  c == '"' || c == '\\' || n == 0x85 || n == 0x2028 || n == 0x2029 || n == 0xfeff
    || !((0x20 ≤ n && n ≤ 0x7e) || (0xa0 ≤ n && n ≤ 0xd7ff) || (0xe000 ≤ n && n ≤ 0xfffd))

/-- The escape of a character. -/
def escape (c : Char) : List Char :=
  '\\' :: match escapeLetters.lookup c with
    | some letter => [letter]
    | none =>
      let n := Text.unitOf c
      if n ≤ 0xff then 'x' :: hexDigits 2 n
      else if n ≤ 0xffff then 'u' :: hexDigits 4 n
      else 'U' :: hexDigits 8 n

/-- **A text between double quotes**, without the quotes. A line is folded before a space or
behind an escape, and a space that then starts a line is escaped too. -/
def escaped (indent : Nat) (split : Bool) :
    (first afterEscape : Bool) → (column : Nat) → List Char → List Char
  | _, _, _, [] => []
  | first, afterEscape, column, c :: rest =>
    let inner := split && !first && !rest.isEmpty
    if isEscaped c then
      let e := escape c
      let column := column + e.length
      if inner && lineWidth + 1 < column then
        let guard := if rest.head? == some ' ' then ['\\'] else []
        e ++ '\\' :: newLine indent ++ guard ++
          escaped indent split false true (indent + guard.length) rest
      else e ++ escaped indent split false true column rest
    else if inner && (c == ' ' || afterEscape) && lineWidth < column then
      let guard := if c == ' ' then ['\\'] else []
      '\\' :: newLine indent ++ guard ++ c ::
        escaped indent split false false (indent + guard.length + 1) rest
    else c :: escaped indent split false false (column + 1) rest

/-- **A text as a scalar**, from the given column on; further lines start with `indent` spaces.
A text that must stay on one line is not split. -/
def scalar (indent : Nat) (split : Bool) (column : Nat) (s : String) : List Char :=
  let cs := s.toList
  match styleOf s with
  | .plain => foldRuns none indent split true column (runs cs)
  | .singleQuoted => '\'' :: foldRuns (some '\'') indent split true (column + 1) (runs cs) ++ ['\'']
  | _ => '"' :: escaped indent split true false (column + 1) cs ++ ['"']

end ErDiagram.Yaml.Value
