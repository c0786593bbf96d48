import ErDiagram.Text.Surrogate

/-!
# A place in a YAML text

Characters are read one after the other, and the line and the column of the next one are kept
along: where a token starts decides what block it belongs to.

A place is a value, and going on gives another one. So the text can be looked at ahead of a place
without coming back from there, and a scanner is a function from a place to what it found and the
place behind it.
-/

namespace ErDiagram.Yaml

/-- The characters that a YAML text may hold. -/
def isPrintable (c : Char) : Bool :=
  let n := Text.unitOf c
  n == 0x09 || n == 0x0a || n == 0x0d || (0x20 ≤ n && n ≤ 0x7e) || n == 0x85
    || (0xa0 ≤ n && n ≤ 0xd7ff) || (0xe000 ≤ n && n ≤ 0xfffd) || 0x10000 ≤ n

/-- The characters that end a line. -/
def isBreak (c : Char) : Bool :=
  c == '\n' || c == '\r' || c.toNat == 0x85 || c.toNat == 0x2028 || c.toNat == 0x2029

/-- The next character is a line break, or there is none. -/
def breakOrEnd : Option Char → Bool
  | none => true
  | some c => isBreak c

/-- The next character is a space or a line break, or there is none. -/
def spaceOrEnd : Option Char → Bool
  | none => true
  | some c => c == ' ' || isBreak c

/-- The next character is a space, a tab or a line break, or there is none. -/
def gapOrEnd : Option Char → Bool
  | none => true
  | some c => c == ' ' || c == '\t' || isBreak c

/-- Digits and letters of ASCII, the hyphen and the underscore. -/
def isNameChar (c : Char) : Bool :=
  c.isAlphanum || c == '-' || c == '_'

/-- Hexadecimal digits. -/
def isHexDigit (c : Char) : Bool :=
  ('0' ≤ c && c ≤ '9') || ('a' ≤ c && c ≤ 'f') || ('A' ≤ c && c ≤ 'F')

/-- The number that hexadecimal digits denote. -/
def hexValue (cs : List Char) : Nat :=
  cs.foldl (fun n c =>
    16 * n + (if c.isDigit then c.toNat - 48 else if 'a' ≤ c then c.toNat - 87 else c.toNat - 55)) 0

/-- **A place in a text**: what follows it, and where it is. The three numbers are kept along with
the rest and not computed from it, as what has been read is not kept. A byte-order mark counts as a
character, but takes no column. -/
structure Cursor where
  /-- The characters that follow. -/
  rest : List Char
  /-- How many characters come before. -/
  index : Nat := 0
  /-- How many line breaks come before. -/
  line : Nat := 0
  /-- How many characters of the line come before, not counting byte-order marks. -/
  column : Nat := 0

namespace Cursor

/-- The next character. -/
def peek? (c : Cursor) : Option Char := c.rest.head?

/-- The character after the next `n` ones. -/
def peekAt? (c : Cursor) (n : Nat) : Option Char := (c.rest.drop n).head?

/-- Whether the next character is the given one. -/
def isAt (c : Cursor) (ch : Char) : Bool := c.rest.head? == some ch

/-- Goes past one character. A carriage return before a line feed does not end the line yet. -/
def next (c : Cursor) : Cursor :=
  match c.rest with
  | [] => c
  | ch :: rest =>
    let ends := isBreak ch && !(ch == '\r' && rest.head? == some '\n')
    if ends then { rest, index := c.index + 1, line := c.line + 1, column := 0 }
    else if ch.toNat = 0xfeff then { c with rest, index := c.index + 1 }
    else { c with rest, index := c.index + 1, column := c.column + 1 }

/-- Goes past some characters. -/
def skip (c : Cursor) : Nat → Cursor
  | 0 => c
  | n + 1 => c.next.skip n

/-- The longest run of characters of a class, and the place after it. -/
def span (c : Cursor) (p : Char → Bool) : List Char × Cursor :=
  let cs := c.rest.takeWhile p
  (cs, c.skip cs.length)

/-- Goes past the longest run of characters of a class. -/
def skipWhile (c : Cursor) (p : Char → Bool) : Cursor := (c.span p).2

/-- Goes past a line break, if the next character is one, and gives the character that the
break stands for: the two separators of Unicode stand for themselves, all others for a line
feed. -/
def lineBreak? (c : Cursor) : Option (Char × Cursor) :=
  match c.rest with
  | '\r' :: '\n' :: _ => some ('\n', c.skip 2)
  | ch :: _ =>
    if ch == '\n' || ch == '\r' || ch.toNat == 0x85 then some ('\n', c.next)
    else if isBreak ch then some (ch, c.next)
    else none
  | [] => none

/-- Whether the text goes on with three equal characters and a gap, as the marks between
documents do. -/
def atTriple (c : Cursor) (ch : Char) : Bool :=
  match c.rest with
  | a :: b :: d :: rest => a == ch && b == ch && d == ch && gapOrEnd rest.head?
  | _ => false

/-- Whether the text goes on with a mark between documents. -/
def atDocumentMark (c : Cursor) : Bool := c.atTriple '-' || c.atTriple '.'

/-- Goes past the spaces, the comment and the break that may end a line; nothing else may
stand there. -/
def restOfLine? (c : Cursor) : Option Cursor :=
  let c := c.skipWhile (· == ' ')
  let c := if c.isAt '#' then c.skipWhile (fun ch => !isBreak ch) else c
  if breakOrEnd c.peek? then
    match c.lineBreak? with
    | some (_, c) => some c
    | none => some c
  else none

end Cursor

/-- **Why a text is no YAML document.** -/
inductive Failure where
  /-- It breaks a rule of the format. -/
  | malformed
  /-- It escapes a character by a number beyond all code points. -/
  | beyondUnicode (code : Nat)
  /-- A number of a version has too many digits. -/
  | tooManyDigits (count : Nat)
  /-- Its nodes are nested too deeply. -/
  | tooDeep
deriving Repr, DecidableEq

end ErDiagram.Yaml
