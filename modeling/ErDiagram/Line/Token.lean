import ErDiagram.Identifier
import ErDiagram.Cardinality

/-!
# Tokens of a line

The part of a line before its first colon is cut into words, and each word is one token, or two or
three when a symbol is glued to the names beside it. The colon is a token, and what follows it is
one more, however many words it has.

Tokens keep their columns, so that nothing is lost: what is not in a token is blank, apart from
the brackets of a name in brackets. Words are cut one by one and without regard to each other, so
that the tokens of a line are those of its words in a row.
-/

namespace ErDiagram.Line

open Text

/-- What a token is. A word that has the look of a symbol without being one is a kind of its own
and no error yet: which error it is, and on which line, is decided where tokens are put together. -/
inductive TokenKind where
  | ident
  | cardinality
  /-- A word that looks like a symbol and is none. -/
  | unknownSymbol
  | colon
  | label
  | openBrace
  | closeBrace
  | other
deriving Repr, DecidableEq

/-- The name of a kind in answers. -/
def TokenKind.name : TokenKind → String
  | ident => "ident"
  | cardinality => "cardinality"
  | unknownSymbol => "unknown_symbol"
  | colon => "colon"
  | label => "label"
  | openBrace => "lbrace"
  | closeBrace => "rbrace"
  | other => "other"

/-- **A token of a line**, with the place where it stands. Its text is a list of characters, as a
token is a part of a line, and it is compared with the line character by character. -/
structure Token where
  /-- What it is. -/
  kind : TokenKind
  /-- Its characters; an identifier in square brackets leaves the brackets out. -/
  chars : List Char
  /-- How many characters of the line stand before it. -/
  column : Nat
deriving Repr, DecidableEq

/-- The text of a token. -/
def Token.text (t : Token) : String := String.ofList t.chars

/-- Whether two hyphens stand side by side. -/
def hasDoubleHyphen : List Char → Bool
  | c :: d :: rest => (c == '-' && d == '-') || hasDoubleHyphen (d :: rest)
  | _ => false

/-- Whether a word looks like a symbol: it has two hyphens in a row, a bar or a brace. Such a word
is a symbol or an error, even if it could be read otherwise. -/
def looksLikeSymbol (w : List Char) : Bool :=
  hasDoubleHyphen w || w.any fun c => c == '|' || c == '{' || c == '}'

/-- A word that is a name, one given symbol and perhaps a second name, cut into tokens. The name
in front must be there; behind the symbol the word may end. The symbol is looked for where it
occurs first, and if what is beside it are no names, the word is not cut at this symbol at all. -/
def splitAtSymbol? (c : Cardinality) (w : Word) : Option (List Token) :=
  match splitAround? c.chars w.chars with
  | none => none
  | some (left, right) =>
    if isIdentifier left && (right.isEmpty || isIdentifier right) then
      let source : Token := ⟨.ident, left, w.column⟩
      let symbol : Token := ⟨.cardinality, c.chars, w.column + left.length⟩
      let target : Token := ⟨.ident, right, w.column + left.length + c.chars.length⟩
      some (if right.isEmpty then [source, symbol] else [source, symbol, target])
    else none

/-- **The tokens of a glued word** such as `A||--o{B`, by the first symbol of the table that
splits it. -/
def splitGlued? (w : Word) : Option (List Token) :=
  Cardinality.all.findSome? fun c => splitAtSymbol? c w

/-- The identifier between two square brackets. -/
def bracketed? : List Char → Option (List Char)
  | '[' :: rest =>
    if rest.getLast? = some ']' && isIdentifier rest.dropLast then some rest.dropLast else none
  | _ => none

/-- **The tokens of a word.** The order of the cases matters: a name is a name although it has
hyphens in it, as long as no two stand side by side. -/
def wordTokens (w : Word) : List Token :=
  if (Cardinality.ofChars? w.chars).isSome then [⟨.cardinality, w.chars, w.column⟩]
  else if w.chars = ['{'] then [⟨.openBrace, w.chars, w.column⟩]
  else if w.chars = ['}'] then [⟨.closeBrace, w.chars, w.column⟩]
  else if isIdentifier w.chars then [⟨.ident, w.chars, w.column⟩]
  else if looksLikeSymbol w.chars then
    (splitGlued? w).getD [⟨.unknownSymbol, w.chars, w.column⟩]
  else match bracketed? w.chars with
    | some name => [⟨.ident, name, w.column⟩]
    | none => [⟨.other, w.chars, w.column⟩]

/-- Whether a line says nothing: it is blank, or a comment. -/
def isSilent (cs : List Char) : Bool :=
  match strip cs with
  | [] => true
  | '#' :: _ => true
  | '%' :: '%' :: _ => true
  | _ => false

/-- The characters before the first colon. -/
def beforeColon (cs : List Char) : List Char := cs.takeWhile (· ≠ ':')

/-- The characters after the first colon, if there is one. -/
def afterColon? (cs : List Char) : Option (List Char) :=
  match cs.dropWhile (· ≠ ':') with
  | [] => none
  | _ :: tail => some tail

/-- The tokens of a colon in the given column and of the text after it. -/
def labelTokens (column : Nat) (tail : List Char) : List Token :=
  let label := strip tail
  let start := column + 1 + (tail.takeWhile isBlank).length
  ⟨.colon, [':'], column⟩ :: if label.isEmpty then [] else [⟨.label, label, start⟩]

/-- **The tokens of a line**, in order. A silent line has none. The text behind the first colon is
not cut into words, so that a label may hold anything, colons included. -/
def tokenize (cs : List Char) : List Token :=
  if isSilent cs then []
  else
    let head := beforeColon cs
    (wordsFrom 0 head).flatMap wordTokens ++
      match afterColon? cs with
      | none => []
      | some tail => labelTokens head.length tail

end ErDiagram.Line
