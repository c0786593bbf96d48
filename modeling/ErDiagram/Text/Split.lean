import ErDiagram.Text.CharClass

/-!
# Cutting a text into words and lines

Words are the longest runs of characters that are no blanks, each with the column it starts in;
lines are what line breaks separate. All functions here work on lists of characters, and columns
count characters.

They are recursions over the characters with no state but a column, so that what is cut from a
text can be proved by following its runs. Texts are turned into lists of characters where they are
cut, and back where something is named or quoted.
-/

namespace ErDiagram.Text

/-- The text without the blanks it starts with. -/
def stripLeft (cs : List Char) : List Char :=
  cs.dropWhile isBlank

/-- The text without the blanks it ends with. -/
def stripRight (cs : List Char) : List Char :=
  (cs.reverse.dropWhile isBlank).reverse

/-- **The text without the blanks around it.** The two ends do not depend on each other, but in a
text of blanks alone the first step leaves nothing to the second. -/
def strip (cs : List Char) : List Char :=
  stripRight (stripLeft cs)

/-- Whether a text has nothing but blanks. -/
def allBlank (cs : List Char) : Bool :=
  cs.all isBlank

/-- A word of a line and the column it starts in. Words without columns would do for reading a line,
but a token has to say where it stands. -/
structure Word where
  /-- How many characters of the line stand before the word. -/
  column : Nat
  /-- The characters of the word. -/
  chars : List Char
deriving Repr, DecidableEq

/-- **The words of a line** whose first character stands in the given column. A character that
is no blank extends the word that starts right after it, if there is one, and is a word of its
own otherwise. -/
def wordsFrom : Nat → List Char → List Word
  | _, [] => []
  | col, c :: rest =>
    let later := wordsFrom (col + 1) rest
    if isBlank c then later
    else match later with
      | [] => [⟨col, [c]⟩]
      | w :: ws => if w.column = col + 1 then ⟨col, c :: w.chars⟩ :: ws else ⟨col, [c]⟩ :: w :: ws

/-- The words of a text, without their columns. -/
def words (cs : List Char) : List (List Char) :=
  (wordsFrom 0 cs).map (·.chars)

/-- Texts in a row with a separator between each two of them. -/
def joinWith (separator : List Char) : List (List Char) → List Char
  | [] => []
  | [w] => w
  | w :: ws => w ++ separator ++ joinWith separator ws

/-- **The words of a text joined by single spaces.** Line breaks are blanks as well, so that the
result is one line, whatever the text was. -/
def squeeze (cs : List Char) : List Char :=
  joinWith [' '] (words cs)

/-- The pieces of a text between the occurrences of one character; there is one more piece
than there are occurrences. -/
def splitAt (separator : Char) : List Char → List (List Char)
  | [] => [[]]
  | c :: rest =>
    if c = separator then [] :: splitAt separator rest
    else match splitAt separator rest with
      | [] => [[c]]
      | p :: ps => (c :: p) :: ps

/-- The pieces of a text between its line breaks; a carriage return and the line feed after it
are one break. -/
def breakLines : List Char → List (List Char)
  | [] => [[]]
  | [c] => if isLineBreak c then [[], []] else [[c]]
  | c :: d :: rest =>
    if c = '\r' ∧ d = '\n' then [] :: breakLines rest
    else
      let later := breakLines (d :: rest)
      if isLineBreak c then [] :: later
      else match later with
        | [] => [[c]]
        | p :: ps => (c :: p) :: ps

/-- **The lines of a text**: the pieces between its breaks, where a break at the very end
opens no further line. -/
def lines (cs : List Char) : List (List Char) :=
  let pieces := breakLines cs
  if pieces.getLast? = some [] then pieces.dropLast else pieces

/-- What stands before and after the first occurrence of a text inside another. -/
def splitAround? (part : List Char) : List Char → Option (List Char × List Char)
  | [] => if part = [] then some ([], []) else none
  | c :: rest =>
    if part.isPrefixOf (c :: rest) then some ([], (c :: rest).drop part.length)
    else (splitAround? part rest).map fun (l, r) => (c :: l, r)

/-- Whether a text occurs inside another. -/
def occursIn (part whole : List Char) : Bool :=
  (splitAround? part whole).isSome

end ErDiagram.Text
