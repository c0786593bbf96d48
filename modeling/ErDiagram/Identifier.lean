import ErDiagram.Text.Split

/-!
# Identifiers

The names that the line syntax can read: one or more runs of word characters joined by single
hyphens. `cleanName` brings any text into this form, with one exception: a name that is an
identifier with a line feed behind it counts as fit, and is left as it is.

Two hyphens in a row are kept out of identifiers since they are what symbols are recognized by.
That is why a name is described by its runs, and not as a list of characters of which each passes a
test: where a hyphen may stand depends on what is beside it.
-/

namespace ErDiagram

open Text

/-- What may follow the first character of an identifier: word characters, and hyphens that
stand between two word characters. -/
def identifierTail : List Char → Bool
  | [] => true
  | [c] => isWordChar c
  | c :: d :: rest =>
    if c = '-' then isWordChar d && identifierTail rest
    else isWordChar c && identifierTail (d :: rest)

/-- **Identifiers**: word characters joined by single inner hyphens. The test looks at one character
after the other, where a hyphen asks for a word character behind it; the first character cannot be a
hyphen, nor can the last. -/
def isIdentifier : List Char → Bool
  | [] => false
  | c :: rest => isWordChar c && identifierTail rest

/-- Every run of characters that belong to no name becomes one underscore. -/
def underscoreRuns : List Char → List Char
  | [] => []
  | c :: rest =>
    if isWordChar c || c == '-' then c :: underscoreRuns rest
    else match rest with
      | [] => ['_']
      | d :: _ =>
        if isWordChar d || d == '-' then '_' :: underscoreRuns rest else underscoreRuns rest

/-- Every run of hyphens becomes one hyphen. -/
def singleHyphens : List Char → List Char
  | [] => []
  | [c] => [c]
  | c :: d :: rest =>
    if c = '-' ∧ d = '-' then singleHyphens (d :: rest) else c :: singleHyphens (d :: rest)

/-- The text without the hyphens and underscores around it. -/
def trimJoiners (cs : List Char) : List Char :=
  let joiner := fun c : Char => c == '-' || c == '_'
  ((cs.dropWhile joiner).reverse.dropWhile joiner).reverse

/-- Whether a text is an identifier, or an identifier with one line feed after it. This is what a
name is tested for before it is cleaned: a pattern that ends at the end of a line matches both. -/
def isIdentifierLine (cs : List Char) : Bool :=
  isIdentifier cs || (cs.getLast? == some '\n' && isIdentifier cs.dropLast)

/-- **A name made fit for the line syntax.** An identifier stays as it is, with the line feed
that may end it; in any other text the characters that no name has become underscores, hyphens
are single, and none of either is left at the ends. -/
def cleanName (s : String) : String :=
  let cs := s.toList
  if isIdentifierLine cs then s
  else String.ofList (trimJoiners (singleHyphens (underscoreRuns cs)))

end ErDiagram
