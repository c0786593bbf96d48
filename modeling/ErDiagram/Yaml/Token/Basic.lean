import ErDiagram.Yaml.Cursor

/-!
# YAML tokens

The marks of the format, and between them the scalars. Where blocks begin and end shows in the
text by indentation only; in the list of tokens each of them has tokens of its own.

A text that cannot be scanned to its end gives tokens as well, the last of which says why. Whether
it is ever reached is up to the one who reads the tokens.

The list of tokens is the seam between the two halves of the reader. In front of it there are
characters, columns and indentation; behind it there is a grammar, and of the text only lines are
left.
-/

namespace ErDiagram.Yaml

/-- How a scalar is written. It is kept with the text for two reasons: what is written without
quotes may be something else than a text, and where the lines of a text stand in the document can
be counted for a literal scalar only. -/
inductive ScalarStyle where
  | plain
  | singleQuoted
  | doubleQuoted
  | literal
  | folded
deriving Repr, DecidableEq

/-- **A token of a YAML text.** What is indented in a text has tokens for its beginning and its end,
as brackets have, so that the grammar of the tokens does not know of columns. -/
inductive Token where
  /-- The version of the format that a document asks for. -/
  | version (major minor : Nat)
  /-- What a tag handle stands for. -/
  | handle (name meaning : String)
  /-- A directive of another kind. -/
  | reserved
  | documentStart
  | documentEnd
  | streamEnd
  | blockSequenceStart
  | blockMappingStart
  | blockEnd
  | flowSequenceStart
  | flowSequenceEnd
  | flowMappingStart
  | flowMappingEnd
  | blockEntry
  | flowEntry
  | key
  | value
  | alias (name : String)
  | anchor (name : String)
  /-- A tag: its handle, if it has one, and the rest. -/
  | tag (handle : Option String) (suffix : String)
  | scalar (text : String) (style : ScalarStyle)
  /-- Here the text breaks a rule; no token follows. -/
  | broken (why : Failure)
deriving Repr, DecidableEq

/-- A token with the lines, counted from zero, that it starts and ends on. -/
structure PlacedToken where
  /-- The token. -/
  token : Token
  /-- The line it starts on. -/
  first : Nat
  /-- The line it ends on. -/
  last : Nat
deriving Repr, DecidableEq

end ErDiagram.Yaml
