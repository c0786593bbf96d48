import ErDiagram.Record.Issue

/-!
# Syntax errors

Why a text cannot be read as a diagram. A cause holds what its message quotes, and an error is
a cause together with the line, counted from one, that it is found on.

One cause quotes the wording of others. Where the fields of an attribute do not fit, the message
goes on with what the check of the fields has to say about them, which is several lines long and
points to a manual. This wording is a parameter of `SyntaxCause.messageWith`, for it is not decided
here; `SyntaxCause.message` is the part in front of it, which the answers of this library end with.
-/

namespace ErDiagram

/-- **What is wrong with a text.** There is a constructor for each thing that a text is refused for,
with what the message quotes. Causes are what is compared, and their wordings follow from them, so
that two errors are told apart even if they were to read the same. -/
inductive SyntaxCause where
  /-- A word looks like a symbol and is none. -/
  | unknownSymbol (word : String)
  /-- A line has a symbol and is not a name, the symbol and a name. -/
  | malformedRelationship
  /-- An attribute line ends in a word that is no flag. -/
  | unknownFlag (word : String)
  /-- A line has no known shape. -/
  | unrecognizedLine (text : String)
  /-- A relationship line stands inside an attribute block. -/
  | relationshipInBlock (entity : String)
  /-- An attribute line stands outside every block. -/
  | attributeOutsideBlock (text : String)
  /-- A block ends that was not opened. -/
  | unexpectedBlockEnd
  /-- The text ends inside an attribute block. -/
  | unclosedBlock (entity : String)
  /-- A document has none of the known shapes. -/
  | invalidFormat
  /-- A list or a mapping stands where a text is needed. -/
  | unexpectedStructure (key : String)
  /-- A list of relationships holds another kind of line. -/
  | expectedRelationship (text : String)
  /-- The fields of an attribute do not fit. -/
  | invalidAttribute (name : Option String) (issues : List Record.Issue)
  /-- The name of an attribute is no text. -/
  | attributeNameNotText
  /-- An item of an attribute list is no attribute. -/
  | invalidAttributeItem (entity : String)
  /-- The attributes of an entity are neither a mapping nor a list. -/
  | attributesNotCollection (entity : String)
  /-- The name of an entity is no text. -/
  | entityNameNotText
  /-- The entities are neither a mapping nor a list. -/
  | entitiesNotCollection
  /-- A structured diagram has an unknown section. -/
  | unknownSection (key : Option String)
  /-- A document has an unknown key. -/
  | unknownKey (key : String)
deriving Repr, DecidableEq

/-- How a missing name is written in a message. -/
private def orNone (name : Option String) : String := name.getD "None"

/-- **The wording of a cause**, given what stands behind it about the fields of a record that do
not fit. -/
def SyntaxCause.messageWith (quote : List Record.Issue → String) : SyntaxCause → String
  | unknownSymbol w => "Unrecognized cardinality symbol '" ++ w ++ "'"
  | malformedRelationship =>
    "Malformed relationship line, expected '<entity> <cardinality> <entity> [: label]'"
  | unknownFlag w => "Unknown attribute flag '" ++ w ++ "'"
  | unrecognizedLine t => "Unrecognized line: " ++ t
  | relationshipInBlock e => "Relationship inside attribute block of " ++ e
  | attributeOutsideBlock t => "Attribute outside of an entity block: " ++ t
  | unexpectedBlockEnd => "Unexpected '\x7d'"
  | unclosedBlock e => "Attribute block of " ++ e ++ " is never closed"
  | invalidFormat =>
    "Invalid format: use relationship lines directly or erDiagram as the main key"
  | unexpectedStructure k => "Unexpected structure under '" ++ k ++ "'"
  | expectedRelationship t => "Expected a relationship line: " ++ t
  | invalidAttribute n issues => "Invalid attribute '" ++ orNone n ++ "'" ++ quote issues
  | attributeNameNotText => "Attribute name must be text"
  | invalidAttributeItem e => "Invalid attribute of " ++ e
  | attributesNotCollection e => "Attributes of " ++ e ++ " must be a mapping or list"
  | entityNameNotText => "Entity names must be text"
  | entitiesNotCollection => "'entities' must be a mapping of entity names"
  | unknownSection k => "Unknown key '" ++ orNone k ++ "' under erDiagram"
  | unknownKey k => "Unknown top-level key '" ++ k ++ "'"

/-- The wording of a cause up to what it quotes about the fields of a record. -/
def SyntaxCause.message : SyntaxCause → String := messageWith fun _ => ""

/-- **A syntax error.** The line is beside the cause and in none of its constructors: every error
has one, and whatever is wrong is found on some line. -/
structure SyntaxError where
  /-- What is wrong. -/
  cause : SyntaxCause
  /-- The line, counted from one, that it is found on. -/
  line : Nat
deriving Repr, DecidableEq

/-- The wording of an error, without its line and without what it quotes about fields. -/
def SyntaxError.message (e : SyntaxError) : String := e.cause.message

end ErDiagram
