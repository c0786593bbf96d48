import ErDiagram.SyntaxError
import ErDiagram.Yaml.Cursor

/-!
# Why a document cannot be read

Most of what can be wrong with a document is a syntax error on one of its lines. The few other
reasons have no line: they lie in how values are tagged, nested or escaped.

The other reasons are not checks of the reader. Each of them is something that an operation on the
way cannot do: take the first word of a text without words, call itself once more, turn a number
into a character. They are constructors of their own because they are told apart from syntax
errors by whoever calls the reader, and because it is worth knowing which texts they come from.
-/

namespace ErDiagram

/-- **Why a text cannot be read as a diagram.** Only `invalid` is an error that the reader means
to give. -/
inductive ReadingError where
  /-- It says something wrong on one of its lines. -/
  | invalid (e : SyntaxError)
  /-- The text that gives the type of an attribute has no word. -/
  | missingType
  /-- What marks an entity as weak is tagged as a truth value and is no scalar. -/
  | weakNotScalar
  /-- A list of relationships contains itself, so that following it would not end with any room. -/
  | endless
  /-- Values or lists of relationships are nested more deeply than there is room for. -/
  | tooDeep
  /-- A number of the version of the document has too many digits. -/
  | tooManyDigits (count : Nat)
  /-- A quoted text escapes a number that is beyond all code points. -/
  | beyondUnicode (code : Nat)
deriving Repr, DecidableEq

namespace ReadingError

/-- An error on a line. -/
def onLine {α : Type} (line : Nat) (cause : SyntaxCause) : Except ReadingError α :=
  .error (.invalid ⟨cause, line⟩)

/-- What a syntax error stops, a reading error stops too. -/
def ofSyntax {α : Type} (r : Except SyntaxError α) : Except ReadingError α :=
  r.mapError invalid

end ReadingError

end ErDiagram
