import ErDiagram.Diagram.Basic
import ErDiagram.Line.Token
import ErDiagram.SyntaxError

/-!
# Shapes of lines

What a line says is decided by the kinds of its tokens before the colon and by whether it has a
colon. Symbols come first: a line with a symbol is a relationship or an error, so that no name
ever holds a symbol.

The same words may say different things inside an attribute block and outside: a single name is an
attribute there and an entity here. Only that one bit about what came before is needed, so that a
line can be classified on its own.

A line that has none of the shapes is an error that quotes it. The errors are causes without the
number of a line (`SyntaxCause`), which is put to them where lines are counted.
-/

namespace ErDiagram

open Text

/-- **What one line says.** It has the parts of what is said and none of the spelling: labels are
without quotes, symbols are cardinalities, words are flags. Whether it may be said at this place
is decided later, except for what has another meaning inside of a block. -/
inductive Line where
  /-- Nothing, or a comment. -/
  | blank
  /-- A relationship between two entities. -/
  | relationship (source : String) (cardinality : Cardinality) (target : String)
      (label : Option String)
  /-- An attribute of the entity whose block is open. -/
  | attribute (name dataType : String) (flags : List Flag)
  /-- An entity, whose attribute block the line may open. -/
  | entity (name : String) (opensBlock : Bool)
  /-- The end of an attribute block. -/
  | blockEnd
  /-- A key and its value, such as the title. -/
  | key (key : String) (value : Option String)
deriving Repr, DecidableEq

namespace Line

/-- A text without one matching pair of quotes around it. One quote alone is no pair. -/
def unquote (cs : List Char) : List Char :=
  match cs with
  | q :: rest =>
    if (q = '"' ∨ q = '\'') ∧ rest.getLast? = some q then rest.dropLast else cs
  | [] => []

/-- The label of a line whose label token has the given characters, if it has one. Two quotes with
nothing between them are a label that is empty. -/
def labelOf (label : Option (List Char)) : Option String :=
  label.map fun cs => String.ofList (unquote cs)

/-- The first word of a text, or the type that attributes have by default. It is all that a line
with a colon says of an attribute: further words are dropped. -/
def firstWord (label : Option (List Char)) : String :=
  match label.map words with
  | some (w :: _) => String.ofList w
  | _ => "string"

/-- The flags that words stand for in any letter case; fails at the first that is none, which
the error gives in upper case. -/
def flagsOf : List String → Except SyntaxCause (List Flag)
  | [] => .ok []
  | w :: ws =>
    match Flag.ofCode? (upper w) with
    | none => .error (.unknownFlag (upper w))
    | some f => (flagsOf ws).map (f :: ·)

/-- **What the tokens of a line say.** `whole` is the line as it is quoted in an error. Only
tokens before the colon decide what kind of line it is; the label behind it is then taken for the
label of a relationship, the type of an attribute or the value of a key. -/
def ofTokens (inBlock : Bool) (whole : String) (tokens : List Token) :
    Except SyntaxCause Line :=
  let body := tokens.takeWhile (·.kind ≠ .colon)
  let hasColon := tokens.any (·.kind == .colon)
  let label := (tokens.find? (·.kind == .label)).map (·.chars)
  match body.find? (·.kind == .unknownSymbol) with
  | some t => .error (.unknownSymbol t.text)
  | none =>
    if body.any (·.kind == .cardinality) then
      match body with
      | [⟨.ident, source, _⟩, ⟨.cardinality, symbol, _⟩, ⟨.ident, target, _⟩] =>
        match Cardinality.ofChars? symbol with
        | some c =>
          .ok (.relationship (String.ofList source) c (String.ofList target) (labelOf label))
        | none => .error .malformedRelationship
      | _ => .error .malformedRelationship
    else match body, hasColon with
      | [⟨.closeBrace, _, _⟩], false => .ok .blockEnd
      | [⟨.ident, name, _⟩], true =>
        if inBlock then .ok (.attribute (String.ofList name) (firstWord label) [])
        else .ok (.key (String.ofList name) (labelOf label))
      | [⟨.ident, name, _⟩], false =>
        if inBlock then .ok (.attribute (String.ofList name) "string" [])
        else .ok (.entity (String.ofList name) false)
      | first :: second :: more, false =>
        if (first :: second :: more).all (·.kind == .ident) then
          (flagsOf (more.map (·.text))).map fun flags =>
            .attribute first.text second.text flags
        else match inBlock, first.kind, second.kind, more with
          | false, .ident, .openBrace, [] => .ok (.entity first.text true)
          | _, _, _, _ => .error (.unrecognizedLine whole)
      | _, _ => .error (.unrecognizedLine whole)

/-- **What a line says**, inside an attribute block or outside. It depends on the line and on this
one bit, and not on which block it is or what was said before. -/
def classify (inBlock : Bool) (text : String) : Except SyntaxCause Line :=
  let cs := text.toList
  match tokenize cs with
  | [] => .ok .blank
  | tokens => ofTokens inBlock (String.ofList (strip cs)) tokens

end Line

end ErDiagram
