import ErDiagram.Document.Entities
import ErDiagram.Document.Relationships
import ErDiagram.Yaml.Node.OfTokens

/-!
# Reading a document

A text is read as YAML where it can be. A mapping holds the title, the entities and the
relationships under keys of its own, or a diagram under the header key, or relationships as plain
pairs; a list holds relationships. A text that is no YAML, or no more than one scalar, is read
line by line.

There are two kinds of mappings with sections, the top of a document and what stands under the
header key, and they are not read alike. At the top the pairs are gone through one by one, and a
repeated key is read as often as it stands there; under the header they are first put into a map,
in which the last one is left. At the top a pair that is no section may be a relationship line
that a colon cuts in two; under the header it is an error. So both are written down as they are,
and what they have in common is to be found in the functions that add to a diagram.
-/

namespace ErDiagram

namespace Document

open Text Yaml

/-- A key of a document in lower case; a key that is no text counts as empty. -/
def keyText (k : Node) : String := lower (k.text?.getD "")

/-- A section of a structured diagram: its key and its value. -/
abbrev Section := Node × Node

/-- The sections of a structured diagram by their keys in lower case. A repeated key has the last
of its values and the first of its places: it is a map that is filled in order. The key is kept
with the value, since an error quotes it as it was written. -/
def sections (pairs : List (Node × Node)) : OrderedMap String Section :=
  OrderedMap.ofList (pairs.map fun p => (keyText p.1, p))

/-- The value of a section. -/
def sectionValue? (m : OrderedMap String Section) (key : String) : Option Node :=
  (m.get? key).map (·.2)

/-- Gives a diagram the title of a section, if there is the section. A value without a text takes
a title away again. -/
def setTitle (m : OrderedMap String Section) (d : Diagram) (key : String) : Diagram :=
  match sectionValue? m key with
  | some n => { d with title := n.text? }
  | none => d

/-- Reads a section, if there is one. -/
def addSection (m : OrderedMap String Section) (key : String)
    (add : Diagram → Node → Except ReadingError Diagram) (d : Diagram) :
    Except ReadingError Diagram :=
  match sectionValue? m key with
  | some n => add d n
  | none => .ok d

/-- The keys that a structured diagram may have. -/
def sectionKeys : List String := ["title", "titulo", "entities", "relationships"]

/-- **Reads a structured diagram**: the title, then the entities, then the relationships. A
section with another key is an error, which comes after what is wrong with the others. Of the two
keys for the title the second one is set last. -/
def addStructured (source : Source) (d : Diagram) (pairs : List (Node × Node)) :
    Except ReadingError Diagram := do
  let m := sections pairs
  let d := ["title", "titulo"].foldl (setTitle m) d
  let d ← addSection m "entities" addEntities d
  let d ← addSection m "relationships" (addRelationships source) d
  match m.entries.find? fun e => !sectionKeys.contains e.1 with
  | none => pure d
  | some (_, k, _) => ReadingError.onLine k.line (.unknownSection k.text?)

/-- What the key of a pair at the top of a document makes of the pair. It depends on the key alone
and there is a role for every key, so that pairs with different roles can be gone through one by
one, with the same case distinction in every walk. -/
inductive Role where
  | title
  /-- The header, above a whole diagram. -/
  | header
  | entities
  | relationships
  /-- A relationship line that a colon cuts in two. -/
  | line
deriving Repr, DecidableEq

/-- The role of a pair, by its key. -/
def Role.ofKey (k : Node) : Role :=
  let key := keyText k
  if Line.isTitleKey key then title
  else if Line.isHeader key then header
  else if key == "entities" then entities
  else if key == "relationships" then relationships
  else line

/-- Adds a pair at the top of a document; relationship lines come later, when all entities are
declared. Titles follow each other, and the last one stays. -/
def addPair (source : Source) (d : Diagram) (k v : Node) : Except ReadingError Diagram :=
  match Role.ofKey k with
  | .title => .ok { d with title := v.text? }
  | .header =>
    match v with
    | .mapping _ pairs _ => addStructured source d pairs
    | _ => addRelationships source d v
  | .entities => addEntities d v
  | .relationships => addRelationships source d v
  | .line => .ok d

/-- Adds pairs one after the other. -/
def addPairs (source : Source) (d : Diagram) :
    List (Node × Node) → Except ReadingError Diagram
  | [] => .ok d
  | (k, v) :: rest =>
    match addPair source d k v with
    | .error e => .error e
    | .ok d => addPairs source d rest

/-- Adds the relationship line of a pair. What is no relationship is an unknown key if the
document has been recognized by then, and else no document at all, which is an error on the first
line. -/
def addLine (recognized : Bool) (d : Diagram) (k v : Node) : Except ReadingError Diagram :=
  let key := k.text?.getD ""
  if !v.isScalar then ReadingError.onLine k.line (.unexpectedStructure key)
  else
    let l : NumberedLine := ⟨pairText key v.text?, k.line⟩
    match l.classify false with
    | .error e => .error (.invalid e)
    | .ok (.relationship source cardinality target label) =>
      let r : Relationship :=
        { source, target, cardinality, label, line := some (Int.ofNat l.line) }
      .ok (d.addRelationship r)
    | .ok _ =>
      if recognized then ReadingError.onLine k.line (.unknownKey key)
      else ReadingError.onLine 1 .invalidFormat

/-- Adds the relationship lines of pairs; a document without a single one must have been
recognized before. The first line that is read recognizes it. -/
def addLines (recognized : Bool) (d : Diagram) :
    List (Node × Node) → Except ReadingError Diagram
  | [] => if recognized then .ok d else ReadingError.onLine 1 .invalidFormat
  | (k, v) :: rest =>
    match addLine recognized d k v with
    | .error e => .error e
    | .ok d => addLines true d rest

/-- Pairs with those for entities in front, so that entities have the order of their declarations
and not that of the first relationship that mentions them. -/
def entitiesFirst (pairs : List (Node × Node)) : List (Node × Node) :=
  let isEntities := fun p : Node × Node => keyText p.1 == "entities"
  pairs.filter isEntities ++ pairs.filter fun p => !isEntities p

/-- Whether a pair shows that a mapping is a document. -/
def recognizes (p : Node × Node) : Bool :=
  match Role.ofKey p.1 with
  | .header => true
  | .entities => true
  | .relationships => true
  | _ => false

/-- **Reads the pairs of a document**: entities, then all other pairs but relationship lines, then
these. An error is hence not always the first one in the text. -/
def ofPairs (source : Source) (pairs : List (Node × Node)) :
    Except ReadingError Diagram := do
  let ordered := entitiesFirst pairs
  let d ← addPairs source {} ordered
  addLines (ordered.any recognizes) d (ordered.filter fun p => Role.ofKey p.1 == .line)

/-- **Reads plain lines.** It is what is left for every text that is no document, so that it starts
from nothing and knows of no nodes. -/
def ofLines (source : List (List Char)) : Except ReadingError Diagram :=
  ReadingError.ofSyntax (Diagram.readLines {} (NumberedLine.ofLines source))

/-- **Reads the node of a text** whose lines are given. A text that is one scalar is read from its
lines and not from the scalar, in which they are folded. -/
def ofNode (source : Source) (n : Node) : Except ReadingError Diagram :=
  match n with
  | .mapping _ pairs _ => ofPairs source pairs
  | .sequence .. => addRelationships source {} n
  | _ => ofLines source.lines

end Document

/-- **Reads a text with a given reader of YAML and given room for nested lists.** A blank text is
the empty diagram, and a text in which the reader of YAML finds no document, or a broken one, is
read line by line.

The reader of YAML is a parameter, and so is the room: neither is described by the text, and what
is proved of reading should not hang on how a YAML text is cut into tokens or on where the reader
is called. -/
def Diagram.parseWithin (nesting : Nat)
    (compose : String → Except Yaml.Failure (Option Yaml.Node)) (text : String) :
    Except ReadingError Diagram :=
  let cs := text.toList
  if Text.allBlank cs then .ok {}
  else
    let lines := Text.lines cs
    match compose text with
    | .error .malformed => Document.ofLines lines
    | .error (.beyondUnicode code) => .error (.beyondUnicode code)
    | .error (.tooManyDigits count) => .error (.tooManyDigits count)
    | .error .tooDeep => .error .tooDeep
    | .ok none => Document.ofLines lines
    | .ok (some n) => Document.ofNode ⟨lines, nesting⟩ n

/-- **Reads a text with a given reader of YAML**, where there is the usual room. The reader of YAML
is a parameter so that what is proved of reading a text does not depend on how YAML is taken apart.
-/
def Diagram.parseBy (compose : String → Except Yaml.Failure (Option Yaml.Node)) (text : String) :
    Except ReadingError Diagram :=
  parseWithin Document.usualNesting compose text

/-- **Reads a text.** This is the function that runs; everything about it follows from what holds
for any reader of YAML, at the one that is defined here. -/
def Diagram.parse (text : String) : Except ReadingError Diagram :=
  parseBy Yaml.Node.ofText? text

end ErDiagram
