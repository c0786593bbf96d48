import ErDiagram.Document.Error
import ErDiagram.Line.Reading
import ErDiagram.Yaml.Node.Basic

/-!
# Relationships of a document

Relationship lines stand in a document as a block of text, as a list, or as a mapping: a line
with a label is also a key and its value. A block of text is read as plain lines are, attribute
blocks included, whereas the items of a list or of a mapping must be relationships or bare
names.

## Lists in lists

A list may hold further lists, and their items count as its own. Following a list inside a list
takes a call inside a call, and there is room for only so many of these: a document whose lists
are nested more deeply than that stops the reader in the middle, without a line to blame. Such a
document need not be long to look at, since an alias nests a whole list in three characters, and
a list that contains itself is too deep for any room.

How much room there is depends on where the reader is called and not on the document. It is
therefore a field of `Source`, next to the lines of the text, and whatever is said about reading
relationships is said for every value of it.
-/

namespace ErDiagram.Document

open Text Yaml

/-- How many lists fit into each other where a reader is called from almost nowhere. Of a thousand
calls that may be open at once, a dozen are taken by the caller, by the reader on its way to the
lists, and by the line that is read in the innermost of them. A caller that is itself deep in calls
leaves less. -/
def usualNesting : Nat := 986

/-- **What the nodes of a document are read with**: the text that they come from, and the room
that is left for reading them. -/
structure Source where
  /-- The lines of the text. A folded block does not say on which lines its own lines stand, so
  that they are looked up here. -/
  lines : List (List Char) := []
  /-- How many lists of relationships may be open inside the outermost one. -/
  nesting : Nat := usualNesting

/-- Numbers lines by where a text has them: each is looked for from the line on that the one
before was found on. A line without words or without a place gets the number `start`. The search
goes on from the line that was found and not from the one after it, so that a line that contains
the next one is found for both. -/
def locate (source : List (List Char)) (start : Nat) : Nat → List (List Char) → List NumberedLine
  | _, [] => []
  | here, part :: parts =>
    let inner := strip part
    let place :=
      if inner.isEmpty then none
      else (source.drop here).findIdx? (fun l => occursIn inner l)
    match place with
    | none => ⟨String.ofList part, start⟩ :: locate source start here parts
    | some i => ⟨String.ofList part, here + i + 1⟩ :: locate source start (here + i) parts

/-- **The lines of a block of text.** A literal block begins on the line after its mark and keeps
its lines; any other style folds them, so that they are looked for in the text. `first` is the
line, counted from zero, that the block's node starts on. -/
def blockLines (source : List (List Char)) (style : ScalarStyle) (text : String) (first : Nat) :
    List NumberedLine :=
  let parts := splitAt '\n' text.toList
  match style with
  | .literal => parts.zipIdx.map fun (part, i) => ⟨String.ofList part, first + 2 + i⟩
  | _ => locate source (first + 1) first parts

/-- The lines of a scalar; one that is null has none. -/
def scalarLines (source : List (List Char)) (n : Node) : List NumberedLine :=
  match n, n.text? with
  | .scalar _ style text first, some _ => blockLines source style text first
  | _, _ => []

/-- A key and its value as one line of text, which is what the line was before a colon cut it in
two. -/
def pairText (key : String) : Option String → String
  | some value => key ++ ": " ++ value
  | none => key

/-- A pair of a mapping, as a line. -/
def pairItem (key value : Node) : Except ReadingError NumberedLine :=
  match key.text? with
  | none => ReadingError.onLine key.line .invalidFormat
  | some k =>
    if value.isScalar then .ok ⟨pairText k value.text?, key.line⟩
    else ReadingError.onLine value.line (.unexpectedStructure k)

mutual

/-- The lines that a node holds as relationships, if so many lists may still be opened. A list
takes one of them, whereas nothing inside a mapping is opened any further. The recursion is on the
node; the room only says where it has to stop. -/
def itemsWithin (source : List (List Char)) :
    Nat → Node → List (Except ReadingError NumberedLine)
  | _, .scalar tag style text first =>
    (scalarLines source (.scalar tag style text first)).map .ok
  | 0, .sequence .. => [.error .tooDeep]
  | room + 1, .sequence _ nodes _ => itemsOfList source room nodes
  | _, .mapping _ pairs _ => pairs.map fun (k, v) => pairItem k v
  | _, .enclosing _ => [.error .endless]

/-- The lines of the nodes of a list. -/
def itemsOfList (source : List (List Char)) :
    Nat → List Node → List (Except ReadingError NumberedLine)
  | _, [] => []
  | room, n :: ns => itemsWithin source room n ++ itemsOfList source room ns

end

/-- **The lines that a node holds as relationships**, in order. Where there is something that
is no line, its error stands in the list: the items in front of it are read before it stops the
reader, and those behind it are not looked at. -/
def items (source : Source) (n : Node) : List (Except ReadingError NumberedLine) :=
  itemsWithin source.lines (source.nesting + 1) n

/-- Adds what one item of a list of relationships says. A bare name declares an entity; what else
a line may say, such as a title, has no place in a list. -/
def addItem (d : Diagram) (l : NumberedLine) : Except ReadingError Diagram :=
  match l.classify false with
  | .error e => .error (.invalid e)
  | .ok .blank => .ok d
  | .ok (.relationship source cardinality target label) =>
    let r : Relationship :=
      { source, target, cardinality, label, line := some (Int.ofNat l.line) }
    .ok (d.addRelationship r)
  | .ok (.entity name opensBlock) =>
    if Line.isHeader name then .ok d
    else if opensBlock then ReadingError.onLine l.line (.expectedRelationship l.quoted)
    else .ok (d.declare name)
  | .ok _ => ReadingError.onLine l.line (.expectedRelationship l.quoted)

/-- Adds items one after the other. -/
def addItems (d : Diagram) : List (Except ReadingError NumberedLine) → Except ReadingError Diagram
  | [] => .ok d
  | .error e :: _ => .error e
  | .ok l :: rest =>
    match addItem d l with
    | .error e => .error e
    | .ok d => addItems d rest

/-- **Adds the relationships that a node holds.** A scalar is a text of its own and read as such;
the title of such a text and its attribute blocks count too, which no item of a list may have. -/
def addRelationships (source : Source) (d : Diagram) (n : Node) : Except ReadingError Diagram :=
  if n.isScalar then ReadingError.ofSyntax (d.readLines (scalarLines source.lines n))
  else addItems d (items source n)

end ErDiagram.Document
