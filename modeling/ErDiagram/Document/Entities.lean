import ErDiagram.Diagram.Record
import ErDiagram.Document.Error
import ErDiagram.Line.Reading
import ErDiagram.Yaml.Node.Basic

/-!
# Entities of a document

Entities stand in a document as a list of names or as a mapping from names to what is known of
them: whether they are weak, and their attributes. An attribute in turn is a type with flags
behind it, or a mapping with one field for each of these.

There are several spellings of one thing, and they do not go through one function: a list of
attributes may have lines in it, which are read as lines of an attribute block are, whereas the
value of a pair is a text of its own, with the type as its first word. So the cases of these
functions are those of the nodes, and where two spellings are to mean the same, this is something
to be proved.

Nodes carry tags, which decide whether a scalar is a truth value. Everything else is taken by its
text.
-/

namespace ErDiagram.Document

open Text Yaml

/-- Whether a text is one of the words for true. It is only asked of a scalar that is tagged as a
truth value, so that every other text is one of the words for false. -/
def isTrue (s : String) : Bool := ["true", "yes", "on"].contains (lower s)

/-- The record of an attribute that is given as a mapping: its name, then each pair of two texts,
where a value that is tagged as a truth value is one. Pairs are set one after the other, so that
the mapping may overwrite the name, and a repeated field has its last value. What the fields may
be is for the record to check. -/
def attributeRecord (name : Option String) : List (Node × Node) → Record
  | pairs => pairs.foldl (fun r (k, v) =>
      match k.text?, v.text? with
      | some key, some value =>
        r.set key (if v.tagged "bool" then .bool (isTrue value) else .str value)
      | _, _ => r) [("name", .ofString? name)]

/-- An attribute that is given by its type and flags, separated by blanks. A text without a word
has no type, and this is an error that names no line. -/
def attributeOfText (name text : String) (line : Nat) : Except ReadingError Attribute :=
  match words text.toList with
  | [] => .error .missingType
  | dataType :: flags =>
    match Line.flagsOf (flags.map String.ofList) with
    | .error cause => ReadingError.onLine line cause
    | .ok flags => .ok (.ofFlags name (String.ofList dataType) flags)

/-- The type that an attribute has when the text for it is missing or empty. A text of blanks is
neither. -/
def typeText (n : Node) : String :=
  match n.text? with
  | some s => if s.isEmpty then "string" else s
  | none => "string"

/-- **The attribute of a node**, which is the value of a pair. A list here has no text, and so
gives an attribute of the default type. -/
def attributeOfNode (name : String) (n : Node) : Except ReadingError Attribute :=
  match n with
  | .mapping _ pairs _ => attributeOfPairs (some name) pairs n.line
  | _ => attributeOfText name (typeText n) n.line
where
  /-- The attribute of the pairs of a mapping, which may give another name. -/
  attributeOfPairs (name : Option String) (pairs : List (Node × Node)) (line : Nat) :
      Except ReadingError Attribute :=
    match Attribute.ofRecord (attributeRecord name pairs) with
    | .ok a => .ok a
    | .issues l => ReadingError.onLine line (.invalidAttribute name l)

/-- An attribute in a list: a mapping that gives a name, or a line of an attribute block. In a
mapping the first pair for the name is looked up to be named in errors; the record has the last. -/
def attributeOfItem (entity : String) (item : Node) : Except ReadingError Attribute :=
  let refused {α : Type} : Except ReadingError α :=
    ReadingError.onLine item.line (.invalidAttributeItem entity)
  match item with
  | .mapping _ pairs _ =>
    match pairs.find? fun p => p.1.text? == some "name" with
    | some (_, v) => attributeOfNode.attributeOfPairs v.text? pairs item.line
    | none => refused
  | .scalar .. =>
    match item.text? with
    | none => refused
    | some s =>
      if s.isEmpty then refused
      else match Line.classify true s with
        | .error cause => ReadingError.onLine item.line cause
        | .ok (.attribute name dataType flags) => .ok (.ofFlags name dataType flags)
        | .ok _ => refused
  | _ => refused

/-- Adds the attributes of a mapping. -/
def addAttributePairs (entity : String) (d : Diagram) :
    List (Node × Node) → Except ReadingError Diagram
  | [] => .ok d
  | (k, v) :: rest =>
    match k.text? with
    | none => ReadingError.onLine k.line .attributeNameNotText
    | some name =>
      match attributeOfNode name v with
      | .error e => .error e
      | .ok a => addAttributePairs entity (d.addAttribute entity a) rest

/-- Adds the attributes of a list. -/
def addAttributeItems (entity : String) (d : Diagram) : List Node → Except ReadingError Diagram
  | [] => .ok d
  | item :: rest =>
    match attributeOfItem entity item with
    | .error e => .error e
    | .ok a => addAttributeItems entity (d.addAttribute entity a) rest

/-- **Adds the attributes that a node lists to an entity.** Nothing at all lists no attributes; a
text is an error. -/
def addAttributes (entity : String) (d : Diagram) (n : Node) : Except ReadingError Diagram :=
  match n with
  | .mapping _ pairs _ => addAttributePairs entity d pairs
  | .sequence _ nodes _ => addAttributeItems entity d nodes
  | _ =>
    if n.text?.isSome then ReadingError.onLine n.line (.attributesNotCollection entity)
    else .ok d

/-- The last value that pairs give for a key, as a repeated key overwrites the earlier one. -/
def option? (pairs : List (Node × Node)) (key : String) : Option Node :=
  (pairs.reverse.find? fun p => p.1.text? == some key).map (·.2)

/-- What an entity's options say about whether it is weak: nothing, unless there is a value for it
that is tagged as a truth value. With another value the pair is the attribute of this name. A
value that is tagged so but is no scalar has no text to be compared, which is an error without a
line. -/
def weakOption? (pairs : List (Node × Node)) : Except ReadingError (Option Bool) :=
  match option? pairs "weak" with
  | none => .ok none
  | some n =>
    if n.tagged "bool" then
      match n with
      | .scalar _ _ text _ => .ok (some (isTrue text))
      | _ => .error .weakNotScalar
    else .ok none

/-- **Adds what a mapping says about an entity.** Without an option for its attributes and one for
whether it is weak, the mapping itself lists the attributes. Which of the two it is depends on all
pairs, and so does what each pair means. -/
def addOptions (entity : String) (d : Diagram) (pairs : List (Node × Node)) :
    Except ReadingError Diagram :=
  match weakOption? pairs, option? pairs "attributes" with
  | .error e, _ => .error e
  | .ok none, none => addAttributePairs entity d pairs
  | .ok none, some attributes => addAttributes entity d attributes
  | .ok (some weak), none => .ok (d.modifyEntity entity ({ · with weak }))
  | .ok (some weak), some attributes =>
    addAttributes entity (d.modifyEntity entity ({ · with weak })) attributes

/-- Declares the entity of a pair and adds what is known of it. A scalar says nothing, also if it
is not empty. -/
def addEntity (d : Diagram) (key value : Node) : Except ReadingError Diagram :=
  match key.text? with
  | none => ReadingError.onLine key.line .entityNameNotText
  | some name =>
    let d := d.declare name
    match value with
    | .mapping _ pairs _ => addOptions name d pairs
    | .sequence _ nodes _ => addAttributeItems name d nodes
    | _ => .ok d

/-- Adds the entities of a mapping. -/
def addEntityPairs (d : Diagram) : List (Node × Node) → Except ReadingError Diagram
  | [] => .ok d
  | (k, v) :: rest =>
    match addEntity d k v with
    | .error e => .error e
    | .ok d => addEntityPairs d rest

/-- Declares the entities of a list of names. -/
def addEntityNames (d : Diagram) : List Node → Except ReadingError Diagram
  | [] => .ok d
  | item :: rest =>
    match item.text? with
    | none => ReadingError.onLine item.line .entityNameNotText
    | some name => addEntityNames (d.declare name) rest

/-- **Adds the entities that a node holds.** A list has names only, and a mapping says more of each.
Unlike for attributes, nothing at all is an error here. -/
def addEntities (d : Diagram) (n : Node) : Except ReadingError Diagram :=
  match n with
  | .sequence _ nodes _ => addEntityNames d nodes
  | .mapping _ pairs _ => addEntityPairs d pairs
  | _ => ReadingError.onLine n.line .entitiesNotCollection

end ErDiagram.Document
