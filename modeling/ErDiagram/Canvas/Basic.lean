import ErDiagram.Identifier
import ErDiagram.Record.Field
import ErDiagram.Text.Case

/-!
# Canvas graphs

What is taken from a drawing: elements, which are entities or attributes by their type, and
connections between them. Types and multiplicities are free texts, and names need not be
identifiers. An element of another type is neither, and is not written at all.

Elements are referred to by ids. Nothing asks that these be distinct, or that the element of an id
exist, and whatever reads a graph has to say what it does then.

A graph comes as a record, and a field may have one of two names. An element of a type for weak
entities is weak even if it does not say so, but one that says that it is not weak is taken at its
word.
-/

namespace ErDiagram.Canvas

open Record (Checked)

/-- **An element of a drawing.** Entities and attributes have one structure, as in a drawing they
are told apart by their type only; the fields that belong to one kind are ignored for the other. -/
structure Element where
  /-- What connections and parents refer to. -/
  id : String
  /-- What the element is. -/
  type : String := "Entity"
  /-- The name that is drawn. -/
  name : String := ""
  /-- The entity that an attribute belongs to. -/
  parent : Option String := none
  /-- What kind of values an attribute has. -/
  dataType : String := "string"
  /-- Whether an attribute is part of the primary key. -/
  primaryKey : Bool := false
  /-- Whether an attribute must have a value. -/
  required : Bool := false
  /-- Whether an attribute may have several values. -/
  multivalued : Bool := false
  /-- Whether the value of an attribute follows from others. -/
  derived : Bool := false
  /-- Whether the value of an attribute has parts. -/
  composite : Bool := false
  /-- Whether an entity is weak. -/
  weak : Bool := false
deriving Repr, DecidableEq

/-- **A connection between two elements.** Its direction is kept, but an attribute may be
connected with its entity either way round. -/
structure Connection where
  /-- The element at the source end. -/
  source : String
  /-- The element at the target end. -/
  target : String
  /-- What the connection is called. -/
  name : Option String := none
  /-- The multiplicity at the source, as a free text. -/
  sourceMultiplicity : Option String := some "1"
  /-- The multiplicity at the target, as a free text. -/
  targetMultiplicity : Option String := some "1"
deriving Repr, DecidableEq

/-- **A graph of elements and connections.** Both are lists, because a drawing may have two elements
of one id, and which of them is meant is a question of their order. -/
structure Graph where
  /-- The title, if there is one. -/
  title : Option String := none
  /-- The elements in order. -/
  elements : List Element := []
  /-- The connections in order. -/
  connections : List Connection := []
deriving Repr, DecidableEq

/-- The types of weak entities, in lower case. -/
def weakTypes : List String := ["weakentity", "weak-entity", "weak_entity"]

namespace Element

/-- Whether an element is an entity. -/
def isEntity (e : Element) : Bool :=
  let type := Text.lower e.type
  type == "entity" || weakTypes.contains type

/-- Whether an element is an attribute. -/
def isAttribute (e : Element) : Bool := Text.lower e.type == "attribute"

/-- **The name that an entity has in a text**: its name made fit for the line syntax, or else its
id, or else a name for all that have neither. So it is never empty, which is what a line needs,
but different entities may have the same. -/
def entityName (e : Element) : String :=
  let name := cleanName e.name
  let id := cleanName e.id
  if !name.isEmpty then name else if !id.isEmpty then id else "ENTITY"

/-- Other names for the fields of an element. -/
def fieldNames : List (String × String) :=
  [("erType", "er_type"), ("dataType", "data_type"), ("isPrimaryKey", "primary_key"),
    ("isRequired", "required"), ("isMultivalued", "multivalued"), ("isDerived", "derived"),
    ("isComposite", "composite"), ("isWeak", "weak")]

/-- A record in which an element of a weak type is weak if it does not say whether it is. -/
def markWeak (r : Record) : Record :=
  match r.get? "er_type" with
  | some (.str type) =>
    if weakTypes.contains (Text.lower type) && !r.has "weak" then r.set "weak" (.bool true) else r
  | _ => r

/-- **Reads an element.** Fields are renamed and weakness is marked before anything is checked, so
that a field under its other name is read as under its own, and a mark that was added is as good as
one that was given. -/
def ofRecord (r : Record) : Checked Element :=
  let r := markWeak (r.rename fieldNames)
  Element.mk <$> r.required "id" Record.string
    <*> r.optional "er_type" "Entity" Record.string
    <*> r.optional "name" "" Record.string
    <*> r.optional "parent" none (Record.nullable Record.string)
    <*> r.optional "data_type" "string" Record.string
    <*> r.optional "primary_key" false Record.bool
    <*> r.optional "required" false Record.bool
    <*> r.optional "multivalued" false Record.bool
    <*> r.optional "derived" false Record.bool
    <*> r.optional "composite" false Record.bool
    <*> r.optional "weak" false Record.bool

end Element

namespace Connection

/-- Other names for the fields of a connection. -/
def fieldNames : List (String × String) :=
  [("from", "source"), ("to", "target"), ("cardinalitySource", "cardinality_source"),
    ("cardinalityTarget", "cardinality_target"), ("label", "name")]

/-- **Reads a connection.** -/
def ofRecord (r : Record) : Checked Connection :=
  let r := r.rename fieldNames
  Connection.mk <$> r.required "source" Record.string
    <*> r.required "target" Record.string
    <*> r.optional "name" none (Record.nullable Record.string)
    <*> r.optional "cardinality_source" (some "1") (Record.nullable Record.string)
    <*> r.optional "cardinality_target" (some "1") (Record.nullable Record.string)

end Connection

namespace Graph

/-- **Reads a graph.** -/
def ofRecord (r : Record) : Checked Graph :=
  Graph.mk <$> r.optional "title" none (Record.nullable Record.string)
    <*> r.optional "elements" [] (Record.list (Record.nested Element.ofRecord))
    <*> r.optional "connections" [] (Record.list (Record.nested Connection.ofRecord))

end Graph

end ErDiagram.Canvas
