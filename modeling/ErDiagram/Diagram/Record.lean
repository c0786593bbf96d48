import ErDiagram.Diagram.Basic
import ErDiagram.Record.Field

/-!
# Diagrams as records

Diagrams are exchanged as JSON. What is written is more than what is needed to read it back: the
multiplicities of a relationship follow from its symbol. Some fields may be given under the names
that drawing tools use for them.

A diagram is read in one of two ways. It may be a record of which all parts are read together, so
that all issues are found; or its parts are read one after the other, and the first one that fails
decides. The second is how a diagram is read that was written here.
-/

namespace ErDiagram

open Record (Checked)

namespace Attribute

/-- Other names for the fields of an attribute. -/
def fieldNames : List (String × String) :=
  [("type", "data_type"), ("dataType", "data_type"), ("isPrimaryKey", "primary_key"),
    ("pk", "primary_key"), ("isRequired", "required"), ("isMultivalued", "multivalued"),
    ("isDerived", "derived"), ("isComposite", "composite")]

/-- **Reads an attribute.** Fields are read one beside the other and not one after the other, so
that all that is wrong is reported and not only the first of it. -/
def ofRecord (r : Record) : Checked Attribute :=
  let r := r.rename fieldNames
  Attribute.mk <$> r.required "name" Record.string
    <*> r.optional "data_type" "string" Record.string
    <*> r.optional "primary_key" false Record.bool
    <*> r.optional "required" false Record.bool
    <*> r.optional "multivalued" false Record.bool
    <*> r.optional "derived" false Record.bool
    <*> r.optional "composite" false Record.bool

/-- Writes an attribute. -/
def toJson (a : Attribute) : Json :=
  .obj [("name", .str a.name), ("data_type", .str a.dataType),
    ("primary_key", .bool a.primaryKey), ("required", .bool a.required),
    ("multivalued", .bool a.multivalued), ("derived", .bool a.derived),
    ("composite", .bool a.composite)]

end Attribute

namespace Entity

/-- **Reads an entity.** -/
def ofRecord (r : Record) : Checked Entity :=
  Entity.mk <$> r.required "name" Record.string
    <*> r.optional "attributes" [] (Record.list (Record.nested Attribute.ofRecord))
    <*> r.optional "weak" false Record.bool
    <*> r.optional "x" none (Record.nullable Record.float)
    <*> r.optional "y" none (Record.nullable Record.float)
    <*> r.optional "width" 120 Record.float
    <*> r.optional "height" 80 Record.float

/-- Writes an entity. -/
def toJson (e : Entity) : Json :=
  .obj [("name", .str e.name), ("attributes", .arr (e.attributes.map Attribute.toJson)),
    ("weak", .bool e.weak), ("x", .ofFloat? e.x), ("y", .ofFloat? e.y),
    ("width", .float e.width), ("height", .float e.height)]

end Entity

namespace Relationship

/-- The symbol of a cardinality. -/
def cardinalityField (v : Json) : Checked Cardinality :=
  (Record.string v).thenCheck fun s =>
    match Cardinality.ofSymbol? s with
    | some c => .ok c
    | none => Record.faulty .rejected

/-- Other names for the fields of a relationship. -/
def fieldNames : List (String × String) := [("from", "source"), ("to", "target")]

/-- **Reads a relationship.** -/
def ofRecord (r : Record) : Checked Relationship :=
  let r := r.rename fieldNames
  Relationship.mk <$> r.required "source" Record.string
    <*> r.required "target" Record.string
    <*> r.required "cardinality" cardinalityField
    <*> r.optional "label" none (Record.nullable Record.string)
    <*> r.optional "line" none (Record.nullable Record.int)

/-- **Writes a relationship.** A label that is empty is left out, as is an unknown line. -/
def toJson (r : Relationship) : Json :=
  let label := match r.label with
    | some l => if l.isEmpty then [] else [("label", .str l)]
    | none => []
  let line := match r.line with
    | some n => [("line", .int n)]
    | none => []
  .obj ([("source", .str r.source), ("target", .str r.target),
    ("cardinality", .str r.cardinality.symbol),
    ("source_multiplicity", .str r.cardinality.source.name),
    ("target_multiplicity", .str r.cardinality.target.name),
    ("identifying", .bool true)] ++ label ++ line)

end Relationship

/-- **Why JSON is no diagram.** That something is no record is an error apart from issues: it is
found before any field is looked for. -/
inductive DiagramError where
  /-- A field does not hold what it should. -/
  | issues (l : List Record.Issue)
  /-- Something that is no record stands where an entity or a relationship is needed. -/
  | notRecord
deriving Repr, DecidableEq

namespace Diagram

/-- Writes a diagram. -/
def toJson (d : Diagram) : Json :=
  .obj [("title", .ofString? d.title), ("entities", .arr (d.entities.map Entity.toJson)),
    ("relationships", .arr (d.relationships.map Relationship.toJson))]

/-- **Reads a diagram whose parts are read with it.** This is one of two ways to read a diagram. The
issues of a part have the path through the diagram here, whereas a part that is read on its own
knows nothing of where it stands. -/
def ofRecord (r : Record) : Checked Diagram :=
  Diagram.mk <$> r.optional "title" none (Record.nullable Record.string)
    <*> r.optional "entities" [] (Record.list (Record.nested Entity.ofRecord))
    <*> r.optional "relationships" [] (Record.list (Record.nested Relationship.ofRecord))

/-- The items of a field that is a list, or nothing that is to be read one by one. A field that is
left out has no items, and neither has an empty text or an empty record, which can be gone through
like an empty list. -/
def itemsOf (r : Record) (name : String) : Except DiagramError (List Json) :=
  match r.get? name with
  | none => .ok []
  | some (.arr items) => .ok items
  | some (.str s) => if s.isEmpty then .ok [] else .error .notRecord
  | some (.obj fields) => if fields.isEmpty then .ok [] else .error .notRecord
  | some _ => .error .notRecord

/-- Reads items one by one up to the first that fails. -/
def readEach {α : Type} (read : Record → Checked α) :
    List Json → Except DiagramError (List α)
  | [] => .ok []
  | .obj fields :: rest =>
    match read fields with
    | .issues l => .error (.issues l)
    | .ok a => (readEach read rest).map (a :: ·)
  | _ :: _ => .error .notRecord

/-- **Reads a diagram part by part**: the entities one after the other, then the
relationships, then the title. The first part that fails decides, and its issues count from
that part. -/
def ofJsonParts (r : Record) : Except DiagramError Diagram := do
  let entities ← readEach Entity.ofRecord (← itemsOf r "entities")
  let relationships ← readEach Relationship.ofRecord (← itemsOf r "relationships")
  match r.optional "title" none (Record.nullable Record.string) with
  | .ok title => pure { title, entities, relationships }
  | .issues l => throw (.issues l)

end Diagram

end ErDiagram
