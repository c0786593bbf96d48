import ErDiagram.Canvas.Basic
import ErDiagram.Document.Outline

/-!
# Writing a canvas graph

A graph is written as the document that it draws. A connection between two entities is a
relationship. An attribute belongs to the entity that it names as its parent, or else to the first
entity that it is connected with.

The graph is not turned into a diagram first. It has an outline of its own, which is written as
the outline of a diagram is. Entities that are drawn under one name share their place in the
outline, and each of them gets the attributes of all.
-/

namespace ErDiagram.Canvas

/-- The multiplicity of a free text; a missing one is the most general. -/
def multiplicityOf (text : Option String) : Multiplicity :=
  match text with
  | some s => .ofText s
  | none => .zeroOrMany

/-- The cardinality of a connection. -/
def Connection.cardinality (c : Connection) : Cardinality :=
  ⟨multiplicityOf c.sourceMultiplicity, multiplicityOf c.targetMultiplicity⟩

/-- The attribute that an element is. -/
def Element.toAttribute (e : Element) : Attribute :=
  { name := e.name, dataType := e.dataType, primaryKey := e.primaryKey, required := e.required,
    multivalued := e.multivalued, derived := e.derived, composite := e.composite }

namespace Graph

/-- The last element of an id. Elements with the same id stand in each other's way, and the later
one counts, whatever its type is. -/
def element? (g : Graph) (id : String) : Option Element :=
  g.elements.reverse.find? fun e => e.id == id

/-- The elements that are entities. -/
def entities (g : Graph) : List Element := g.elements.filter Element.isEntity

/-- An attribute and the entity that it belongs to. They are elements and not names, since several
entities may be drawn under one name, and what belongs to one of them is to be told apart from
what belongs to another. -/
structure Attachment where
  /-- The attribute. -/
  part : Element
  /-- Its entity. -/
  owner : Element
deriving Repr, DecidableEq

/-- The attributes that name their entity as parent. -/
def parented (g : Graph) : List Attachment :=
  g.elements.filterMap fun e =>
    if e.isAttribute then
      match e.parent.bind g.element? with
      | some owner => if owner.isEntity then some ⟨e, owner⟩ else none
      | none => none
    else none

/-- The two ends of a connection, if the graph has both. -/
def ends? (g : Graph) (c : Connection) : Option (Element × Element) :=
  match g.element? c.source, g.element? c.target with
  | some s, some t => some (s, t)
  | _, _ => none

/-- The attachment that a connection draws, if one of its ends is an entity and the other an
attribute. The cases are asked in this order, and no element is both. -/
def attachment? (g : Graph) (c : Connection) : Option Attachment :=
  match g.ends? c with
  | some (s, t) =>
    if s.isEntity && t.isEntity then none
    else if s.isAttribute && t.isEntity then some ⟨s, t⟩
    else if t.isAttribute && s.isEntity then some ⟨t, s⟩
    else none
  | none => none

/-- Adds the attachments of connections to those that there are; an attribute with an entity
gets no second one. -/
def connected (g : Graph) : List Attachment → List Connection → List Attachment
  | known, [] => known
  | known, c :: rest =>
    match g.attachment? c with
    | some a =>
      if known.any fun k => k.part.id == a.part.id then connected g known rest
      else connected g (known ++ [a]) rest
    | none => connected g known rest

/-- **Which attribute belongs to which entity**, in the order in which they are written: parents
come first, although a connection may stand in front of the element in the drawing. -/
def attachments (g : Graph) : List Attachment := g.connected g.parented g.connections

/-- **The relationships of a graph**: its connections between two entities, with these. Ids are
looked up here once, so that what comes later deals with elements; a connection with an unknown end
is none of them. -/
def relationships (g : Graph) : List (Connection × Element × Element) :=
  g.connections.filterMap fun c =>
    match g.ends? c with
    | some (s, t) => if s.isEntity && t.isEntity then some (c, s, t) else none
    | none => none

/-- The attributes of the entities of a name. -/
def attributesOf (g : Graph) (name : String) : List Attribute :=
  (g.attachments.filter fun a => a.owner.entityName == name).map (·.part.toAttribute)

/-- **The outline of a graph**, which has none without entities: there is nothing then that its
attributes could belong to. -/
def outline? (g : Graph) : Option Outline :=
  if g.entities.isEmpty then none
  else some {
    title := Outline.titleOf g.title
    entities := OrderedMap.ofList (g.entities.map fun e =>
      (e.entityName, g.attributesOf e.entityName))
    weak := (g.entities.filter (·.weak)).map Element.entityName
    related := g.relationships.flatMap fun (_, s, t) => [s.entityName, t.entityName]
    lines := g.relationships.map fun (c, s, t) =>
      Outline.relationshipLine s.entityName c.cardinality t.entityName c.name }

/-- **Writes a graph.** -/
def serialize? (g : Graph) : Option String := g.outline?.map Outline.text

end Graph

end ErDiagram.Canvas
