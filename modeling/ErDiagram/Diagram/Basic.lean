import ErDiagram.Cardinality
import ErDiagram.Geometry.Point

/-!
# Diagrams

A diagram lists entities and relationships. An entity has attributes, may be weak, and has a size
and, once it has been laid out, the coordinates of its centre; a relationship names its two ends
and joins them by a cardinality. Nothing here asks that names be distinct or that a relationship
name entities of the diagram: texts are read into diagrams for which this holds, and `Validation`
reports where it does not.

So the type of diagrams is wider than what a text can give, and this is needed, since diagrams
also come from records and are put together by hand. What a text gives is the invariant
`Diagram.WellFormed`, and it is proved of the reader once.

A diagram grows by four operations only: an entity is declared, an attribute or a relationship is
added, an entity is changed. Each of them declares the names that it needs.
-/

namespace ErDiagram

/-- What an attribute may be marked as. Flags are a type of their own, beside the five fields of an
attribute, so that what is read and written for each of them is said once for all. -/
inductive Flag where
  | primaryKey
  | required
  | multivalued
  | derived
  | composite
deriving Repr, DecidableEq

namespace Flag

/-- The five flags, in the order in which attributes list them. -/
def all : List Flag := [primaryKey, required, multivalued, derived, composite]

/-- The two letters that set a flag in an attribute line. -/
def code : Flag → String
  | primaryKey => "PK"
  | required => "NN"
  | multivalued => "MV"
  | derived => "DV"
  | composite => "CP"

/-- The field that holds a flag in structured data. -/
def field : Flag → String
  | primaryKey => "primary_key"
  | required => "required"
  | multivalued => "multivalued"
  | derived => "derived"
  | composite => "composite"

/-- The flag that a code stands for. -/
def ofCode? (s : String) : Option Flag := all.find? fun f => f.code == s

end Flag

/-- **An attribute of an entity.** The flags are fields and not a list, in which one could occur
twice and two orders would be two attributes. The type is any text: that it is one word is a
condition for writing it as a line, and nothing here asks for it. -/
structure Attribute where
  /-- The name of the attribute. -/
  name : String
  /-- What kind of values it has. -/
  dataType : String := "string"
  /-- Whether it is part of the primary key. -/
  primaryKey : Bool := false
  /-- Whether it must have a value. -/
  required : Bool := false
  /-- Whether it may have several values. -/
  multivalued : Bool := false
  /-- Whether its value follows from others. -/
  derived : Bool := false
  /-- Whether its value has parts. -/
  composite : Bool := false
deriving Repr, DecidableEq

namespace Attribute

/-- Whether a flag is set. -/
def has (a : Attribute) : Flag → Bool
  | .primaryKey => a.primaryKey
  | .required => a.required
  | .multivalued => a.multivalued
  | .derived => a.derived
  | .composite => a.composite

/-- Sets one flag to a value. -/
def assign (a : Attribute) (f : Flag) (b : Bool) : Attribute :=
  match f with
  | .primaryKey => { a with primaryKey := b }
  | .required => { a with required := b }
  | .multivalued => { a with multivalued := b }
  | .derived => { a with derived := b }
  | .composite => { a with composite := b }

/-- **The attribute with a list of flags set.** Order and repetition make no difference, as every
flag of the list is set to the same value. -/
def ofFlags (name dataType : String) (flags : List Flag) : Attribute :=
  flags.foldl (fun a f => a.assign f true) { name, dataType }

end Attribute

/-- **An entity.** Its two coordinates are independent: an entity that was read from a record may
have one of them, which is as good as no place (`center?`). Coordinates are floating-point
numbers, since they are read from and written to records as such. -/
structure Entity where
  /-- The name that relationships refer to. -/
  name : String
  /-- The attributes in order of declaration. -/
  attributes : List Attribute := []
  /-- Whether its existence depends on an owner. -/
  weak : Bool := false
  /-- The horizontal coordinate of the centre. -/
  x : Option Float := none
  /-- The vertical coordinate of the centre. -/
  y : Option Float := none
  /-- The nominal width. -/
  width : Float := 120
  /-- The nominal height. -/
  height : Float := 80

namespace Entity

/-- The centre of an entity that has both coordinates. -/
def center? (e : Entity) : Option (Point Float) :=
  match e.x, e.y with
  | some x, some y => some ⟨x, y⟩
  | _, _ => none

/-- Whether an entity has both coordinates. -/
def hasPosition (e : Entity) : Bool := e.x.isSome && e.y.isSome

/-- The corners of the box around an entity: the least and the greatest coordinates. -/
def bounds? (e : Entity) : Option (Point Float × Point Float) :=
  e.center?.map fun c =>
    (⟨c.x - e.width / 2, c.y - e.height / 2⟩, ⟨c.x + e.width / 2, c.y + e.height / 2⟩)

/-- The first attribute of a name. -/
def attribute? (e : Entity) (name : String) : Option Attribute :=
  e.attributes.find? fun a => a.name == name

/-- The entity with its centre moved to a point. -/
def moveTo (e : Entity) (p : Point Float) : Entity := { e with x := some p.x, y := some p.y }

end Entity

/-- **A relationship between two entities.** Its ends are names and not entities, so that it can
be there before they are declared. Every relationship is identifying, which is to say drawn by a
solid line. -/
structure Relationship where
  /-- The entity at the source end. -/
  source : String
  /-- The entity at the target end. -/
  target : String
  /-- The multiplicities of the two ends. -/
  cardinality : Cardinality
  /-- What the relationship is called. -/
  label : Option String := none
  /-- The line of the text that it was read from. -/
  line : Option Int := none
deriving Repr, DecidableEq

namespace Relationship

/-- **What makes two relationships the same**: all but the line they come from. Two lines may give
the same relationship. -/
def key (r : Relationship) : String × String × Cardinality × Option String :=
  (r.source, r.target, r.cardinality, r.label)

/-- Whether a relationship joins two different names. -/
def joins (r : Relationship) : Bool := r.source != r.target

end Relationship

/-- **An entity–relationship diagram.** Both lists have an order, which is that of first mention
in a diagram that was read, and what is computed from a diagram uses it to break ties. -/
structure Diagram where
  /-- The title, if one is given. -/
  title : Option String := none
  /-- The entities in order. -/
  entities : List Entity := []
  /-- The relationships in order. -/
  relationships : List Relationship := []

namespace Diagram

instance : Inhabited Diagram := ⟨{}⟩

/-- The names of the entities in order. -/
def entityNames (d : Diagram) : List String := d.entities.map (·.name)

/-- The first entity of a name. -/
def entity? (d : Diagram) (name : String) : Option Entity :=
  d.entities.find? fun e => e.name == name

/-- **Declares an entity**: a name that is new becomes the last entity, any other leaves the
diagram as it is. This is where names are kept distinct, as no other operation adds an entity. -/
def declare (d : Diagram) (name : String) : Diagram :=
  if name ∈ d.entityNames then d else { d with entities := d.entities ++ [{ name }] }

/-- Changes the first entity of a name, which is the only one where names are distinct. A name
that is not declared changes nothing. -/
def modifyEntity (d : Diagram) (name : String) (f : Entity → Entity) : Diagram :=
  { d with entities := go d.entities }
where
  /-- Changes the first entity of the name in a list. -/
  go : List Entity → List Entity
    | [] => []
    | e :: es => if e.name = name then f e :: es else e :: go es

/-- Declares an entity and appends an attribute to it. -/
def addAttribute (d : Diagram) (entity : String) (a : Attribute) : Diagram :=
  (d.declare entity).modifyEntity entity fun e => { e with attributes := e.attributes ++ [a] }

/-- **Declares the ends of a relationship**, the source first, and appends the
relationship. -/
def addRelationship (d : Diagram) (r : Relationship) : Diagram :=
  let d := (d.declare r.source).declare r.target
  { d with relationships := d.relationships ++ [r] }

/-- **The centres of the entities that have one**, by name. Of entities with the same name the
last one counts, in the place of the first. -/
def positions (d : Diagram) : PositionMap Float :=
  OrderedMap.ofList (d.entities.filterMap fun e => e.center?.map fun c => (e.name, c))

/-- **Moves every entity that the map names.** The others are left as they are, and names of no
entity are passed over. -/
def applyPositions (d : Diagram) (m : PositionMap Float) : Diagram :=
  { d with entities := d.entities.map fun e => ((m.get? e.name).map e.moveTo).getD e }

end Diagram

end ErDiagram
