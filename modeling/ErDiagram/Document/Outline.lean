import ErDiagram.Diagram.Basic
import ErDiagram.Yaml.Value.Text

/-!
# Writing a document

A document is written from an outline: the title, the entities with their attributes, which of
them are weak, and the relationship lines. Where the relationship lines alone say everything, the
document is a block of text under the header key; otherwise it is structured.

An outline stands between a diagram and its text because there are two sources of it, a diagram
and the elements of a canvas, and both are written in the same way. It has names where a diagram
has entities, and lines where it has relationships. The two forms are data as well (`Form`), so
that what a document says can be read without its text.
-/

namespace ErDiagram

/-- **What a document is to say.** Entities are a map, in which a name stands once, as it will in
the text. The names at the ends of the relationships are listed apart from the lines, because
whether an entity has to be declared depends on them, and they cannot be read off a line without
reading it. -/
structure Outline where
  /-- The title. -/
  title : String
  /-- The entities and their attributes. -/
  entities : OrderedMap String (List Attribute)
  /-- The weak entities. -/
  weak : List String
  /-- The names at the ends of the relationships. -/
  related : List String
  /-- The relationship lines. -/
  lines : List String

/-- **The two forms of a document.** A block has only what lines can say. The sections of the other
form are values already, whereas the lines of a block are kept as lines: how they become one text
is a matter of layout. -/
inductive Form where
  /-- A title, and relationship lines as a block of text. -/
  | block (title : String) (lines : List String)
  /-- A diagram in sections. -/
  | structured (sections : List (String × Yaml.Value))

namespace Attribute

/-- The flags that are set, in the order of all flags. -/
def flags (a : Attribute) : List Flag := Flag.all.filter a.has

/-- **An attribute as a value**: its type, or a mapping if a flag is set. The type is written as
it is; a reader takes the words behind the first for flags, but not in a mapping. -/
def toValue (a : Attribute) : Yaml.Value :=
  if a.flags.isEmpty then .text a.dataType
  else .map (("type", .text a.dataType) :: a.flags.map fun f => (f.field, .bool true))

end Attribute

namespace Outline

/-- The title of a document that has none of its own. -/
def defaultTitle : String := "ER Diagram"

/-- A title, or the one that stands for none. An empty title counts as none. -/
def titleOf (title : Option String) : String :=
  match title with
  | some t => if t.isEmpty then defaultTitle else t
  | none => defaultTitle

/-- The text of a label: its words with single spaces, so that it stays on its line. -/
def labelText (label : String) : String :=
  String.ofList (Text.squeeze label.toList)

/-- **A relationship as a line.** An empty label is left out. Names stand in it as they are, so
that the line can be read back only if they are plain. -/
def relationshipLine (source : String) (c : Cardinality) (target : String)
    (label : Option String) : String :=
  let line := source ++ " " ++ c.symbol ++ " " ++ target
  match label with
  | some l => if l.isEmpty then line else line ++ " : " ++ labelText l
  | none => line

/-- Attributes as a value; of those with the same name the last one counts. -/
def attributesValue (l : List Attribute) : Yaml.Value :=
  .map (OrderedMap.ofList (l.map fun a => (a.name, a.toValue))).entries

/-- **An entity as a value**: nothing, unless it is weak or has attributes. The value is a mapping
with the options that are needed. -/
def entityValue (attributes : List Attribute) (weak : Bool) : Yaml.Value :=
  let mark := if weak then [("weak", Yaml.Value.bool true)] else []
  let list := if attributes.isEmpty then [] else [("attributes", attributesValue attributes)]
  if (mark ++ list).isEmpty then .null else .map (mark ++ list)

/-- Whether the relationship lines alone say everything but the title: no entity has attributes or
is weak, and each is at the end of some relationship. -/
def isPlain (o : Outline) : Bool :=
  o.entities.values.all List.isEmpty && o.weak.isEmpty
    && o.entities.keys.all fun name => o.related.contains name

/-- **The form that an outline is written in.** A block is chosen wherever it says everything, which
is a question about the whole outline: one entity with an attribute is enough for sections. -/
def form (o : Outline) : Form :=
  if o.isPlain then .block o.title o.lines
  else .structured [("title", .text o.title),
    ("entities", .map (o.entities.entries.map fun (name, attributes) =>
      (name, entityValue attributes (o.weak.contains name)))),
    ("relationships", .texts o.lines)]

end Outline

namespace Form

/-- **The text of a document.** The lines of a block are indented and not changed otherwise; a
structured document is written as a value. -/
def text : Form → String
  | block title lines =>
    Yaml.Value.document [("title", .text title)] ++ "erDiagram: |\n" ++
      String.intercalate "\n" (lines.map ("  " ++ ·)) ++ "\n"
  | structured sections => Yaml.Value.document [("erDiagram", .map sections)]

end Form

/-- The text of an outline. -/
def Outline.text (o : Outline) : String := o.form.text

/-- **The outline of a diagram.** Of entities with the same name the last one has the attributes,
and the place is that of the first. -/
def Diagram.outline (d : Diagram) : Outline where
  title := Outline.titleOf d.title
  entities := OrderedMap.ofList (d.entities.map fun e => (e.name, e.attributes))
  weak := (d.entities.filter (·.weak)).map (·.name)
  related := d.relationships.map (·.source) ++ d.relationships.map (·.target)
  lines := d.relationships.map fun r =>
    Outline.relationshipLine r.source r.cardinality r.target r.label

/-- **Writes a diagram**, unless it has no entities. Relationships alone are not enough. -/
def Diagram.serialize? (d : Diagram) : Option String :=
  if d.entities.isEmpty then none else some d.outline.text

end ErDiagram
