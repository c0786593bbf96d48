import ErDiagram.Diagram.Basic
import ErDiagram.Json.Basic

/-!
# Validation

A text that can be read may still say something odd. What is found is listed with how bad it is; a
diagram is valid if nothing found is an error.

A diagram may also be put together by hand. Then nothing vouches for the symbols of its
relationships, so that what is checked is a draft, in which a symbol is any text. A diagram is
checked as the draft with the symbols of its cardinalities.

There is one list for each kind of finding, and the lists are put one behind the other. A draft
without entities is a case of its own: it is reported as empty, and nothing else of it is looked
at.
-/

namespace ErDiagram

/-- How bad something is. An error is what makes a diagram invalid; a remark may be about something
that is intended, such as an entity related to itself. -/
inductive Severity where
  | error
  | warning
  | info
deriving Repr, DecidableEq

/-- The name of a severity. -/
def Severity.name : Severity → String
  | error => "error"
  | warning => "warning"
  | info => "info"

/-- **Something odd about a diagram.** Each constructor holds what its message is made of, and the
severity, the message and the place are functions of it. -/
inductive Finding where
  /-- There are no entities. -/
  | empty
  /-- An entity is declared more than once. -/
  | repeatedEntity (name : String) (count : Nat)
  /-- A relationship refers to an entity that is not declared. -/
  | missingEntity (name : String) (line : Option Int)
  /-- A relationship has a symbol that is none of the sixteen. -/
  | unknownSymbol (symbol : String) (line : Option Int)
  /-- An entity has two attributes of one name. -/
  | repeatedAttribute (entity name : String)
  /-- There are relationships, but these entities have none. -/
  | unrelated (names : List String)
  /-- A relationship joins an entity with itself. -/
  | selfRelationship (entity : String) (line : Option Int)
  /-- A relationship has the ends and the symbol of an earlier one. -/
  | repeatedRelationship (source target : String) (line : Option Int)
  /-- An entity has attributes and none of them is a primary key. -/
  | noPrimaryKey (entity : String)
deriving Repr, DecidableEq

namespace Finding

/-- How bad a finding is. -/
def severity : Finding → Severity
  | empty => .info
  | repeatedEntity .. => .error
  | missingEntity .. => .error
  | unknownSymbol .. => .error
  | repeatedAttribute .. => .error
  | unrelated .. => .warning
  | selfRelationship .. => .info
  | repeatedRelationship .. => .warning
  | noPrimaryKey .. => .info

/-- **The wording of a finding.** -/
def message : Finding → String
  | empty => "Diagram has no entities"
  | repeatedEntity _ count => "Entity declared " ++ toString count ++ " times"
  | missingEntity name _ => "Relationship references non-existent entity: " ++ name
  | unknownSymbol symbol _ => "Unknown cardinality symbol: " ++ symbol
  | repeatedAttribute _ name => "Duplicate attribute '" ++ name ++ "'"
  | unrelated names => "Isolated entities (no relationships): " ++ String.intercalate ", " names
  | selfRelationship .. => "Self relationship (entity relates to itself)"
  | repeatedRelationship source target _ =>
    "Duplicate relationship from " ++ source ++ " to " ++ target
  | noPrimaryKey _ => "Entity has attributes but no primary key"

/-- The entity that a finding is about, if it is about one. -/
def entity? : Finding → Option String
  | repeatedEntity name _ => some name
  | repeatedAttribute entity _ => some entity
  | selfRelationship entity _ => some entity
  | noPrimaryKey entity => some entity
  | _ => none

/-- The line that a finding is about, if it is known. -/
def line? : Finding → Option Int
  | missingEntity _ line => line
  | unknownSymbol _ line => line
  | selfRelationship _ line => line
  | repeatedRelationship _ _ line => line
  | _ => none

/-- **Writes a finding.** An entity without a name is left out. -/
def toJson (f : Finding) : Json :=
  let entity := match f.entity? with
    | some e => if e.isEmpty then [] else [("entity", .str e)]
    | none => []
  let line := match f.line? with
    | some n => [("line", .int n)]
    | none => []
  .obj ([("type", .str f.severity.name), ("message", .str f.message)] ++ entity ++ line)

end Finding

/-- **A relationship that is still to be checked.** It has no label, as there is nothing to check
about it, and its symbol is a text where a relationship has a cardinality. -/
structure Link where
  /-- The name at the source end. -/
  source : String
  /-- The name at the target end. -/
  target : String
  /-- What stands for a symbol. -/
  symbol : String
  /-- The source line, if it is known. -/
  line : Option Int := none
deriving Repr, DecidableEq

/-- **A diagram that is still to be checked.** It has no title, as there is nothing to check about
it. -/
structure Draft where
  /-- The entities in order. -/
  entities : List Entity := []
  /-- The relationships in order. -/
  links : List Link := []

namespace Draft

/-- The names of the entities in order. -/
def entityNames (d : Draft) : List String := d.entities.map (·.name)

/-- The names that occur more than once, with how often, in the order of first occurrences. -/
def repeated (names : List String) : List (String × Nat) :=
  (names.eraseDups.map fun n => (n, names.count n)).filter fun p => 1 < p.2

/-- The findings about repeated entities. -/
def repeatedEntities (d : Draft) : List Finding :=
  (repeated d.entityNames).map fun (name, count) => .repeatedEntity name count

/-- What is wrong with one relationship: ends that are not declared, and an unknown symbol. -/
def linkFaults (d : Draft) (l : Link) : List Finding :=
  (([l.source, l.target].filter fun n => !d.entityNames.contains n).map fun n =>
      .missingEntity n l.line)
    ++ if (Cardinality.ofSymbol? l.symbol).isSome then [] else [.unknownSymbol l.symbol l.line]

/-- The findings about relationships that are broken. -/
def brokenLinks (d : Draft) : List Finding := d.links.flatMap d.linkFaults

/-- The findings about repeated attributes. -/
def repeatedAttributes (d : Draft) : List Finding :=
  d.entities.flatMap fun e =>
    (repeated (e.attributes.map (·.name))).map fun (name, _) => .repeatedAttribute e.name name

/-- The entities that no relationship names. -/
def unrelatedNames (d : Draft) : List String :=
  d.entityNames.filter fun n => !d.links.any fun l => l.source == n || l.target == n

/-- The finding about entities without relationships, in a diagram that has relationships. -/
def unrelatedEntities (d : Draft) : List Finding :=
  let names := d.unrelatedNames
  if names.isEmpty || d.links.isEmpty then [] else [.unrelated names]

/-- The findings about relationships that come after the given ones. A relationship is compared
with the earlier ones only, so that of several that are equal the first is not reported; labels do
not count. -/
def oddLinks : List Link → List Link → List Finding
  | _, [] => []
  | earlier, l :: rest =>
    let self := if l.source = l.target then [.selfRelationship l.source l.line] else []
    let isRepeated := earlier.any fun e =>
      e.source == l.source && e.target == l.target && e.symbol == l.symbol
    let again := if isRepeated then [.repeatedRelationship l.source l.target l.line] else []
    self ++ again ++ oddLinks (earlier ++ [l]) rest

/-- The findings about entities with attributes and without a primary key. -/
def missingKeys (d : Draft) : List Finding :=
  (d.entities.filter fun e => !e.attributes.isEmpty && !e.attributes.any (·.primaryKey)).map
    fun e => .noPrimaryKey e.name

/-- **All that is odd about a draft.** The order of the lists is the order in which findings are
answered. -/
def validate (d : Draft) : List Finding :=
  if d.entities.isEmpty then [.empty]
  else d.repeatedEntities ++ d.brokenLinks ++ d.repeatedAttributes ++ d.unrelatedEntities
    ++ oddLinks [] d.links ++ d.missingKeys

end Draft

/-- A relationship with the text of its symbol. -/
def Relationship.link (r : Relationship) : Link :=
  { source := r.source, target := r.target, symbol := r.cardinality.symbol, line := r.line }

/-- A diagram with the texts of its symbols. -/
def Diagram.draft (d : Diagram) : Draft :=
  { entities := d.entities, links := d.relationships.map Relationship.link }

/-- **All that is odd about a diagram.** -/
def Diagram.validate (d : Diagram) : List Finding := d.draft.validate

/-- **How many findings there are** of each severity. -/
structure Summary where
  /-- The errors. -/
  errors : Nat
  /-- The warnings. -/
  warnings : Nat
  /-- The remarks. -/
  info : Nat
deriving Repr, DecidableEq

namespace Summary

/-- The summary of a list of findings. -/
def of (l : List Finding) : Summary where
  errors := l.countP fun f => f.severity == .error
  warnings := l.countP fun f => f.severity == .warning
  info := l.countP fun f => f.severity == .info

/-- How many findings there are in all. -/
def total (s : Summary) : Nat := s.errors + s.warnings + s.info

/-- **A diagram is valid** if there are no errors. Warnings and remarks do not count. -/
def isValid (s : Summary) : Bool := s.errors == 0

/-- Writes a summary. -/
def toJson (s : Summary) : Json :=
  .obj [("total", .ofNat s.total), ("errors", .ofNat s.errors), ("warnings", .ofNat s.warnings),
    ("info", .ofNat s.info), ("valid", .bool s.isValid)]

end Summary

end ErDiagram
