import ErDiagram.Canvas.Writing
import ErDiagram.Proofs.Document.Readable
import ErDiagram.Proofs.FirstOccurrences

/-!
# What is read of a written graph

A graph has elements with free names, of which several may be drawn under one name. Its text is
that of a diagram: one entity for each name, weak if one of its elements is, with the attributes
of all of them, and one relationship for each connection of two entities. Once this is known,
whatever holds of the texts of diagrams holds of the texts of graphs.

Names are made fit for the line syntax, except that a line feed may slip through behind a name.
Where it stands in a relationship line with something behind it, it tears the line. The types of
attributes are not made fit at all. So whether the text of a graph can be read is decided by its
types and by the line feeds behind its names, and by nothing else.

The diagram is not made on the way: the graph has an outline of its own, in which weak and related
entities are listed as often as they are drawn. It is compared with the outline of the diagram by
`Outline.form_congr`, which asks only that the same names are in the lists. The reader of YAML is
any function; the one thing that is asked of it is that it finds the document that was written.
-/

namespace ErDiagram

open Yaml Text

/-- The form of an outline asks only which names are weak or related, and not how often. A graph
may list a name several times where a diagram lists it once. -/
theorem Outline.form_congr {o o' : Outline} (htitle : o.title = o'.title)
    (hentities : o.entities.entries = o'.entities.entries)
    (hweak : ∀ n, n ∈ o.weak ↔ n ∈ o'.weak) (hrelated : ∀ n, n ∈ o.related ↔ n ∈ o'.related)
    (hlines : o.lines = o'.lines) : o.form = o'.form := by
  have hcontains : ∀ {l l' : List String}, (∀ n, n ∈ l ↔ n ∈ l') → l.contains = l'.contains :=
    fun h => funext fun n => by
      rw [Bool.eq_iff_iff, List.contains_iff_mem, List.contains_iff_mem, h]
  have hempty : o.weak.isEmpty = o'.weak.isEmpty := by
    rw [Bool.eq_iff_iff, List.isEmpty_iff, List.isEmpty_iff, List.eq_nil_iff_forall_not_mem,
      List.eq_nil_iff_forall_not_mem]
    simp only [hweak]
  have hplain : o.isPlain = o'.isPlain := by
    unfold isPlain OrderedMap.values OrderedMap.keys
    rw [hentities, hempty, hcontains hrelated]
  unfold form
  rw [hplain, htitle, hlines, hentities, hcontains hweak]

namespace Canvas

namespace Element

/-- **The name of an entity in a text is an identifier**, or one with a line feed behind it. This
holds for names, ids and the name that stands in for both, as each has been cleaned or is fit. -/
theorem isIdentifierLine_entityName (e : Element) :
    isIdentifierLine e.entityName.toList = true := by
  have hfit : ∀ {s : String}, (!(cleanName s).isEmpty) = true →
      isIdentifierLine (cleanName s).toList = true := by
    intro s hne
    refine (cleanName_spec s).resolve_left fun he => ?_
    rw [he] at hne
    cases hne
  unfold entityName
  dsimp only
  split
  · next hname => exact hfit hname
  · split
    · next hid => exact hfit hid
    · decide

end Element

namespace Graph

/-- The relationship that a connection of two entities draws. -/
def drawn : Connection × Element × Element → Relationship
  | (c, s, t) =>
    { source := s.entityName, target := t.entityName, cardinality := c.cardinality,
      label := c.name }

/-- The entity that is drawn under a name. It is weak if any of the elements with this name is, as
the text has one place to say so. -/
def drawnEntity (g : Graph) (name : String) : Entity :=
  { name, attributes := g.attributesOf name,
    weak := ((g.entities.filter (·.weak)).map Element.entityName).contains name }

/-- **The diagram that a graph draws.** It may hold what no diagram that was read holds: names
with a line feed behind them, and types of any kind. -/
def toDiagram (g : Graph) : Diagram where
  title := g.title
  entities := (g.entities.map Element.entityName).eraseDups.map g.drawnEntity
  relationships := g.relationships.map drawn

variable {g : Graph}

theorem entityNames_toDiagram (g : Graph) :
    g.toDiagram.entityNames = (g.entities.map Element.entityName).eraseDups := by
  unfold Diagram.entityNames toDiagram
  rw [List.map_map]
  exact List.map_id _

theorem nodup_entityNames_toDiagram (g : Graph) : g.toDiagram.entityNames.Nodup := by
  rw [entityNames_toDiagram]
  exact nodup_eraseDups _

/-- The entities of the outline of a graph are those of the diagram. -/
theorem entries_entities (g : Graph) :
    (OrderedMap.ofList (g.entities.map fun e =>
        (e.entityName, g.attributesOf e.entityName))).entries
      = g.toDiagram.outline.entities.entries := by
  have hkeys : g.entities.map (fun e => (e.entityName, g.attributesOf e.entityName))
      = (g.entities.map Element.entityName).map fun n => (n, g.attributesOf n) := by
    rw [List.map_map]
    rfl
  rw [hkeys, OrderedMap.entries_ofList_of_keys,
    Diagram.entries_outline g.nodup_entityNames_toDiagram, toDiagram, List.map_map]
  rfl

/-- What an outline says is weak is the name of an entity. -/
theorem mem_weak_toDiagram (name : String) :
    name ∈ (g.entities.filter (·.weak)).map Element.entityName ↔
      name ∈ g.toDiagram.outline.weak := by
  show _ ↔ name ∈ (g.toDiagram.entities.filter (·.weak)).map (·.name)
  unfold toDiagram
  simp only [List.mem_map, List.mem_filter, List.mem_eraseDups]
  constructor
  · rintro ⟨e, ⟨he, hw⟩, rfl⟩
    refine ⟨g.drawnEntity e.entityName, ⟨⟨_, ⟨e, he, rfl⟩, rfl⟩, ?_⟩, rfl⟩
    exact List.contains_iff_mem.2 (List.mem_map_of_mem (List.mem_filter.2 ⟨he, hw⟩))
  · rintro ⟨_, ⟨⟨n, _, rfl⟩, hw⟩, rfl⟩
    obtain ⟨e, he, hn⟩ := List.mem_map.1 (List.contains_iff_mem.1 hw)
    exact ⟨e, List.mem_filter.1 he, hn⟩

theorem mem_related_toDiagram (name : String) :
    name ∈ g.relationships.flatMap (fun (_, s, t) => [s.entityName, t.entityName]) ↔
      name ∈ g.toDiagram.outline.related := by
  rw [← Diagram.mem_relatedNames, Document.relatedNames, List.mem_eraseDups]
  unfold toDiagram
  rw [List.flatMap_map]
  rfl

/-- **A graph is written as the diagram that it draws.** The two outlines are not equal, but all
that a form asks of them is. -/
theorem form_outline_eq {o : Outline} (h : g.outline? = some o) :
    o.form = g.toDiagram.outline.form := by
  unfold outline? at h
  split at h
  · cases h
  cases h
  refine Outline.form_congr rfl g.entries_entities mem_weak_toDiagram mem_related_toDiagram ?_
  show _ = (g.relationships.map drawn).map _
  rw [List.map_map]
  rfl

/-- The names at the ends of a relationship that is drawn are fit, but for a line feed. -/
theorem isFit_of_mem_relationships : ∀ r ∈ g.toDiagram.relationships, r.IsFit := by
  intro r hr
  obtain ⟨⟨c, s, t⟩, _, rfl⟩ := List.mem_map.1 hr
  exact ⟨s.isIdentifierLine_entityName, t.isIdentifierLine_entityName⟩

/-- **The text of a graph is read again exactly if the types of its attributes can be read and its
relationship lines stay whole**, whatever its names, ids, labels and multiplicities are: names are
made fit but for a line feed, labels are squeezed, multiplicities are understood as symbols, and
attributes with a flag are written as mappings. This holds if the reader of YAML finds in the text
the document that was written.

Of attributes with one name in one entity, only the last one is written, so that the types of the
others do not matter. -/
theorem parseBy_serialize_iff {compose : String → Except Failure (Option Node)}
    (hne : g.entities ≠ [])
    (hback : ∀ o, g.outline? = some o → o.isComposedBack compose = true) :
    ∃ text, g.serialize? = some text ∧
      ((∃ d, Diagram.parseBy compose text = .ok d) ↔
        (∀ e ∈ g.entities, ∀ a ∈ Attribute.written (g.attributesOf e.entityName),
          a.IsReadable) ∧
        ∀ p ∈ g.relationships, (drawn p).IsWhole) := by
  have houtline : ∃ o, g.outline? = some o := by
    unfold outline?
    rw [if_neg (mt List.isEmpty_iff.1 hne)]
    exact ⟨_, rfl⟩
  obtain ⟨o, ho⟩ := houtline
  have hform := form_outline_eq ho
  have htext : o.text = g.toDiagram.outline.text := congrArg Form.text hform
  have hcomposed : g.toDiagram.outline.isComposedBack compose = true := by
    rw [← hback o ho, Outline.isComposedBack, Outline.isComposedBack, htext, hform]
  refine ⟨o.text, by rw [serialize?, ho]; rfl, ?_⟩
  rw [htext, Diagram.exists_parseBy_text_iff g.nodup_entityNames_toDiagram
    isFit_of_mem_relationships hcomposed]
  unfold toDiagram
  refine and_congr ?_ List.forall_mem_map
  -- each entity of the diagram stands for all elements of its name
  simp only [List.mem_map, List.mem_eraseDups]
  constructor
  · intro h e he
    exact h (g.drawnEntity e.entityName) ⟨_, ⟨e, he, rfl⟩, rfl⟩
  · rintro h _ ⟨_, ⟨e, he, rfl⟩, rfl⟩
    exact h e he

/-- A weak entity with an attribute, names that are not fit for a line, and a line feed behind
the last name of a line. -/
def sample : Graph where
  title := some "T"
  elements := [{ id := "o", name := "a b", weak := true },
    { id := "p", name := "?" }, { id := "q", name := "q\n" },
    { id := "n", type := "attribute", name := "n", parent := some "o", dataType := "int pk" }]
  connections := [{ source := "o", target := "p", name := some "x" },
    { source := "o", target := "q" }]

theorem parseBy_serialize_iff_sample :
    sample.entities ≠ [] ∧
      (∀ o, sample.outline? = some o → o.isComposedBack Node.ofText? = true) ∧
      ∃ text d, sample.serialize? = some text ∧ Diagram.parseBy Node.ofText? text = .ok d := by
  have hne : sample.entities ≠ [] := by decide
  have hcomposed : sample.outline?.all (·.isComposedBack Node.ofText?) = true := by decide +kernel
  have hback : ∀ o, sample.outline? = some o → o.isComposedBack Node.ofText? = true := by
    intro o ho
    rw [ho] at hcomposed
    exact hcomposed
  have hreadable : ∀ e ∈ sample.entities,
      ∀ a ∈ Attribute.written (sample.attributesOf e.entityName), a.IsReadable := by
    decide
  have hwhole : ∀ p ∈ sample.relationships, (drawn p).IsWhole := by decide
  obtain ⟨text, htext, hread⟩ := parseBy_serialize_iff hne hback
  obtain ⟨d, hd⟩ := hread.2 ⟨hreadable, hwhole⟩
  exact ⟨hne, hback, text, d, htext, hd⟩

/-- What is read of the text of a graph: the names of the entities, or why it is no diagram. -/
def readAgain (g : Graph) : Option (Except ReadingError (List String)) :=
  g.serialize?.map fun text => (Diagram.parse text).map Diagram.entityNames

/-- An entity with one attribute of a type. -/
def ofType (dataType : String) : Graph where
  title := some "T"
  elements := [{ id := "e", name := "A" },
    { id := "a", type := "Attribute", name := "x", parent := some "e", dataType }]

/-- A type of two words, and a name with a line feed behind it, each with what is wrong with the
text of its graph. They are the two ways in which the text of a graph can fail, and neither needs
anything unusual elsewhere. -/
def refused : List (Graph × ReadingError) :=
  [(ofType "int unsigned", .invalid ⟨.unknownFlag "UNSIGNED", 6⟩),
    ({ title := some "T"
       elements := [{ id := "e", name := "A\n", weak := true }, { id := "f", name := "B" }]
       connections := [{ source := "e", target := "f" }] },
      .invalid ⟨.malformedRelationship, 10⟩)]

/-- **Not every graph is written so that it is read again**, although the reader of YAML finds in
its text the document that was written. -/
theorem not_parse_serialize :
    (∀ p ∈ refused, p.1.readAgain = some (.error p.2)) ∧
    ¬ ∀ g : Graph, g.entities ≠ [] →
      (∀ o, g.outline? = some o → o.isComposedBack Node.ofText? = true) →
      ∃ text d, g.serialize? = some text ∧ Diagram.parse text = .ok d := by
  obtain ⟨hrefused, hback⟩ : (∀ p ∈ refused, p.1.readAgain = some (.error p.2)) ∧
      (ofType "int unsigned").outline?.all (·.isComposedBack Node.ofText?) = true := by
    decide +kernel
  refine ⟨hrefused, fun h => ?_⟩
  obtain ⟨text, d, htext, hd⟩ := h (ofType "int unsigned") (by decide) fun o ho => by
    rw [ho] at hback
    exact hback
  have hfails := hrefused _ List.mem_cons_self
  dsimp only at hfails
  rw [readAgain, htext, Option.map_some, hd] at hfails
  cases hfails

end Graph

end Canvas

end ErDiagram
