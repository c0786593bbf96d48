import ErDiagram.Diagram.Basic
import ErDiagram.Identifier

/-!
# Well-formed diagrams

A diagram is built by four operations: an entity is declared, an attribute or a relationship is
added, an entity is marked. Each says exactly which names the diagram has afterwards, and from
that follows the invariant of all diagrams that are read: no name is declared twice, and every
relationship joins two declared names that the line syntax can write.

The invariant is about names and relationships only, so that most operations keep it for one
reason: they keep the relationships and lose no name (`WellFormed.of_subset`). Adding a
relationship is the one that has something to show, as its ends have to be identifiers, and this
is up to the one who reads it.

Entities that are no ends may have any name. A document lists them as the keys of a mapping, and a
key may be any text.
-/

namespace ErDiagram.Diagram

/-! ## The names after each operation -/

@[simp] theorem entityNames_empty : entityNames {} = [] := rfl

theorem entityNames_declare (d : Diagram) (name : String) :
    (d.declare name).entityNames
      = if name ∈ d.entityNames then d.entityNames else d.entityNames ++ [name] := by
  unfold declare
  split
  · rfl
  · simp [entityNames]

@[simp] theorem relationships_declare (d : Diagram) (name : String) :
    (d.declare name).relationships = d.relationships := by
  unfold declare
  split <;> rfl

@[simp] theorem title_declare (d : Diagram) (name : String) :
    (d.declare name).title = d.title := by
  unfold declare
  split <;> rfl

theorem declare_of_mem {d : Diagram} {name : String} (h : name ∈ d.entityNames) :
    d.declare name = d := if_pos h

/-- A declared name is there, and so is every name that was. -/
theorem mem_entityNames_declare {d : Diagram} {name n : String} :
    n ∈ (d.declare name).entityNames ↔ n ∈ d.entityNames ∨ n = name := by
  rw [entityNames_declare]
  split
  · next h => exact ⟨.inl, fun hn => hn.elim id fun e => e ▸ h⟩
  · rw [List.mem_append, List.mem_singleton]

theorem map_name_modifyEntity_go {name : String} {f : Entity → Entity}
    (hf : ∀ e, (f e).name = e.name) (l : List Entity) :
    (modifyEntity.go name f l).map (·.name) = l.map (·.name) := by
  induction l with
  | nil => rfl
  | cons e l ih =>
    rw [modifyEntity.go]
    split
    · rw [List.map_cons, List.map_cons, hf]
    · rw [List.map_cons, List.map_cons, ih]

/-- Where names differ, the first entity of a name is the only one. -/
theorem modifyEntity_go_eq_map {name : String} (f : Entity → Entity) {l : List Entity}
    (h : (l.map (·.name)).Nodup) :
    modifyEntity.go name f l = l.map fun e => if e.name = name then f e else e := by
  induction l with
  | nil => rfl
  | cons e l ih =>
    rw [List.map_cons, List.nodup_cons] at h
    rw [modifyEntity.go, List.map_cons]
    by_cases he : e.name = name
    · have hrest : l.map (fun e => if e.name = name then f e else e) = l := by
        refine (List.map_congr_left fun e' he' => if_neg fun hn => ?_).trans (List.map_id l)
        exact h.1 (he.trans hn.symm ▸ List.mem_map_of_mem he')
      rw [if_pos he, if_pos he, hrest]
    · rw [if_neg he, if_neg he, ih h.2]

/-- Changing an entity but for its name changes no name. -/
theorem entityNames_modifyEntity (d : Diagram) (name : String) {f : Entity → Entity}
    (hf : ∀ e, (f e).name = e.name) : (d.modifyEntity name f).entityNames = d.entityNames :=
  map_name_modifyEntity_go hf d.entities

@[simp] theorem relationships_modifyEntity (d : Diagram) (name : String) (f : Entity → Entity) :
    (d.modifyEntity name f).relationships = d.relationships := rfl

theorem entityNames_addAttribute (d : Diagram) (entity : String) (a : Attribute) :
    (d.addAttribute entity a).entityNames = (d.declare entity).entityNames :=
  entityNames_modifyEntity _ _ fun _ => rfl

@[simp] theorem relationships_addAttribute (d : Diagram) (entity : String) (a : Attribute) :
    (d.addAttribute entity a).relationships = d.relationships :=
  relationships_declare d entity

@[simp] theorem relationships_addRelationship (d : Diagram) (r : Relationship) :
    (d.addRelationship r).relationships = d.relationships ++ [r] := by
  show ((d.declare r.source).declare r.target).relationships ++ [r] = _
  rw [relationships_declare, relationships_declare]

/-! ## The invariant -/

/-- A name that is declared and that the line syntax can write: what the end of a relationship has
to be. -/
def IsEnd (d : Diagram) (name : String) : Prop :=
  name ∈ d.entityNames ∧ isIdentifier name.toList = true

/-- **What holds of every diagram that is read**: no two entities have one name, and the ends of
every relationship are declared identifiers.

It is what the other parts rely on. Maps of places have one entry for each entity because of the
first field; the ends of relationships are among the names of a graph, and validation finds no
entity missing, because of the second. Neither asks anything of attributes, whose names may be
repeated. -/
structure WellFormed (d : Diagram) : Prop where
  /-- No name is declared twice, so that an entity is the only one that is found by its name. -/
  nodup : d.entityNames.Nodup
  /-- The ends of relationships are declared identifiers, so that a relationship can be written as
  a line. -/
  ends : ∀ r ∈ d.relationships, d.IsEnd r.source ∧ d.IsEnd r.target

namespace WellFormed

variable {d : Diagram}

theorem empty : WellFormed {} := ⟨List.nodup_nil, nofun⟩

/-- **Only names and relationships count**: an operation that keeps the relationships and
loses no name keeps the ends declared. -/
theorem of_subset {d' : Diagram} (h : d.WellFormed) (hn : d'.entityNames.Nodup)
    (hs : ∀ n ∈ d.entityNames, n ∈ d'.entityNames) (hr : d'.relationships = d.relationships) :
    d'.WellFormed := by
  refine ⟨hn, fun r hmem => ?_⟩
  obtain ⟨⟨hs₁, hi₁⟩, hs₂, hi₂⟩ := h.ends r (hr ▸ hmem)
  exact ⟨⟨hs _ hs₁, hi₁⟩, hs _ hs₂, hi₂⟩

theorem nodup_declare (hn : d.entityNames.Nodup) (name : String) :
    (d.declare name).entityNames.Nodup := by
  rw [entityNames_declare]
  split
  · exact hn
  · next hmem =>
    refine List.nodup_append.2 ⟨hn, by simp, fun a ha b hb => ?_⟩
    rw [List.mem_singleton.1 hb]
    rintro rfl
    exact hmem ha

theorem declare (h : d.WellFormed) (name : String) : (d.declare name).WellFormed :=
  h.of_subset (nodup_declare h.nodup name) (fun _ hn => mem_entityNames_declare.2 (.inl hn))
    (relationships_declare d name)

theorem modifyEntity (h : d.WellFormed) (name : String) {f : Entity → Entity}
    (hf : ∀ e, (f e).name = e.name) : (d.modifyEntity name f).WellFormed := by
  have hnames := entityNames_modifyEntity d name hf
  exact h.of_subset (hnames ▸ h.nodup) (fun n hn => hnames ▸ hn) rfl

theorem addAttribute (h : d.WellFormed) (entity : String) (a : Attribute) :
    (d.addAttribute entity a).WellFormed :=
  (h.declare entity).modifyEntity entity fun _ => rfl

/-- A title is no name. -/
theorem withTitle (h : d.WellFormed) (title : Option String) :
    WellFormed { d with title } := h.of_subset h.nodup (fun _ hn => hn) rfl

/-- **A relationship between identifiers keeps the invariant**: it declares its ends. That they
are identifiers cannot be had from the diagram, and is what the reader of the line knows. -/
theorem addRelationship (h : d.WellFormed) {r : Relationship}
    (hs : isIdentifier r.source.toList = true) (ht : isIdentifier r.target.toList = true) :
    (d.addRelationship r).WellFormed := by
  have hd := (h.declare r.source).declare r.target
  refine ⟨hd.nodup, fun r' hr' => ?_⟩
  rw [relationships_addRelationship, List.mem_append, List.mem_singleton] at hr'
  rcases hr' with hr' | rfl
  · exact hd.ends r' (by simpa using hr')
  · exact ⟨⟨mem_entityNames_declare.2 (.inl (mem_entityNames_declare.2 (.inr rfl))), hs⟩,
      mem_entityNames_declare.2 (.inr rfl), ht⟩

end WellFormed

end ErDiagram.Diagram
