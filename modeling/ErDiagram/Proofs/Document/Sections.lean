import ErDiagram.Document.Reading
import ErDiagram.Proofs.Document.Entity
import ErDiagram.Proofs.Document.Relationship

/-!
# Documents are read back

A document that is written has one of two forms. In the one a title stands beside a block of
relationship lines under the header, in the other the header stands over three sections. Either is
read by its keys alone, which are told apart in lower case, and neither leaves anything for the
relationship lines that may stand at the top of a document.

For each form there is one equation, which says what reading the nodes of a document of this form
comes to: reading the block into a diagram with the title, or reading the sections. With these the
round trip has to do with entities and relationships only.
-/

namespace ErDiagram

open Yaml Text

namespace Document

variable {d : Diagram} {source : Source}

/-! ## The readers of a document at the nodes of an outline -/

/-- A key in lower case. -/
theorem keyText_of_isText {k : Node} {s : String} (h : k.isText s = true) :
    keyText k = lower s := by
  rw [keyText, Node.text?_of_isText h]
  rfl

theorem keyText_of_header {k : Node} (h : k.isText "erDiagram" = true) :
    keyText k = "erdiagram" := by
  rw [keyText_of_isText h]
  decide

theorem keyText_of_title {k : Node} (h : k.isText "title" = true) : keyText k = "title" := by
  rw [keyText_of_isText h]
  decide

theorem ofKey_of_header {k : Node} (h : k.isText "erDiagram" = true) :
    Role.ofKey k = .header := by
  unfold Role.ofKey
  rw [keyText_of_header h]
  decide

theorem ofKey_of_title {k : Node} (h : k.isText "title" = true) : Role.ofKey k = .title := by
  unfold Role.ofKey
  rw [keyText_of_title h]
  decide

/-- The sections of a structured diagram under their keys. -/
theorem entries_sections {k₁ v₁ k₂ v₂ k₃ v₃ : Node} (h₁ : k₁.isText "title" = true)
    (h₂ : k₂.isText "entities" = true) (h₃ : k₃.isText "relationships" = true) :
    (sections [(k₁, v₁), (k₂, v₂), (k₃, v₃)]).entries
      = [("title", (k₁, v₁)), ("entities", (k₂, v₂)), ("relationships", (k₃, v₃))] := by
  have hkeys : lower "title" = "title" ∧ lower "entities" = "entities" ∧
      lower "relationships" = "relationships" := by decide
  have hpairs : [(k₁, v₁), (k₂, v₂), (k₃, v₃)].map (fun p => (keyText p.1, p))
      = [("title", (k₁, v₁)), ("entities", (k₂, v₂)), ("relationships", (k₃, v₃))] := by
    simp only [List.map_cons, List.map_nil, keyText_of_isText h₁, keyText_of_isText h₂,
      keyText_of_isText h₃, hkeys]
  rw [sections, hpairs]
  refine OrderedMap.entries_ofList ?_
  show ["title", "entities", "relationships"].Nodup
  decide

theorem sectionValue?_of_entries {m : OrderedMap String Section}
    {l : List (String × Section)} (h : m.entries = l) (key : String) :
    sectionValue? m key = (l.find? fun e => e.1 = key).map (·.2.2) := by
  rw [sectionValue?, OrderedMap.get?, h, Option.map_map]
  rfl

/-- Three sections are read one after the other. -/
theorem addStructured_of_sections {k₁ v₁ k₂ v₂ k₃ v₃ : Node} {t : String} {d₁ d₂ : Diagram}
    (hk₁ : k₁.isText "title" = true) (hk₂ : k₂.isText "entities" = true)
    (hk₃ : k₃.isText "relationships" = true) (hv₁ : v₁.isText t = true)
    (hv₂ : addEntities { title := some t } v₂ = .ok d₁)
    (hv₃ : addRelationships source d₁ v₃ = .ok d₂) :
    addStructured source {} [(k₁, v₁), (k₂, v₂), (k₃, v₃)] = .ok d₂ := by
  have hentries : (sections [(k₁, v₁), (k₂, v₂), (k₃, v₃)]).entries = _ :=
    entries_sections hk₁ hk₂ hk₃
  have hvalue := sectionValue?_of_entries hentries
  have hfirst : sectionValue? _ "title" = some v₁ := hvalue "title"
  have hsecond : sectionValue? _ "titulo" = none := hvalue "titulo"
  have hentities : sectionValue? _ "entities" = some v₂ := hvalue "entities"
  have hrelationships : sectionValue? _ "relationships" = some v₃ := hvalue "relationships"
  have htitle : ["title", "titulo"].foldl (setTitle (sections [(k₁, v₁), (k₂, v₂), (k₃, v₃)])) {}
      = { title := some t } := by
    rw [List.foldl_cons, List.foldl_cons, List.foldl_nil, setTitle, setTitle, hfirst, hsecond]
    dsimp only
    rw [Node.text?_of_isText hv₁]
  unfold addStructured addSection
  dsimp only
  rw [htitle, hentities, hrelationships, hentries]
  dsimp only
  rw [hv₂]
  show (addRelationships source d₁ v₃ >>= _) = _
  rw [hv₃]
  rfl

/-- **The sections of a diagram are read back**: its title, its entities as they are read back,
and its relationships with their keys. -/
theorem exists_addStructured (source : Source) (hd : d.WellFormed) {es : List Entity}
    (hes : List.Forall₂ Entity.ReadsAs d.entities es) {t : String} {pairs : List (Node × Node)}
    (hp : Node.meansPairs [("title", .text t),
      ("entities", .map (d.entities.map fun e =>
        (e.name, Outline.entityValue e.attributes e.weak))),
      ("relationships", .texts (d.relationships.map (·.text)))] pairs = true) :
    ∃ l', addStructured source {} pairs
        = .ok { title := some t, entities := es, relationships := l' } ∧
      l'.map (·.key) = d.relationships.map (·.keyBack) := by
  obtain ⟨k₁, v₁, more, rfl, hk₁, hv₁, hmore⟩ := Node.exists_of_meansPairs_cons hp
  obtain ⟨k₂, v₂, more, rfl, hk₂, hv₂, hmore⟩ := Node.exists_of_meansPairs_cons hmore
  obtain ⟨k₃, v₃, more, rfl, hk₃, hv₃, hmore⟩ := Node.exists_of_meansPairs_cons hmore
  cases Node.eq_nil_of_meansPairs hmore
  rw [Node.means_text] at hv₁
  -- the entities
  obtain ⟨tag, entityPairs, line, rfl, hentities⟩ := Node.exists_of_means_map hv₂
  have hread := addEntityPairs_of_meansPairs hes { title := some t } (by
    rw [Diagram.entityNames, List.map_nil, List.nil_append]
    exact hd.nodup) hentities
  -- the relationships
  obtain ⟨tag', nodes, line', rfl, hnodes⟩ := Node.exists_of_means_texts hv₃
  have hwritable : ∀ r ∈ d.relationships, r.IsWritable := fun r hr =>
    ⟨(hd.ends r hr).1.2, (hd.ends r hr).2.2⟩
  have hnames : Diagram.entityNames { title := some t, entities := [] ++ es } = d.entityNames :=
    Entity.map_name_of_readsAs hes
  obtain ⟨numbered, hitems, htexts⟩ := exists_itemsOfList hnodes source.lines source.nesting
  rw [flatMap_pieces_text hwritable] at htexts
  obtain ⟨l', hadd, hkeys⟩ := exists_addItems hwritable
    (fun r hr => by
      rw [hnames]
      exact ⟨(hd.ends r hr).1.1, (hd.ends r hr).2.1⟩) htexts
  rw [← hitems] at hadd
  exact ⟨l', addStructured_of_sections hk₁ hk₂ hk₃ hv₁ hread hadd, hkeys⟩

/-- Pairs without a section for entities stay in their order. -/
theorem entitiesFirst_eq_self {pairs : List (Node × Node)}
    (h : ∀ p ∈ pairs, keyText p.1 ≠ "entities") : entitiesFirst pairs = pairs := by
  unfold entitiesFirst
  dsimp only
  rw [List.filter_eq_nil_iff.2 fun p hp => by simpa using h p hp,
    List.filter_eq_self.2 fun p hp => by simpa using h p hp, List.nil_append]

/-- A document without relationship lines at its top is what its other pairs say. -/
theorem ofPairs_eq_addPairs {pairs : List (Node × Node)}
    (hentities : ∀ p ∈ pairs, keyText p.1 ≠ "entities")
    (hline : ∀ p ∈ pairs, Role.ofKey p.1 ≠ .line)
    (hheader : ∃ p ∈ pairs, recognizes p = true) :
    ofPairs source pairs = addPairs source {} pairs := by
  unfold ofPairs
  dsimp only
  rw [entitiesFirst_eq_self hentities, List.any_eq_true.2 hheader,
    List.filter_eq_nil_iff.2 fun p hp => by simpa using hline p hp]
  cases addPairs source {} pairs <;> rfl

theorem recognizes_of_header {k : Node} (h : k.isText "erDiagram" = true) (v : Node) :
    recognizes (k, v) = true := by
  unfold recognizes
  rw [ofKey_of_header h]

/-- A document of a header over a whole diagram is read as this diagram. -/
theorem ofPairs_structured {k : Node} (hk : k.isText "erDiagram" = true) (tag : String)
    (pairs : List (Node × Node)) (line : Nat) :
    ofPairs source [(k, .mapping tag pairs line)] = addStructured source {} pairs := by
  rw [ofPairs_eq_addPairs]
  · unfold addPairs addPair
    rw [ofKey_of_header hk]
    dsimp only
    cases addStructured source {} pairs <;> rfl
  · intro p hp
    rw [List.mem_singleton.1 hp, keyText_of_header hk]
    decide
  · intro p hp
    rw [List.mem_singleton.1 hp, ofKey_of_header hk]
    decide
  · exact ⟨_, List.mem_singleton_self _, recognizes_of_header hk _⟩

/-- A document of a title and a block of text under the header is read as the block, with the
title. -/
theorem ofPairs_block {k₁ v₁ k₂ v₂ : Node} {t b : String} (hk₁ : k₁.isText "title" = true)
    (hv₁ : v₁.isText t = true) (hk₂ : k₂.isText "erDiagram" = true) (hv₂ : v₂.isText b = true) :
    ofPairs source [(k₁, v₁), (k₂, v₂)]
      = ReadingError.ofSyntax
          (Diagram.readLines { title := some t } (scalarLines source.lines v₂)) := by
  have htext := Node.text?_of_isText hv₁
  obtain ⟨style, line, rfl⟩ := Node.isText_iff.1 hv₂
  rw [ofPairs_eq_addPairs]
  · unfold addPairs addPair
    rw [ofKey_of_title hk₁]
    dsimp only
    unfold addPairs addPair
    rw [ofKey_of_header hk₂]
    dsimp only
    rw [htext, addRelationships, Node.isScalar, if_pos rfl]
    cases Diagram.readLines { title := some t } (scalarLines source.lines _) <;> rfl
  · intro p hp
    rcases List.mem_cons.1 hp with rfl | hp
    · rw [keyText_of_title hk₁]
      decide
    · rw [List.mem_singleton.1 hp, keyText_of_header hk₂]
      decide
  · intro p hp
    rcases List.mem_cons.1 hp with rfl | hp
    · rw [ofKey_of_title hk₁]
      decide
    · rw [List.mem_singleton.1 hp, ofKey_of_header hk₂]
      decide
  · exact ⟨_, List.mem_cons_of_mem _ (List.mem_singleton_self _), recognizes_of_header hk₂ _⟩

end Document

end ErDiagram
