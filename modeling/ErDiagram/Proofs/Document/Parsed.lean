import ErDiagram.Layout.Placement
import ErDiagram.Proofs.Document.WellFormed
import ErDiagram.Proofs.Layout.Layered
import ErDiagram.Proofs.Validation

/-!
# What every diagram that is read satisfies

Well-formedness is all that the later steps need to know of a diagram that was read from a text.
Validation finds no error in it but repeated attributes, and since every end of a relationship is
declared, a layered layout has a place for every entity and never gives way to the grid.

Nothing is said about texts here beyond that they were read. That a diagram which is read is well
formed is proved in `ErDiagram.Proofs.Document.WellFormed`, reader by reader, and what well-formed
diagrams have is proved for validation and for layouts where these are. This module puts them
together.
-/

namespace ErDiagram.Diagram

variable {d : Diagram}

/-- No relationship of a well-formed diagram leaves the declared names. -/
theorem WellFormed.isClosed (h : d.WellFormed) :
    Layout.Layered.isClosed d.entityNames d.ends = true := by
  refine List.all_eq_true.2 fun e he => ?_
  obtain ⟨r, hr, rfl⟩ := List.mem_map.1 he
  obtain ⟨⟨hs, _⟩, ht, _⟩ := h.ends r hr
  simp [hs, ht]

/-- **A well-formed diagram can be laid out in layers**, and its layered layout places its
entities and nothing else. -/
theorem WellFormed.exists_layered (h : d.WellFormed) (a : Analysis) (s : Settings) :
    ∃ m, Layout.layered? (s.layerFrame a.pattern) a.graph d.ends d.entityNames = some m ∧
      Layout.layeredOrGrid a d.ends d.entityNames s = m ∧
      ∀ n, n ∈ m.keys ↔ n ∈ d.entityNames := by
  obtain ⟨m, hm, hkeys⟩ :=
    Layout.exists_layered? (g := a.graph) (s.layerFrame a.pattern) h.isClosed
  refine ⟨m, hm, ?_, hkeys⟩
  rw [Layout.layeredOrGrid, hm]

/-- **Every diagram that is read is well formed**, from whatever text and with whatever tree of
nodes the reader of YAML finds in it: entities have different names, and every relationship joins
two declared identifiers by one of the sixteen symbols. So validation reports no other error than
repeated attributes, and with any analysis and settings the layered layout is found and is not
replaced by a grid. The reader of YAML may be any function, so that nothing here rests on how YAML
is read. -/
theorem parsed_wellFormed {compose : String → Except Yaml.Failure (Option Yaml.Node)}
    {text : String} (h : parseBy compose text = .ok d) :
    d.entityNames.Nodup ∧
    (∀ r ∈ d.relationships,
      (r.source ∈ d.entityNames ∧ isIdentifier r.source.toList = true) ∧
      (r.target ∈ d.entityNames ∧ isIdentifier r.target.toList = true) ∧
      r.cardinality ∈ Cardinality.all) ∧
    (∀ f ∈ d.validate, f.severity = .error → ∃ entity name,
      f = .repeatedAttribute entity name ∧ f.message = "Duplicate attribute '" ++ name ++ "'") ∧
    (∀ (a : Analysis) (s : Settings), ∃ m,
      Layout.layered? (s.layerFrame a.pattern) a.graph d.ends d.entityNames = some m ∧
      Layout.layeredOrGrid a d.ends d.entityNames s = m ∧
      ∀ n, n ∈ m.keys ↔ n ∈ d.entityNames) := by
  have hd := wellFormed_of_parseBy h
  refine ⟨hd.nodup, fun r hr => ?_, fun f hf he => ?_, hd.exists_layered⟩
  · obtain ⟨hs, ht⟩ := hd.ends r hr
    exact ⟨hs, ht, Cardinality.mem_all _⟩
  · obtain ⟨entity, name, rfl⟩ := hd.eq_repeatedAttribute hf he
    exact ⟨entity, name, rfl, rfl⟩

/-- A text with a repeated attribute, a nested list and an entity that is only mentioned. -/
theorem parsed_wellFormed_sample :
    let text := "entities:\n  A:\n    id: int PK\n    id: string\n" ++
      "relationships:\n- A ||--o\x7b B-1\n- - C\n"
    ∃ d, parseBy Yaml.Node.ofText? text = .ok d ∧ d.entityNames = ["A", "B-1", "C"] ∧
      d.entityNames.Nodup ∧ ∀ r ∈ d.relationships,
        (r.source ∈ d.entityNames ∧ isIdentifier r.source.toList = true) ∧
        (r.target ∈ d.entityNames ∧ isIdentifier r.target.toList = true) ∧
        r.cardinality ∈ Cardinality.all := by
  intro text
  have hnames : (parseBy Yaml.Node.ofText? text).map entityNames = .ok ["A", "B-1", "C"] := by
    decide +kernel
  obtain ⟨d, hd, hnames⟩ := Except.map_eq_ok.1 hnames
  obtain ⟨hnodup, hends, _⟩ := parsed_wellFormed hd
  exact ⟨d, hd, hnames, hnodup, hends⟩

end ErDiagram.Diagram
