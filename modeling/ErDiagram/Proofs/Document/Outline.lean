import ErDiagram.Proofs.Diagram.WellFormed
import ErDiagram.Proofs.Document.Relationship
import ErDiagram.Proofs.OrderedMap
import Mathlib.Data.List.Nodup

/-!
# The outline of a diagram with different names

An outline collects its entities by name. Where names differ, it lists just the entities of the
diagram, and each of them with what is known of it.

Three questions are asked of an outline when it is written: which entities it has, which of them
are weak, and whether the lines alone say everything. Each is answered by looking up a name, and
here each answer is given for the entities of the diagram instead.
-/

namespace ErDiagram.Diagram

open Yaml

variable {d : Diagram}

theorem entries_outline (h : d.entityNames.Nodup) :
    d.outline.entities.entries = d.entities.map fun e => (e.name, e.attributes) := by
  refine OrderedMap.entries_ofList ?_
  rw [List.map_map]
  exact h

/-- Entities with different names are told apart by them. -/
theorem eq_of_name_eq (h : d.entityNames.Nodup) {e e' : Entity} (he : e ∈ d.entities)
    (he' : e' ∈ d.entities) (hn : e.name = e'.name) : e = e' :=
  List.inj_on_of_nodup_map h he he' hn

theorem contains_weak_outline (h : d.entityNames.Nodup) {e : Entity} (he : e ∈ d.entities) :
    d.outline.weak.contains e.name = e.weak := by
  rw [Bool.eq_iff_iff, List.contains_iff_mem]
  constructor
  · intro hmem
    obtain ⟨e', he', hn⟩ := List.mem_map.1 hmem
    obtain ⟨hmem', hweak⟩ := List.mem_filter.1 he'
    rwa [← eq_of_name_eq h hmem' he hn]
  · exact fun hw => List.mem_map_of_mem (List.mem_filter.2 ⟨he, hw⟩)

/-- A name is at an end of a relationship if it is related. -/
theorem mem_relatedNames {n : String} :
    n ∈ Document.relatedNames d.relationships ↔ n ∈ d.outline.related := by
  show n ∈ List.eraseDups _ ↔ n ∈ d.relationships.map (·.source) ++ d.relationships.map (·.target)
  simp only [List.mem_eraseDups, List.mem_flatMap, List.mem_append, List.mem_map, List.mem_cons,
    List.not_mem_nil, or_false]
  constructor
  · rintro ⟨r, hr, rfl | rfl⟩
    · exact .inl ⟨r, hr, rfl⟩
    · exact .inr ⟨r, hr, rfl⟩
  · rintro (⟨r, hr, rfl⟩ | ⟨r, hr, rfl⟩)
    · exact ⟨r, hr, .inl rfl⟩
    · exact ⟨r, hr, .inr rfl⟩

/-- **A diagram is plain** if its entities have no attributes, none of them is weak, and all of
them are related. -/
theorem isPlain_outline (h : d.entityNames.Nodup) :
    d.outline.isPlain = true ↔
      ∀ e ∈ d.entities, e.attributes = [] ∧ e.weak = false ∧
        e.name ∈ Document.relatedNames d.relationships := by
  have hvalues : d.outline.entities.values = d.entities.map (·.attributes) := by
    unfold OrderedMap.values
    rw [entries_outline h, List.map_map]
    rfl
  have hkeys : d.outline.entities.keys = d.entities.map (·.name) := by
    unfold OrderedMap.keys
    rw [entries_outline h, List.map_map]
    rfl
  have hweak : d.outline.weak = [] ↔ ∀ e ∈ d.entities, e.weak = false := by
    show List.map _ _ = [] ↔ _
    rw [List.map_eq_nil_iff, List.filter_eq_nil_iff]
    simp only [Bool.not_eq_true]
  unfold Outline.isPlain
  rw [Bool.and_eq_true, Bool.and_eq_true, hvalues, hkeys, List.isEmpty_iff, hweak]
  simp only [List.all_map, List.all_eq_true, Function.comp_apply, List.isEmpty_iff,
    List.contains_iff_mem, ← mem_relatedNames]
  constructor
  · rintro ⟨⟨ha, hw⟩, hr⟩ e he
    exact ⟨ha e he, hw e he, hr e he⟩
  · exact fun he => ⟨⟨fun e h => (he e h).1, fun e h => (he e h).2.1⟩, fun e h => (he e h).2.2⟩

/-- The sections of a diagram that is not plain. -/
theorem form_outline (h : d.entityNames.Nodup) (hplain : d.outline.isPlain = false) :
    d.outline.form = .structured [("title", .text (Outline.titleOf d.title)),
      ("entities", .map (d.entities.map fun e =>
        (e.name, Outline.entityValue e.attributes e.weak))),
      ("relationships", .texts (d.relationships.map (·.text)))] := by
  have hentity : ∀ e ∈ d.entities,
      (e.name, Outline.entityValue e.attributes (d.outline.weak.contains e.name))
        = (e.name, Outline.entityValue e.attributes e.weak) := fun e he => by
    rw [contains_weak_outline h he]
  unfold Outline.form
  rw [if_neg (by rw [hplain]; exact Bool.false_ne_true), entries_outline h, List.map_map]
  exact congrArg (fun l => Form.structured [("title", .text (Outline.titleOf d.title)),
    ("entities", .map l), ("relationships", .texts (d.relationships.map (·.text)))])
    (List.map_congr_left hentity)

end ErDiagram.Diagram
