import ErDiagram.Proofs.Connectivity.Degrees
import ErDiagram.Proofs.Validation

/-!
# Isolated entities, as the analysis and as validation see them

The analysis lists the entities without a partner, validation those that no relationship mentions.
To mention an entity is not to give it a partner: a relationship with itself does not, and neither
does one with a name that is not declared, so that neither list can be read off the other in
general. Where all ends are declared, only the relationships of entities with themselves are left
to part the two, however often and in which direction the others are joined.

Both lists are filters of the declared names, in the order of the declarations, and it is enough
to compare the two conditions name by name. The analysis removes repetitions and validation does
not, so that names are assumed to differ.
-/

namespace ErDiagram

/-! ## What relationships mention -/

namespace Diagram

variable {d : Diagram}

/-- Whether a relationship has a name at one of its ends. This is what validation asks. -/
def Mentions (d : Diagram) (n : String) : Prop :=
  ∃ r ∈ d.relationships, r.source = n ∨ r.target = n

/-- Whether a relationship joins an entity with itself. -/
def RelatesToItself (d : Diagram) (n : String) : Prop :=
  ∃ r ∈ d.relationships, r.source = n ∧ r.target = n

instance (n : String) : Decidable (d.Mentions n) :=
  inferInstanceAs (Decidable (∃ r ∈ d.relationships, r.source = n ∨ r.target = n))

instance (n : String) : Decidable (d.RelatesToItself n) :=
  inferInstanceAs (Decidable (∃ r ∈ d.relationships, r.source = n ∧ r.target = n))

/-- **What is mentioned has a partner or relates to itself**, if relationships join declared
entities. Without this condition a name may be mentioned beside one that is not declared, which is
no partner. -/
theorem mentions_iff
    (hends : ∀ r ∈ d.relationships, r.source ∈ d.entityNames ∧ r.target ∈ d.entityNames)
    (n : String) : d.Mentions n ↔ d.partners n ≠ ∅ ∨ d.RelatesToItself n := by
  rw [← Set.nonempty_iff_ne_empty]
  constructor
  · rintro ⟨r, hr, hend⟩
    obtain ⟨hsource, htarget⟩ := hends r hr
    by_cases hself : r.source = r.target
    · rw [← hself, or_self] at hend
      exact .inr ⟨r, hr, hend, hself ▸ hend⟩
    · rcases hend with rfl | rfl
      · exact .inl ⟨r.target, hsource, htarget, hself, r, hr, .inl ⟨rfl, rfl⟩⟩
      · exact .inl ⟨r.source, htarget, hsource, Ne.symm hself, r, hr, .inr ⟨rfl, rfl⟩⟩
  · rintro (⟨m, _, _, _, r, hr, ⟨hn, _⟩ | ⟨_, hn⟩⟩ | ⟨r, hr, hn, _⟩)
    · exact ⟨r, hr, .inl hn⟩
    · exact ⟨r, hr, .inr hn⟩
    · exact ⟨r, hr, .inl hn⟩

/-- Validation asks which entities no relationship mentions. -/
theorem unrelatedNames_draft (d : Diagram) :
    d.draft.unrelatedNames = d.entityNames.filter fun n => ¬ d.Mentions n := by
  refine List.filter_congr fun n _ => ?_
  rw [Bool.eq_iff_iff, Bool.not_eq_true', List.any_eq_false, decide_eq_true_eq, Mentions]
  unfold draft Relationship.link
  simp

/-- The analysis asks which entities have no partner. Where names differ, it lists them as they
are declared. -/
theorem isolated_analyze (hnames : d.entityNames.Nodup) :
    d.analyze.isolated = d.entityNames.filter fun n => (Graph.ofDiagram d).degree n == 0 := by
  show (Graph.ofDiagram d).isolated = _
  rw [Graph.isolated, Graph.names_ofDiagram, eraseDups_eq_self hnames]

end Diagram

/-! ## What the warning lists -/

/-- The names that a finding gives as those of entities without relationships. With it all such
findings of a validation can be collected, so that it can be said that there is one or none. -/
def Finding.unrelated? : Finding → Option (List String)
  | .unrelated names => some names
  | _ => none

namespace Draft

variable {d : Draft} {f : Finding}

/-- The warning is no error. -/
theorem unrelated?_of_mem_errors (h : f ∈ d.errors) : f.unrelated? = none := by
  have herror := severity_errors h
  cases f with
  | unrelated => cases herror
  | _ => rfl

theorem unrelated?_of_mem_oddLinks {earlier links : List Link} (h : f ∈ oddLinks earlier links) :
    f.unrelated? = none := by
  obtain ⟨l, _, rfl | rfl⟩ := exists_of_mem_oddLinks h
  · rfl
  · rfl

theorem unrelated?_of_mem_missingKeys (h : f ∈ d.missingKeys) : f.unrelated? = none := by
  obtain ⟨e, _, rfl⟩ := List.mem_map.1 h
  rfl

/-- **There is one warning about unrelated entities, or none**: if a draft has relationships, it
lists all entities that they do not mention, and it is left out if there are none of these. -/
theorem filterMap_unrelated?_validate (hentities : d.entities ≠ []) (hlinks : d.links ≠ []) :
    d.validate.filterMap Finding.unrelated?
      = if d.unrelatedNames = [] then [] else [d.unrelatedNames] := by
  have hnone {l : List Finding} (h : ∀ f ∈ l, f.unrelated? = none) :
      l.filterMap Finding.unrelated? = [] := List.filterMap_eq_nil_iff.2 h
  have hvalidate : d.validate
      = d.errors ++ d.unrelatedEntities ++ oddLinks [] d.links ++ d.missingKeys := by
    rw [validate, if_neg (mt List.isEmpty_iff.1 hentities)]
    rfl
  rw [hvalidate, List.filterMap_append, List.filterMap_append, List.filterMap_append,
    hnone fun _ => unrelated?_of_mem_errors, hnone fun _ => unrelated?_of_mem_oddLinks,
    hnone fun _ => unrelated?_of_mem_missingKeys, List.nil_append, List.append_nil,
    List.append_nil, unrelatedEntities]
  by_cases hnames : d.unrelatedNames = [] <;> simp [hnames, hlinks, Finding.unrelated?]

end Draft

namespace Diagram

variable {d : Diagram}

/-- Two entities that are joined three times and in both directions, one that relates to itself, and
two without relationships. -/
def knotted : Diagram where
  entities := [{ name := "A" }, { name := "B" }, { name := "C" }, { name := "D" }, { name := "E" }]
  relationships := [
    { source := "B", target := "D", cardinality := ⟨.one, .one⟩ },
    { source := "C", target := "C", cardinality := ⟨.one, .one⟩ },
    { source := "D", target := "B", cardinality := ⟨.one, .zeroOrMany⟩ },
    { source := "B", target := "D", cardinality := ⟨.one, .one⟩ }]

end Diagram

end ErDiagram
