import ErDiagram.Proofs.Diagram.WellFormed
import ErDiagram.Proofs.FirstOccurrences
import ErDiagram.Validation

/-!
# When a diagram is valid

Of all that is found about a draft, three lists hold its errors and nothing but errors: entities
declared more than once, broken relationships, and attributes declared more than once. Each is
empty exactly if every entity or relationship keeps the rule that it is about, so that a draft is
valid if and only if it keeps all rules – as long as it has an entity. Of a draft without entities
nothing is looked at but that it has none, and it counts as valid whatever its relationships name.

The rules are stated as a structure (`Sound`), one field for each list, so that
`errors_eq_nil_iff` is the conjunction of one equivalence for each of them. What is left is to see
which of all findings are errors, and this is a look at the severity of each list (`mem_errors`).
A new rule would add a list, a field and one equivalence.

A well-formed diagram keeps all rules but one, and the only errors in it are repeated attributes.
-/

namespace ErDiagram

namespace Draft

variable {d : Draft} {f : Finding}

/-- **The rules of a draft**: no name is declared twice, and relationships name declared entities
and have one of the sixteen symbols. It does not mention findings, so that it can be compared with
what is found. -/
structure Sound (d : Draft) : Prop where
  /-- Entities have different names. -/
  entities : d.entityNames.Nodup
  /-- Relationships join declared entities. Both ends are looked at, and either may be the missing
  one. -/
  ends : ∀ l ∈ d.links, l.source ∈ d.entityNames ∧ l.target ∈ d.entityNames
  /-- Every symbol is that of a cardinality. It is stated by the table of cardinalities, as the
  symbol of a draft is a text. -/
  symbols : ∀ l ∈ d.links, ∃ c ∈ Cardinality.all, c.symbol = l.symbol
  /-- The attributes of an entity have different names. Attributes of different entities may share
  theirs. -/
  attributes : ∀ e ∈ d.entities, (e.attributes.map (·.name)).Nodup

/-- What is found that is an error, as the three lists that hold errors. That no other list has
one is `mem_errors`. -/
def errors (d : Draft) : List Finding := d.repeatedEntities ++ d.brokenLinks ++ d.repeatedAttributes

/-! ## The rule that each list of errors is about

Each list is made by going through the entities or the relationships and picking what breaks a
rule. It is empty exactly if nothing does. -/

/-- Nothing is repeated in a list if it has no repetitions. -/
theorem repeated_eq_nil_iff {l : List String} : repeated l = [] ↔ l.Nodup := by
  rw [repeated, List.filter_eq_nil_iff, List.forall_mem_map, List.nodup_iff_count]
  simp only [List.mem_eraseDups, decide_eq_true_eq, Nat.not_lt]
  refine ⟨fun h n => ?_, fun h n _ => h n⟩
  by_cases hn : n ∈ l
  · exact h n hn
  · rw [List.count_eq_zero_of_not_mem hn]
    exact Nat.zero_le 1

theorem repeatedEntities_eq_nil_iff : d.repeatedEntities = [] ↔ d.entityNames.Nodup := by
  rw [repeatedEntities, List.map_eq_nil_iff, repeated_eq_nil_iff]

theorem repeatedAttributes_eq_nil_iff :
    d.repeatedAttributes = [] ↔ ∀ e ∈ d.entities, (e.attributes.map (·.name)).Nodup := by
  simp only [repeatedAttributes, List.flatMap_eq_nil_iff, List.map_eq_nil_iff, repeated_eq_nil_iff]

/-- A text is read as a symbol if it is the symbol of a cardinality. -/
theorem isSome_ofSymbol?_iff {s : String} :
    (Cardinality.ofSymbol? s).isSome = true ↔ ∃ c ∈ Cardinality.all, c.symbol = s := by
  rw [Cardinality.ofSymbol?, Cardinality.ofChars?, List.find?_isSome]
  refine exists_congr fun c => and_congr_right fun _ => ?_
  rw [beq_iff_eq, Cardinality.symbol, ← String.toList_inj, String.toList_ofList]

/-- **A relationship is not broken** if it joins declared entities by one of the symbols. Its
symbol is a text here, and known if it is one of the sixteen. -/
theorem linkFaults_eq_nil_iff {l : Link} :
    d.linkFaults l = [] ↔ (l.source ∈ d.entityNames ∧ l.target ∈ d.entityNames) ∧
      ∃ c ∈ Cardinality.all, c.symbol = l.symbol := by
  rw [linkFaults, List.append_eq_nil_iff, List.map_eq_nil_iff, ← isSome_ofSymbol?_iff]
  refine and_congr ?_ ?_
  · simp [List.filter_eq_nil_iff]
  · split
    · next h => exact iff_of_true rfl h
    · next h => exact iff_of_false (List.cons_ne_nil _ _) h

theorem brokenLinks_eq_nil_iff :
    d.brokenLinks = [] ↔
      (∀ l ∈ d.links, l.source ∈ d.entityNames ∧ l.target ∈ d.entityNames) ∧
        ∀ l ∈ d.links, ∃ c ∈ Cardinality.all, c.symbol = l.symbol := by
  simp only [brokenLinks, List.flatMap_eq_nil_iff, linkFaults_eq_nil_iff, forall_and]

/-- **There are no errors if all rules are kept.** -/
theorem errors_eq_nil_iff : d.errors = [] ↔ d.Sound := by
  rw [errors, List.append_eq_nil_iff, List.append_eq_nil_iff, repeatedEntities_eq_nil_iff,
    brokenLinks_eq_nil_iff, repeatedAttributes_eq_nil_iff]
  exact ⟨fun ⟨⟨hn, he, hs⟩, ha⟩ => ⟨hn, he, hs, ha⟩, fun h => ⟨⟨h.entities, h.ends, h.symbols⟩,
    h.attributes⟩⟩

/-! ## Which findings are errors

The severity of a finding is that of its kind, so that it is known for a whole list at once. -/

theorem severity_linkFaults {l : Link} (h : f ∈ d.linkFaults l) : f.severity = .error := by
  rcases List.mem_append.1 h with h | h
  · obtain ⟨n, _, rfl⟩ := List.mem_map.1 h
    rfl
  · split at h
    · cases h
    · rw [List.mem_singleton.1 h]
      rfl

theorem severity_errors (h : f ∈ d.errors) : f.severity = .error := by
  rcases List.mem_append.1 h with h | h
  · rcases List.mem_append.1 h with h | h
    · obtain ⟨p, _, rfl⟩ := List.mem_map.1 h
      rfl
    · obtain ⟨l, _, h⟩ := List.mem_flatMap.1 h
      exact severity_linkFaults h
  · obtain ⟨e, _, h⟩ := List.mem_flatMap.1 h
    obtain ⟨p, _, rfl⟩ := List.mem_map.1 h
    rfl

/-- **What is odd about relationships that are not broken**: one joins an entity with itself, or
repeats an earlier one. -/
theorem exists_of_mem_oddLinks {earlier links : List Link} (h : f ∈ oddLinks earlier links) :
    ∃ l ∈ links, f = .selfRelationship l.source l.line ∨
      f = .repeatedRelationship l.source l.target l.line := by
  induction links generalizing earlier with
  | nil => cases h
  | cons l links ih =>
    unfold oddLinks at h
    simp only [List.mem_append] at h
    rcases h with (h | h) | h
    · split at h
      · exact ⟨l, List.mem_cons_self, .inl (List.mem_singleton.1 h)⟩
      · cases h
    · split at h
      · exact ⟨l, List.mem_cons_self, .inr (List.mem_singleton.1 h)⟩
      · cases h
    · obtain ⟨l', hl', hf⟩ := ih h
      exact ⟨l', List.mem_cons_of_mem l hl', hf⟩

/-- Neither is an error. -/
theorem severity_oddLinks {earlier links : List Link} (h : f ∈ oddLinks earlier links) :
    f.severity ≠ .error := by
  obtain ⟨l, _, rfl | rfl⟩ := exists_of_mem_oddLinks h
  · exact nofun
  · exact nofun

/-- **Every finding that is an error is one of the errors.** The other lists have warnings and
remarks only. -/
theorem mem_errors (h : f ∈ d.validate) (he : f.severity = .error) : f ∈ d.errors := by
  unfold validate at h
  split at h
  · rw [List.mem_singleton.1 h] at he
    cases he
  rcases List.mem_append.1 h with h | h
  · rcases List.mem_append.1 h with h | h
    · rcases List.mem_append.1 h with h | h
      · exact h
      · unfold unrelatedEntities at h
        dsimp only at h
        split at h
        · cases h
        · rw [List.mem_singleton.1 h] at he
          cases he
    · exact absurd he (severity_oddLinks h)
  · obtain ⟨e, _, rfl⟩ := List.mem_map.1 h
    cases he

/-- The errors of a draft with an entity are found. -/
theorem errors_subset_validate (hne : d.entities ≠ []) : d.errors ⊆ d.validate := by
  intro f h
  unfold validate
  rw [if_neg (mt List.isEmpty_iff.1 hne)]
  exact List.mem_append_left _ (List.mem_append_left _ (List.mem_append_left _ h))

end Draft

/-! ## The verdict -/

theorem Summary.isValid_of_iff {l : List Finding} :
    (Summary.of l).isValid = true ↔ ∀ f ∈ l, f.severity ≠ .error := by
  rw [Summary.isValid, Summary.of, beq_iff_eq, List.countP_eq_zero]
  simp only [beq_iff_eq, ne_eq]

/-- **What the verdict on a draft says.** A draft with an entity is valid if and only if it keeps
all rules. A draft without entities is valid in any case: its relationships are not looked at. The
symbols of a draft are any texts, so that this holds of what is put together by hand as well. -/
theorem Draft.isValid_validate_iff (d : Draft) :
    (Summary.of d.validate).isValid = true ↔ d.entities = [] ∨ d.Sound := by
  rw [Summary.isValid_of_iff]
  by_cases hne : d.entities = []
  · refine iff_of_true (fun f hf => ?_) (.inl hne)
    rw [validate, if_pos (List.isEmpty_iff.2 hne), List.mem_singleton] at hf
    rw [hf]
    exact nofun
  · rw [or_iff_right hne, ← errors_eq_nil_iff, List.eq_nil_iff_forall_not_mem]
    constructor
    · exact fun h f hf => h f (errors_subset_validate hne hf) (severity_errors hf)
    · exact fun h f hf he => h f (mem_errors hf he)

namespace Diagram

/-- A relationship between two names in a diagram that has no entities. -/
def unanchored : Diagram where
  relationships := [{ source := "A", target := "B", cardinality := ⟨.one, .one⟩ }]

/-- **Not every diagram that is valid keeps the rules**: one without entities may relate any names,
and all that is found is that it is empty. -/
theorem not_sound_of_isValid :
    (unanchored.validate = [.empty] ∧ (Summary.of unanchored.validate).isValid = true ∧
      unanchored.entityNames = []) ∧
    ¬ ∀ d : Diagram, (Summary.of d.validate).isValid = true ↔ d.draft.Sound := by
  refine ⟨by decide, fun h => ?_⟩
  obtain ⟨hsource, _⟩ := ((h unanchored).1 (by decide)).ends _ List.mem_cons_self
  cases hsource

variable {d : Diagram}

/-! ## Well-formed diagrams -/

/-- The symbols of a diagram are known. -/
theorem WellFormed.brokenLinks_eq_nil (h : d.WellFormed) : d.draft.brokenLinks = [] := by
  rw [Draft.brokenLinks_eq_nil_iff]
  unfold draft
  simp only [List.forall_mem_map]
  exact ⟨fun r hr => ⟨(h.ends r hr).1.1, (h.ends r hr).2.1⟩,
    fun r _ => ⟨r.cardinality, Cardinality.mem_all _, rfl⟩⟩

/-- **The only errors of a well-formed diagram are repeated attributes.** Names are distinct, ends
are declared, and the symbol of a cardinality is known. -/
theorem WellFormed.eq_repeatedAttribute (h : d.WellFormed) {f : Finding}
    (hf : f ∈ d.validate) (he : f.severity = .error) :
    ∃ entity name, f = .repeatedAttribute entity name := by
  have hmem := Draft.mem_errors hf he
  have hnone : d.draft.repeatedEntities = [] := Draft.repeatedEntities_eq_nil_iff.2 h.nodup
  rw [Draft.errors, hnone, h.brokenLinks_eq_nil, List.nil_append, List.nil_append] at hmem
  obtain ⟨e, _, hmem⟩ := List.mem_flatMap.1 hmem
  obtain ⟨p, _, rfl⟩ := List.mem_map.1 hmem
  exact ⟨e.name, p.1, rfl⟩

end Diagram

end ErDiagram
