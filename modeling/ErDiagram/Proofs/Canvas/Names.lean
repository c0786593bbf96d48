import ErDiagram.Proofs.Canvas.Connections
import ErDiagram.Proofs.FirstOccurrences
import ErDiagram.Proofs.OrderedMap

/-!
# The names of a written graph

Entities of a graph are told apart by their ids, and entities of a text by their names. Names are
made fit for the line syntax on the way, and since the same identifier can be made of many names,
entities that are drawn under different names may be one entity in the text.

That is all that can happen. A name with a letter or a digit is never replaced by an id, and the
text has one entity for each identifier that the names are made into, no matter in which of the
two forms it is written: in a block of lines each entity stands at an end of a line, or else the
form would have been the other one. So entities are merged exactly if their names are made into
the same identifier, and just then a connection of them is a relationship of an entity with
itself.

What entities a text has is asked of its form: those that are listed, and those that its lines
relate when they are read. This is why names with a line feed behind them are left out. Their
lines are read as something else, or not at all.
-/

namespace ErDiagram

/-- The entities that a line relates. -/
def Line.ends : Line → List String
  | relationship source _ target _ => [source, target]
  | _ => []

/-- The entities that are related by the line that a text is read as. It is the reader that
decides, and not what the line was written for. -/
def Line.endsOf (text : String) : List String :=
  match classify false text with
  | .ok line => line.ends
  | .error _ => []

/-- A line that relates an entity to itself, when it is read. -/
def Line.IsLoop (text : String) : Prop := ∃ n, endsOf text = [n, n]

theorem Line.endsOf_relationshipLine {s t : String} (c : Cardinality) (label : Option String)
    (hs : isIdentifier s.toList = true) (ht : isIdentifier t.toList = true) :
    endsOf (Outline.relationshipLine s c t label) = [s, t] := by
  rw [endsOf, classify_relationshipLine false c label hs ht]
  rfl

namespace Form

/-- The keys of a value that is a mapping. -/
def keysOf : Yaml.Value → List String
  | .map pairs => pairs.map Prod.fst
  | _ => []

/-- The entities that a form lists. -/
def declaredNames : Form → List String
  | block .. => []
  | structured sections => ((sections.lookup "entities").map keysOf).getD []

/-- **The entities of a form**: those that it lists, and those that its lines relate. A block of
lines lists none, so that both parts are needed. -/
def entityNames (f : Form) : List String :=
  (f.declaredNames ++ f.lines.flatMap Line.endsOf).eraseDups

theorem nodup_entityNames (f : Form) : f.entityNames.Nodup :=
  nodup_eraseDups _

end Form

/-- A block lists no entities, and a structured form lists all of them. -/
theorem Outline.declaredNames_form (o : Outline) :
    o.form.declaredNames = if o.isPlain then [] else o.entities.keys := by
  unfold form
  split
  · rfl
  · exact List.map_map

/-- **Both forms have the entities of the outline**, if its lines relate those that it says are
related, and no others. A structured form lists them, and a block has all of them in its lines, as
it is used only where each entity is related. -/
theorem Outline.mem_entityNames_form {o : Outline}
    (hlines : o.lines.flatMap Line.endsOf = o.related)
    (hrelated : o.related ⊆ o.entities.keys) (n : String) :
    n ∈ o.form.entityNames ↔ n ∈ o.entities.keys := by
  rw [Form.entityNames, declaredNames_form, lines_form, hlines, List.mem_eraseDups,
    List.mem_append]
  split
  · next hplain =>
    -- what a block does not list is related
    unfold isPlain at hplain
    simp only [Bool.and_eq_true, List.all_eq_true, List.contains_iff_mem] at hplain
    exact ⟨fun h => hrelated (h.resolve_left List.not_mem_nil), fun h => .inr (hplain.2 n h)⟩
  · exact ⟨fun h => h.elim id fun h => hrelated h, .inl⟩

namespace Canvas

/-- **A name with a letter or a digit is written**, made fit, and no id in its place. A letter or
a digit is never removed, so that something is left of the name. -/
theorem Element.entityName_eq {e : Element} (h : HasLetter e.name) :
    e.entityName = cleanName e.name := by
  have hne : (!(cleanName e.name).isEmpty) = true := by
    rw [Bool.not_eq_true', Bool.eq_false_iff, Ne, String.isEmpty_iff]
    exact cleanName_ne_empty h
  exact if_pos hne

namespace Graph

variable {g : Graph}

/-- The entities of an outline have the names of the entities of the graph. -/
theorem mem_keys_outline {o : Outline} (h : g.outline? = some o) (n : String) :
    n ∈ o.entities.keys ↔ ∃ e ∈ g.entities, e.entityName = n := by
  unfold outline? at h
  split at h
  · cases h
  cases h
  rw [OrderedMap.mem_keys_ofList, List.map_map, List.mem_map]
  rfl

/-- What an outline says is related are names of entities. -/
theorem related_outline_subset {o : Outline} (h : g.outline? = some o) :
    o.related ⊆ o.entities.keys := by
  have hkeys := mem_keys_outline h
  unfold outline? at h
  split at h
  · cases h
  cases h
  intro n hn
  obtain ⟨p, hp, hn⟩ := List.mem_flatMap.1 hn
  have hjoins := joins_of_mem_relationships hp
  rw [hkeys]
  rcases List.mem_cons.1 hn with rfl | hn
  · exact ⟨_, hjoins.mem_source, rfl⟩
  · exact ⟨_, hjoins.mem_target, (List.mem_singleton.1 hn).symm⟩

/-- Where all names are identifiers, the lines of an outline relate the entities that it says are
related. -/
theorem flatMap_endsOf_outline {o : Outline} (h : g.outline? = some o)
    (hnames : ∀ e ∈ g.entities, isIdentifier e.entityName.toList = true) :
    o.lines.flatMap Line.endsOf = o.related := by
  unfold outline? at h
  split at h
  · cases h
  cases h
  dsimp only
  rw [List.flatMap_map]
  refine List.flatMap_congr fun p hp => ?_
  have hjoins := joins_of_mem_relationships hp
  exact Line.endsOf_relationshipLine _ _ (hnames _ hjoins.mem_source) (hnames _ hjoins.mem_target)

/-- **The entities of a written graph are the names of its entities.** -/
theorem mem_entityNames_form? {f : Form} (h : g.form? = some f)
    (hnames : ∀ e ∈ g.entities, isIdentifier e.entityName.toList = true) (n : String) :
    n ∈ f.entityNames ↔ ∃ e ∈ g.entities, e.entityName = n := by
  obtain ⟨o, ho, rfl⟩ := Option.map_eq_some_iff.1 h
  rw [Outline.mem_entityNames_form (flatMap_endsOf_outline ho hnames) (related_outline_subset ho),
    mem_keys_outline ho]

/-- **Entities are merged by the identifiers that their names are made into.** Where each entity
has a name with a letter or a digit, the text of a graph has one entity for each identifier that
these names are made into: as many as there are different names exactly if different names are
made into different identifiers. A connection of two entities is a relationship of an entity with
itself exactly if the two names are made into the same.

Entities are counted up to their order, since a block of lines has them in the order in which they
are related, and a structured document in the order in which they are drawn. -/
theorem perm_entityNames (hids : (g.elements.map (·.id)).Nodup)
    (hletter : ∀ e ∈ g.entities, HasLetter e.name) (hfeed : ∀ e ∈ g.entities, ¬ IsFed e.name) :
    (g.form? = none ↔ g.entities = []) ∧ g.serialize? = g.form?.map Form.text ∧
      (∀ f, g.form? = some f →
        f.entityNames.Perm (g.entities.map fun e => cleanName e.name).eraseDups ∧
        (f.entityNames.length = (g.entities.map (·.name)).eraseDups.length ↔
          Set.InjOn cleanName {n | n ∈ g.entities.map (·.name)})) ∧
      List.Forall₂ (fun c line => ∃ s t, g.Joins c s t ∧
          Line.endsOf line = [cleanName s.name, cleanName t.name] ∧
          (Line.IsLoop line ↔ cleanName s.name = cleanName t.name))
        (g.connections.filter g.joinsEntities) g.lines := by
  have hname : ∀ e ∈ g.entities, e.entityName = cleanName e.name := fun e he =>
    Element.entityName_eq (hletter e he)
  have hnames : ∀ e ∈ g.entities, isIdentifier e.entityName.toList = true := fun e he => by
    rw [hname e he]
    exact isIdentifier_cleanName (hletter e he) (hfeed e he)
  refine ⟨form?_eq_none_iff, text_form? g, fun f hf => ?_, (forall₂_lines hids).imp ?_⟩
  · have hperm : f.entityNames.Perm (g.entities.map fun e => cleanName e.name).eraseDups := by
      refine (List.perm_ext_iff_of_nodup f.nodup_entityNames (nodup_eraseDups _)).2 fun n => ?_
      rw [mem_entityNames_form? hf hnames, List.mem_eraseDups, List.mem_map]
      exact exists_congr fun e => and_congr_right fun he => by rw [hname e he]
    refine ⟨hperm, ?_⟩
    rw [hperm.length_eq, ← length_eraseDups_map_eq_iff, List.map_map]
    rfl
  · rintro c _ ⟨s, t, hjoins, rfl⟩
    have hends := Line.endsOf_relationshipLine c.cardinality c.name
      (hnames s hjoins.mem_source) (hnames t hjoins.mem_target)
    rw [hname s hjoins.mem_source, hname t hjoins.mem_target] at hends ⊢
    refine ⟨s, t, hjoins, hends, ?_⟩
    rw [Line.IsLoop, hends]
    constructor
    · rintro ⟨n, hn⟩
      simp only [List.cons.injEq, and_true] at hn
      exact hn.1.trans hn.2.symm
    · intro h
      exact ⟨cleanName s.name, by rw [h]⟩

/-- Three entities, two of which have names that are made into the same identifier. -/
def merged : Graph where
  elements := [{ id := "1", name := "a b" }, { id := "2", name := "a_b" },
    { id := "3", name := "c-1" }]
  connections := [{ source := "1", target := "2" }, { source := "2", target := "3" }]

theorem perm_entityNames_merged :
    (merged.elements.map (·.id)).Nodup ∧ (∀ e ∈ merged.entities, HasLetter e.name) ∧
      (∀ e ∈ merged.entities, ¬ IsFed e.name) ∧
      ∃ f, merged.form? = some f ∧ f.entityNames.Perm ["a_b", "c-1"] ∧
        ∃ line line', merged.lines = [line, line'] ∧ Line.endsOf line = ["a_b", "a_b"] ∧
          Line.endsOf line' = ["a_b", "c-1"] := by
  have hids : (merged.elements.map (·.id)).Nodup := by decide
  have hletter : ∀ e ∈ merged.entities, HasLetter e.name := by decide
  have hfeed : ∀ e ∈ merged.entities, ¬ IsFed e.name := by decide
  have hcleaned : (merged.entities.map fun e => cleanName e.name).eraseDups = ["a_b", "c-1"] := by
    decide
  have hkept : merged.connections.filter merged.joinsEntities = merged.connections := by decide
  have hname : ∀ e ∈ merged.entities,
      cleanName e.name = if e.id = "3" then "c-1" else "a_b" := by
    decide
  obtain ⟨hnone, -, hentities, hlines⟩ := perm_entityNames hids hletter hfeed
  have hne : merged.form? ≠ none := fun h => absurd (hnone.1 h) (by decide)
  obtain ⟨f, hf⟩ := Option.ne_none_iff_exists'.1 hne
  have hperm := (hentities f hf).1
  rw [hcleaned] at hperm
  rw [hkept] at hlines
  obtain ⟨line, rest, ⟨s, t, h, hends, -⟩, hrest, hall⟩ := List.forall₂_cons_left_iff.1 hlines
  obtain ⟨line', rest, ⟨s', t', h', hends', -⟩, hnil, rfl⟩ := List.forall₂_cons_left_iff.1 hrest
  cases hnil
  rw [hname s h.mem_source, hname t h.mem_target, h.id_source, h.id_target] at hends
  rw [hname s' h'.mem_source, hname t' h'.mem_target, h'.id_source, h'.id_target] at hends'
  exact ⟨hids, hletter, hfeed, f, hf, hperm, line, line', hall, hends, hends'⟩

/-- **Entities with different names may be written as one**, and a connection of them as a
relationship of an entity with itself. -/
theorem not_injective_entityNames :
    merged.form?.map Form.entityNames = some ["a_b", "c-1"] ∧
      merged.lines.map Line.endsOf = [["a_b", "a_b"], ["a_b", "c-1"]] ∧
      (¬ ∀ g : Graph, (g.elements.map (·.id)).Nodup → (∀ e ∈ g.entities, HasLetter e.name) →
        ∀ f, g.form? = some f →
          f.entityNames.length = (g.entities.map (·.name)).eraseDups.length) ∧
      ¬ ∀ g : Graph, (g.elements.map (·.id)).Nodup → (∀ e ∈ g.entities, HasLetter e.name) →
        List.Forall₂
          (fun c line => ∀ s t, g.Joins c s t → s.name ≠ t.name → ¬ Line.IsLoop line)
          (g.connections.filter g.joinsEntities) g.lines := by
  have hids : (merged.elements.map (·.id)).Nodup := by decide
  have hletter : ∀ e ∈ merged.entities, HasLetter e.name := by decide
  have hentities : merged.form?.map Form.entityNames = some ["a_b", "c-1"] := by
    decide +kernel
  have hlines : merged.lines.map Line.endsOf = [["a_b", "a_b"], ["a_b", "c-1"]] := by
    decide +kernel
  refine ⟨hentities, hlines, fun h => ?_, fun h => ?_⟩
  · obtain ⟨f, hf, hnames⟩ := Option.map_eq_some_iff.1 hentities
    have hcount := h merged hids hletter f hf
    rw [hnames] at hcount
    exact absurd hcount (by decide)
  · have hkept : merged.connections.filter merged.joinsEntities = merged.connections := by decide
    have hall := h merged hids hletter
    rw [hkept] at hall
    obtain ⟨line, rest, hloop, -, hlist⟩ := List.forall₂_cons_left_iff.1 hall
    rw [hlist, List.map_cons] at hlines
    have hjoins : merged.Joins merged.connections[0] merged.elements[0] merged.elements[1] :=
      ⟨by decide, by decide, rfl, rfl⟩
    exact hloop _ _ hjoins (by decide) ⟨_, List.head_eq_of_cons_eq hlines⟩

end Graph

end Canvas

end ErDiagram
