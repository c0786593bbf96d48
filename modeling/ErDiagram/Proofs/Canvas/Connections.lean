import ErDiagram.Canvas.Writing
import ErDiagram.Proofs.Line.Relationship
import Mathlib.Data.List.Forall2
import Mathlib.Data.List.Nodup

/-!
# Connections are written as relationship lines

A connection is written if both of its ends are entities, and then as one line. Nothing of this
line can be mistaken: the names at its ends are identifiers, its symbol stands for the
multiplicities that the two free texts were understood as, and all else is the label. So the lines
of a graph, read one by one, give its connections between entities back in their order.

What a connection says of its ends is an id. Where several elements have the same id, the last one
of them counts, whatever it is; only where ids are pairwise distinct is an end an entity whenever
some entity has its id.

Lines are taken from the form in which the graph is written, and not from the outline. A form is
what is turned into the text of the document, and it may be one of two; that both have the same
lines is a small lemma (`Outline.lines_form`), and everything else is about lists of lines that go
together with lists of connections, one by one (`List.Forall₂`).
-/

namespace ErDiagram

namespace Form

/-- The texts of a value that is a list of them. -/
def textsOf : Yaml.Value → List String
  | .texts items => items
  | _ => []

/-- **The relationship lines of a form**: those of the block, or those of the section for them. -/
def lines : Form → List String
  | block _ lines => lines
  | structured sections => ((sections.lookup "relationships").map textsOf).getD []

end Form

/-- Both forms have all relationship lines of the outline. -/
theorem Outline.lines_form (o : Outline) : o.form.lines = o.lines := by
  unfold form
  split
  · rfl
  · rfl

namespace Canvas.Graph

/-- **The form that a graph is written in**, if it is written. -/
def form? (g : Graph) : Option Form := g.outline?.map Outline.form

/-- **The relationship lines that a graph is written with.** -/
def lines (g : Graph) : List String := (g.form?.map Form.lines).getD []

/-- Whether both ends of a connection are entities of the graph. It is a test, so that the
connections that are written can be filtered by it; what it says is `Joins`. -/
def joinsEntities (g : Graph) (c : Connection) : Bool :=
  g.entities.any (·.id == c.source) && g.entities.any (·.id == c.target)

/-- The two entities that a connection joins. If ids are distinct there are no others; if not,
there may be several pairs, and one of them is written. -/
structure Joins (g : Graph) (c : Connection) (s t : Element) : Prop where
  /-- The source is an entity. -/
  mem_source : s ∈ g.entities
  /-- The target is an entity. -/
  mem_target : t ∈ g.entities
  /-- The connection names the source. -/
  id_source : s.id = c.source
  /-- The connection names the target. -/
  id_target : t.id = c.target

variable {g : Graph}

theorem text_form? (g : Graph) : g.serialize? = g.form?.map Form.text := by
  rw [form?, Option.map_map]
  rfl

/-- **A graph is written exactly if it has an entity.** -/
theorem form?_eq_none_iff : g.form? = none ↔ g.entities = [] := by
  rw [form?, Option.map_eq_none_iff, outline?, ← List.isEmpty_iff]
  split
  · next h => exact iff_of_true rfl h
  · next h => exact iff_of_false nofun h

/-! ## Which connections are written -/

theorem mem_entities {e : Element} : e ∈ g.entities ↔ e ∈ g.elements ∧ e.isEntity = true :=
  List.mem_filter

theorem mem_of_element? {id : String} {e : Element} (h : g.element? id = some e) :
    e ∈ g.elements ∧ e.id = id := by
  have hid := List.find?_some h
  exact ⟨List.mem_reverse.1 (List.mem_of_find?_eq_some h), eq_of_beq hid⟩

/-- **Where ids are distinct, an element is the element of its id.** Without the condition it
could be another element, which comes later. -/
theorem element?_id (hids : (g.elements.map (·.id)).Nodup) {e : Element} (he : e ∈ g.elements) :
    g.element? e.id = some e := by
  have hsome : (g.elements.reverse.find? fun d => d.id == e.id).isSome = true :=
    List.find?_isSome.2 ⟨e, List.mem_reverse.2 he, beq_self_eq_true _⟩
  obtain ⟨d, hd⟩ := Option.isSome_iff_exists.1 hsome
  obtain ⟨hmem, hid⟩ := mem_of_element? hd
  rw [element?, hd, List.inj_on_of_nodup_map hids hmem he hid]

theorem joinsEntities_iff {c : Connection} :
    g.joinsEntities c = true ↔ ∃ s t, g.Joins c s t := by
  simp only [joinsEntities, Bool.and_eq_true, List.any_eq_true, beq_iff_eq]
  constructor
  · rintro ⟨⟨s, hs, hsource⟩, t, ht, htarget⟩
    exact ⟨s, t, hs, ht, hsource, htarget⟩
  · rintro ⟨s, t, hs, ht, hsource, htarget⟩
    exact ⟨⟨s, hs, hsource⟩, t, ht, htarget⟩

/-- What a connection is made a relationship of are itself and the entities that it joins. -/
theorem joins_of_relationship {c : Connection} {p : Connection × Element × Element}
    (h : (match g.ends? c with
      | some (s, t) => if s.isEntity && t.isEntity then some (c, s, t) else none
      | none => none) = some p) : p.1 = c ∧ g.Joins c p.2.1 p.2.2 := by
  split at h
  · next s t hends =>
    split at h
    · next hboth =>
      cases h
      rw [Bool.and_eq_true] at hboth
      unfold ends? at hends
      split at hends
      · next hs ht =>
        cases hends
        obtain ⟨hmem, hsource⟩ := mem_of_element? hs
        obtain ⟨hmem', htarget⟩ := mem_of_element? ht
        exact ⟨rfl, mem_entities.2 ⟨hmem, hboth.1⟩, mem_entities.2 ⟨hmem', hboth.2⟩, hsource,
          htarget⟩
      · cases hends
    · cases h
  · cases h

/-- **A relationship joins two entities.** Nothing is asked of ids here: whatever element an id
has led to is one of the graph. -/
theorem joins_of_mem_relationships {p : Connection × Element × Element}
    (h : p ∈ g.relationships) : g.Joins p.1 p.2.1 p.2.2 := by
  obtain ⟨c, _, hc⟩ := List.mem_filterMap.1 h
  obtain ⟨rfl, hjoins⟩ := joins_of_relationship hc
  exact hjoins

/-- The lines of a graph are those of its relationships. -/
theorem lines_eq (g : Graph) :
    g.lines = g.relationships.map fun (c, s, t) =>
      Outline.relationshipLine s.entityName c.cardinality t.entityName c.name := by
  unfold lines form? outline?
  split
  · next h =>
    -- what is not written has nothing to write
    have hnone : g.relationships = [] := List.eq_nil_iff_forall_not_mem.2 fun p hp => by
      have hs := (joins_of_mem_relationships hp).mem_source
      rw [List.isEmpty_iff.1 h] at hs
      cases hs
    rw [hnone]
    rfl
  · rw [Option.map_some, Option.map_some, Option.getD_some, Outline.lines_form]

/-- What of a list is kept by a test goes together with what a function makes of it, if the
function makes something of just what the test keeps. -/
theorem forall₂_filter_filterMap {α β : Type} {R : α → β → Prop} {p : α → Bool}
    {f : α → Option β} {l : List α}
    (hkept : ∀ a, p a = true → ∃ b, f a = some b ∧ R a b)
    (hleft : ∀ a b, f a = some b → p a = true) :
    List.Forall₂ R (l.filter p) (l.filterMap f) := by
  induction l with
  | nil => exact .nil
  | cons a l ih =>
    cases hp : p a with
    | true =>
      obtain ⟨b, hb, hR⟩ := hkept a hp
      rw [List.filter_cons_of_pos hp, List.filterMap_cons_some hb]
      exact .cons hR ih
    | false =>
      have hnone : f a = none := Option.eq_none_iff_forall_ne_some.2 fun b hb => by
        rw [hleft a b hb] at hp
        cases hp
      rw [List.filter_cons_of_neg (Bool.eq_false_iff.1 hp), List.filterMap_cons_none hnone]
      exact ih

/-- **The relationships of a graph are the connections between entities**, in their order and with
the entities that they join. Filtering the connections and looking up their ends agree on each of
them, and so on the list. -/
theorem forall₂_relationships (hids : (g.elements.map (·.id)).Nodup) :
    List.Forall₂ (fun c p => p.1 = c ∧ g.Joins c p.2.1 p.2.2)
      (g.connections.filter g.joinsEntities) g.relationships := by
  refine forall₂_filter_filterMap (fun c hc => ?_) fun c p hp => ?_
  · obtain ⟨s, t, h⟩ := joinsEntities_iff.1 hc
    obtain ⟨hs, hsource⟩ := mem_entities.1 h.mem_source
    obtain ⟨ht, htarget⟩ := mem_entities.1 h.mem_target
    have hends : g.ends? c = some (s, t) := by
      rw [ends?, ← h.id_source, ← h.id_target, element?_id hids hs, element?_id hids ht]
    refine ⟨(c, s, t), ?_, rfl, h⟩
    simp only [hends, hsource, htarget, Bool.and_self, if_true]
  · obtain ⟨rfl, hjoins⟩ := joins_of_relationship hp
    exact joinsEntities_iff.2 ⟨_, _, hjoins⟩

/-- **Each connection between entities has one line**, with the names of its ends. -/
theorem forall₂_lines (hids : (g.elements.map (·.id)).Nodup) :
    List.Forall₂ (fun c line => ∃ s t, g.Joins c s t ∧
        line = Outline.relationshipLine s.entityName c.cardinality t.entityName c.name)
      (g.connections.filter g.joinsEntities) g.lines := by
  rw [lines_eq, List.forall₂_map_right_iff]
  refine (forall₂_relationships hids).imp ?_
  rintro c ⟨_, s, t⟩ ⟨rfl, hjoins⟩
  exact ⟨s, t, hjoins, rfl⟩

/-- **Connections survive.** A graph that has an entity is written with one line for each
connection between entities and with no other relationship lines. Each of them is a single line,
and it is read back, in or out of an attribute block, as a relationship between the names of the
two entities. Its multiplicities are those that the free texts stand for, and its label is the
name of the connection, with single spaces between the words and without one pair of quotes around
them, or none if there are no words.

The condition on names is met by every name that has no line feed behind it, as names are made fit
before they are written. -/
theorem classify_lines (hids : (g.elements.map (·.id)).Nodup)
    (hnames : ∀ e ∈ g.entities, isIdentifier e.entityName.toList = true) :
    (g.form? = none ↔ g.entities = []) ∧ g.serialize? = g.form?.map Form.text ∧
      List.Forall₂ (fun c line => ∃ s t, g.Joins c s t ∧
          (∀ x ∈ line.toList, Text.isLineBreak x = false) ∧
          ∀ inBlock, Line.classify inBlock line
            = .ok (.relationship s.entityName
                ⟨multiplicityOf c.sourceMultiplicity, multiplicityOf c.targetMultiplicity⟩
                t.entityName (Line.labelBack c.name)))
        (g.connections.filter g.joinsEntities) g.lines := by
  refine ⟨form?_eq_none_iff, text_form? g, (forall₂_lines hids).imp ?_⟩
  rintro c _ ⟨s, t, hjoins, rfl⟩
  have hs := hnames s hjoins.mem_source
  have ht := hnames t hjoins.mem_target
  exact ⟨s, t, hjoins, Line.isLineBreak_of_mem_relationshipLine _ _ hs ht,
    fun inBlock => Line.classify_relationshipLine inBlock _ _ hs ht⟩

/-- Connections between entities, one with a label that looks like other lines, one from an entity
to itself with a blank label, and others: with an attribute, and with what is no element. -/
def joined : Graph where
  elements := [{ id := "o", name := "a b" }, { id := "n", type := "attribute", name := "n" },
    { id := "p", name := "P", weak := true }]
  connections := [{ source := "n", target := "o" },
    { source := "o", target := "p", name := some "' x:\n #  \x7b ||--|| '",
      sourceMultiplicity := some " 1..N ", targetMultiplicity := none },
    { source := "o", target := "q", name := some "gone" },
    { source := "p", target := "p", name := some " \t",
      targetMultiplicity := some "some of them" }]

theorem classify_lines_joined :
    (joined.elements.map (·.id)).Nodup ∧
      (∀ e ∈ joined.entities, isIdentifier e.entityName.toList = true) ∧
      ∃ line line', joined.lines = [line, line'] ∧ ∀ inBlock,
        Line.classify inBlock line = .ok (.relationship "a_b" ⟨.oneOrMany, .zeroOrMany⟩ "P"
          (some " x: # \x7b ||--|| ")) ∧
        Line.classify inBlock line'
          = .ok (.relationship "P" ⟨.one, .zeroOrMany⟩ "P" none) := by
  have hids : (joined.elements.map (·.id)).Nodup := by decide
  have hnames : ∀ e ∈ joined.entities, isIdentifier e.entityName.toList = true := by decide
  have hkept : joined.connections.filter joined.joinsEntities
      = [joined.connections[1], joined.connections[3]] := by decide
  have hname : ∀ e ∈ joined.entities, e.entityName = if e.id = "o" then "a_b" else "P" := by
    decide
  obtain ⟨-, -, hlines⟩ := classify_lines hids hnames
  rw [hkept] at hlines
  refine ⟨hids, hnames, ?_⟩
  obtain ⟨line, rest, ⟨s, t, h, -, hread⟩, hrest, hall⟩ := List.forall₂_cons_left_iff.1 hlines
  obtain ⟨line', rest, ⟨s', t', h', -, hread'⟩, hnil, rfl⟩ := List.forall₂_cons_left_iff.1 hrest
  cases hnil
  refine ⟨line, line', hall, fun inBlock => ⟨?_, ?_⟩⟩
  · rw [hread, hname s h.mem_source, hname t h.mem_target, h.id_source, h.id_target]
    decide
  · rw [hread', hname s' h'.mem_source, hname t' h'.mem_target, h'.id_source, h'.id_target]
    decide

end Canvas.Graph

end ErDiagram
