import ErDiagram.Diagram.Record
import ErDiagram.Document.Reading
import ErDiagram.Proofs.Except
import ErDiagram.Proofs.Record.Field
import Mathlib.Control.Monad.Basic

/-!
# What JSON keeps of a diagram

A diagram is written field by field, and each field is read back as it was written. Fields may be
left out: a relationship without a label or a line does not mention it, and is read back without
it, since that is what a missing field stands for. An empty label, however, is left out as well,
and what comes back is a relationship without a label. So a diagram is read back as itself unless
one of its labels is empty.

Fields are read under several names, and so a record is read only after its fields have got their
names (`Record.rename`). What is written uses none of the other names, hence each of the three
kinds of record is its own renaming, and a field is what `Record.get?` finds there. The rest is
the same for all: each field is read by the reader of its kind, and for these it is shown in
`Proofs/Record` that what is written is read back.

Coordinates are floating-point numbers here and are handed on as they are. How a number is spelled
as text is a matter of writing JSON as text, which comes later.
-/

namespace ErDiagram

open Record (nested)

namespace Attribute

/-- **An attribute is read back.** None of its fields goes by another name. -/
theorem nested_toJson (a : Attribute) : nested ofRecord a.toJson = .ok a := by
  have hrename : Record.rename [("name", .str a.name), ("data_type", .str a.dataType),
      ("primary_key", .bool a.primaryKey), ("required", .bool a.required),
      ("multivalued", .bool a.multivalued), ("derived", .bool a.derived),
      ("composite", .bool a.composite)] fieldNames = _ :=
    Record.rename_of_keys_subset (List.Subset.refl ["name", "data_type", "primary_key", "required",
      "multivalued", "derived", "composite"]) (by decide)
  unfold nested toJson ofRecord
  dsimp only
  rw [hrename]
  rfl

end Attribute

namespace Entity

/-- **An entity is read back**, with its place and its size. -/
theorem nested_toJson (e : Entity) : nested ofRecord e.toJson = .ok e := by
  have hattributes : Record.list (nested Attribute.ofRecord)
      (.arr (e.attributes.map Attribute.toJson)) = .ok e.attributes :=
    Record.list_map fun a _ => a.nested_toJson
  unfold nested toJson ofRecord
  dsimp only
  rw [Record.required_eq_ok rfl (Record.string_str e.name),
    Record.optional_eq_ok rfl hattributes,
    Record.optional_eq_ok rfl (Record.bool_bool e.weak),
    Record.optional_eq_ok rfl (Record.nullable_ofFloat? e.x),
    Record.optional_eq_ok rfl (Record.nullable_ofFloat? e.y),
    Record.optional_eq_ok rfl (Record.float_float e.width),
    Record.optional_eq_ok rfl (Record.float_float e.height)]
  rfl

end Entity

namespace Relationship

/-- The label of a relationship, unless it is empty: what is left of a label after it was
written. -/
def keptLabel (r : Relationship) : Option String := r.label.filter fun l => !l.isEmpty

/-- The relationship without its label, if that is empty. -/
def withoutEmptyLabel (r : Relationship) : Relationship := { r with label := r.keptLabel }

/-- The fields of a relationship that are always written. Three of them are not read: the
multiplicities are in the symbol, and every relationship is identifying. -/
def constantFields (r : Relationship) : Record :=
  [("source", .str r.source), ("target", .str r.target),
    ("cardinality", .str r.cardinality.symbol),
    ("source_multiplicity", .str r.cardinality.source.name),
    ("target_multiplicity", .str r.cardinality.target.name), ("identifying", .bool true)]

/-- The fields of a relationship. -/
def fields (r : Relationship) : Record :=
  r.constantFields ++ Record.ifSome "label" .str r.keptLabel ++ Record.ifSome "line" .int r.line

theorem toJson_eq (r : Relationship) : r.toJson = .obj r.fields := by
  obtain ⟨source, target, c, label, line⟩ := r
  cases label with
  | none => cases line <;> rfl
  | some l =>
    unfold toJson fields keptLabel
    rw [Option.filter_some]
    dsimp only
    cases l.isEmpty <;> cases line <;> rfl

theorem get?_fields_label (r : Relationship) :
    r.fields.get? "label" = r.keptLabel.map Json.str := by
  rw [fields, Record.get?_append, Record.get?_append, Record.get?_ifSome, Record.get?_ifSome,
    if_pos rfl, if_neg (by decide)]
  exact Option.or_none

theorem get?_fields_line (r : Relationship) : r.fields.get? "line" = r.line.map Json.int := by
  rw [fields, Record.get?_append, Record.get?_append, Record.get?_ifSome, Record.get?_ifSome,
    if_neg (by decide), if_pos rfl]
  rfl

theorem keys_fields_subset (r : Relationship) :
    r.fields.map Prod.fst ⊆ ["source", "target", "cardinality", "source_multiplicity",
      "target_multiplicity", "identifying", "label", "line"] := by
  rw [fields, List.map_append, List.map_append]
  intro name hname
  rcases List.mem_append.1 hname with hname | hname
  · rcases List.mem_append.1 hname with hname | hname
    · exact List.mem_append_left ["label", "line"] hname
    · rw [List.mem_singleton.1 (Record.keys_ifSome_subset _ _ _ hname)]
      decide
  · rw [List.mem_singleton.1 (Record.keys_ifSome_subset _ _ _ hname)]
    decide

/-- **A relationship is read back**, without its label if that is empty. -/
theorem nested_toJson (r : Relationship) : nested ofRecord r.toJson = .ok r.withoutEmptyLabel := by
  have hrename : r.fields.rename fieldNames = r.fields :=
    Record.rename_of_keys_subset r.keys_fields_subset (by decide)
  have hsymbol : cardinalityField (.str r.cardinality.symbol) = .ok r.cardinality := by
    show Record.Checked.thenCheck (.ok r.cardinality.symbol) _ = _
    rw [Record.Checked.thenCheck, Cardinality.ofSymbol?_symbol]
  rw [toJson_eq]
  unfold nested ofRecord
  dsimp only
  rw [hrename, Record.required_eq_ok rfl (Record.string_str r.source),
    Record.required_eq_ok rfl (Record.string_str r.target), Record.required_eq_ok rfl hsymbol,
    Record.optional_of_map r.get?_fields_label fun _ => rfl,
    Record.optional_of_map r.get?_fields_line fun _ => rfl]
  rfl

theorem withoutEmptyLabel_eq_self_iff {r : Relationship} :
    r.withoutEmptyLabel = r ↔ r.label ≠ some "" := by
  have hlabel : r.withoutEmptyLabel = r ↔ r.keptLabel = r.label := by
    constructor
    · exact congrArg label
    · intro h
      rw [withoutEmptyLabel, h]
  rw [hlabel, keptLabel]
  cases r.label with
  | none => exact iff_of_true rfl nofun
  | some l => simp [Option.filter_some]

end Relationship

namespace Diagram

/-- Items that are records are read one by one. -/
theorem readEach_map {α β : Type} {write : β → Json} {read : Record → Record.Checked α}
    {f : β → α} {l : List β} (h : ∀ b ∈ l, nested read (write b) = .ok (f b)) :
    readEach read (l.map write) = .ok (l.map f) := by
  induction l with
  | nil => rfl
  | cons b l ih =>
    have hb := h b List.mem_cons_self
    rw [List.map_cons]
    cases hw : write b with
    | obj fields =>
      rw [hw] at hb
      rw [readEach, show read fields = .ok (f b) from hb,
        ih fun c hc => h c (List.mem_cons_of_mem b hc)]
      rfl
    | _ =>
      rw [hw] at hb
      cases hb

/-- A diagram is read if its parts are. -/
theorem ofJsonParts_eq_ok {r : Record} {items items' : List Json} {d : Diagram}
    (hitems : itemsOf r "entities" = .ok items)
    (hitems' : itemsOf r "relationships" = .ok items')
    (hentities : readEach Entity.ofRecord items = .ok d.entities)
    (hrelationships : readEach Relationship.ofRecord items' = .ok d.relationships)
    (htitle : r.optional "title" none (Record.nullable Record.string) = .ok d.title) :
    ofJsonParts r = .ok d := by
  unfold ofJsonParts
  simp only [hitems, hitems', hentities, hrelationships, htitle, bind, Except.bind]
  rfl

/-- **A diagram survives its own JSON unless a label is empty.** Everything is read back: the
title, the entities with their attributes, places and sizes, and the relationships with their
labels and lines, but for an empty label, which is read back as none. There is no condition on the
diagram: names may be repeated and ends may be undeclared. -/
theorem ofJsonParts_toJson (d : Diagram) :
    ∃ fields, d.toJson = .obj fields ∧
      ofJsonParts fields = .ok
        { d with relationships := d.relationships.map Relationship.withoutEmptyLabel } ∧
      (ofJsonParts fields = .ok d ↔ ∀ r ∈ d.relationships, r.label ≠ some "") := by
  have hentities : readEach Entity.ofRecord (d.entities.map Entity.toJson) = .ok d.entities := by
    rw [readEach_map fun e _ => e.nested_toJson]
    exact congrArg Except.ok (List.map_id d.entities)
  have hread : ofJsonParts [("title", .ofString? d.title),
      ("entities", .arr (d.entities.map Entity.toJson)),
      ("relationships", .arr (d.relationships.map Relationship.toJson))] = .ok
        { d with relationships := d.relationships.map Relationship.withoutEmptyLabel } :=
    ofJsonParts_eq_ok rfl rfl hentities (readEach_map fun r _ => r.nested_toJson)
      (Record.optional_eq_ok rfl (Record.nullable_ofString? d.title))
  have hkept : d.relationships.map Relationship.withoutEmptyLabel = d.relationships ↔
      ∀ r ∈ d.relationships, r.label ≠ some "" := calc
    _ ↔ d.relationships.map Relationship.withoutEmptyLabel = d.relationships.map id := by
      rw [List.map_id]
    _ ↔ ∀ r ∈ d.relationships, r.withoutEmptyLabel = r := List.map_inj_left
    _ ↔ _ := forall₂_congr fun r _ => r.withoutEmptyLabel_eq_self_iff
  refine ⟨_, rfl, hread, ?_⟩
  rw [hread, ← hkept]
  exact ⟨fun h => congrArg relationships (Except.ok.inj h), fun h => by rw [h]⟩

/-- The labels of the relationships. -/
def labels (d : Diagram) : List (Option String) := d.relationships.map (·.label)

/-- A relationship with a label that is empty. -/
def emptyLabelled : Diagram where
  entities := [{ name := "A" }, { name := "B" }]
  relationships := [{ source := "A", target := "B", cardinality := ⟨.one, .one⟩, label := some "",
                      line := some 1 }]

/-- **Not every diagram survives its own JSON**: an empty label, which a text may well give, comes
back as none. A text gives it by two quotes with nothing between them. -/
theorem not_ofJsonParts_toJson :
    (parse "A\nB ||--|| C : ''").map labels = .ok [some ""] ∧
    (∃ fields, emptyLabelled.toJson = .obj fields ∧
      (ofJsonParts fields).map labels = .ok [none]) ∧
    ¬ ∀ d : Diagram, ∃ fields, d.toJson = .obj fields ∧ ofJsonParts fields = .ok d := by
  refine ⟨by decide +kernel, ⟨_, rfl, rfl⟩, fun h => ?_⟩
  obtain ⟨fields, hfields, hread⟩ := h emptyLabelled
  cases hfields
  cases congrArg (Except.map labels) hread

end Diagram

end ErDiagram
