import ErDiagram.Proofs.Document.Outline
import ErDiagram.Proofs.Document.Sections

/-!
# Round trips

What is written of a diagram is read back, provided that the reader of YAML finds in the text the
document that was written. A diagram in normal form comes back as it was, but for its order if the
relationship lines alone say everything: the block of lines does not list the entities, so that
they come in the order in which the lines mention them.

A diagram that was itself read from a text is well formed, and so it makes the round trip as well.
Its labels need not be in normal form, and what comes back of them is their words with single
spaces between them. Nor need all of its attributes be written so that they can be read, since a
type of several words is no type of an attribute line.

The hypothesis about the reader of YAML is about one text, the one that is written
(`Outline.isComposedBack`): the tree of nodes that the reader finds in it says the value that was
written. It can be tested for a given text, and is met by the reader of this project in the
examples. Everything that a document says is compared, and what it does not say, such as the place
of an entity, is left out of the comparison (`Diagram.content`).
-/

namespace ErDiagram

open Yaml Text

/-! ## The text of a document

The reader looks for a document and reads plain lines if it finds none. So it is shown first that
the text is no blank one and is found to be a document, by what is asked of the reader of YAML. -/

/-- Every pair of a mapping is written with a colon. -/
theorem Yaml.Value.colon_mem_document (p : String × Value) (rest : List (String × Value)) :
    ':' ∈ (document (p :: rest)).toList := by
  have hpair : ∃ l ls, pairLines 0 (p :: rest) = l :: ls ∧ ':' ∈ l := by
    obtain ⟨key, value⟩ := p
    refine ⟨_, _, by rw [pairLines], ?_⟩
    dsimp only
    split
    · exact List.mem_append_right _ List.mem_cons_self
    · exact List.mem_append_right _ List.mem_cons_self
  obtain ⟨l, ls, hlines, hmem⟩ := hpair
  have hjoin : ':' ∈ joinLines 0 (l :: ls) := by
    cases ls with
    | nil => exact hmem
    | cons l' ls =>
      rw [joinLines, List.append_assoc]
      · exact List.mem_append_left _ hmem
      · exact nofun
  show ':' ∈ (String.ofList (joinLines 0 (pairLines 0 (p :: rest)) ++ ['\n'])).toList
  rw [String.toList_ofList, hlines]
  exact List.mem_append_left _ hjoin

/-- So no document is blank. -/
theorem Form.allBlank_text (f : Form) :
    allBlank f.text.toList = false := by
  have hcolon : ':' ∈ f.text.toList := by
    cases f with
    | block title lines =>
      unfold Form.text
      rw [String.toList_append, String.toList_append, String.toList_append, List.append_assoc,
        List.append_assoc]
      exact List.mem_append_left _ (Value.colon_mem_document _ _)
    | structured sections => exact Value.colon_mem_document _ _
  refine Bool.eq_false_iff.2 fun hblank => ?_
  have hnot : isBlank ':' = false := by decide
  rw [List.all_eq_true.1 hblank ':' hcolon] at hnot
  cases hnot

namespace Diagram

variable {d d' : Diagram} {compose : String → Except Failure (Option Node)}

/-- The text of a form is read by reading the node that the reader of YAML finds in it. -/
theorem parseBy_text {f : Form} {n : Node} (h : compose f.text = .ok (some n)) :
    parseBy compose f.text = Document.ofNode { lines := lines f.text.toList } n := by
  unfold parseBy parseWithin
  dsimp only
  rw [f.allBlank_text, if_neg Bool.false_ne_true, h]

/-- The node of sections is a mapping from the header to a mapping of the sections. -/
theorem exists_of_means_structured {sections : List (String × Value)} {n : Node}
    (h : n.means (Form.value (.structured sections)) = true) :
    ∃ k tag pairs line tag' line', n = .mapping tag' [(k, .mapping tag pairs line)] line' ∧
      k.isText "erDiagram" = true ∧ Node.meansPairs sections pairs = true := by
  rw [Form.value] at h
  obtain ⟨tag', nodes, line', rfl, hpairs⟩ := Node.exists_of_means_map h
  obtain ⟨k, v, more, rfl, hk, hv, hmore⟩ := Node.exists_of_meansPairs_cons hpairs
  cases Node.eq_nil_of_meansPairs hmore
  obtain ⟨tag, pairs, line, rfl, hp⟩ := Node.exists_of_means_map hv
  exact ⟨k, tag, pairs, line, tag', line', rfl, hk, hp⟩

/-- **A diagram that is written is read back**, if the reader of YAML finds in the text the
document that was written: with the title that it was written with, with the relationships in
their order, and with its entities in their order or, if it is plain, in the order in which the
relationships mention them. What its attributes come back as is given by the relation `ReadsAs`,
so that both round trips below are instances. -/
theorem exists_parseBy_text (hd : d.WellFormed) {es : List Entity}
    (hes : List.Forall₂ Entity.ReadsAs d.entities es)
    (hback : d.outline.isComposedBack compose = true) :
    ∃ d', parseBy compose d.outline.text = .ok d' ∧
      d'.title = some (Outline.titleOf d.title) ∧
      (d'.entities = if d.outline.isPlain
        then (Document.relatedNames d.relationships).map fun name => { name } else es) ∧
      d'.relationships.map (·.key) = d.relationships.map (·.keyBack) := by
  obtain ⟨n, hcompose, hsays⟩ := Outline.exists_of_isComposedBack hback
  have hwritable : ∀ r ∈ d.relationships, r.IsWritable := fun r hr =>
    ⟨(hd.ends r hr).1.2, (hd.ends r hr).2.2⟩
  have hparse : parseBy compose d.outline.text
      = Document.ofNode { lines := lines d.outline.text.toList } n := parseBy_text hcompose
  rw [hparse]
  by_cases hplain : d.outline.isPlain = true
  · -- a title and one block of text, with a line for each relationship
    have hform : d.outline.form = .block (Outline.titleOf d.title) (d.relationships.map (·.text)) :=
      if_pos hplain
    rw [hform, Form.value] at hsays
    obtain ⟨tag, nodes, line, rfl, hpairs⟩ := Node.exists_of_means_map hsays
    obtain ⟨k₁, v₁, more, rfl, hk₁, hv₁, hmore⟩ := Node.exists_of_meansPairs_cons hpairs
    obtain ⟨k₂, v₂, more, rfl, hk₂, hv₂, hmore⟩ := Node.exists_of_meansPairs_cons hmore
    cases Node.eq_nil_of_meansPairs hmore
    rw [Node.means_text] at hv₁ hv₂
    have htexts := Document.map_text_scalarLines_join hv₂ (lines d.outline.text.toList)
    rw [Document.flatMap_pieces_text hwritable] at htexts
    obtain ⟨l, hread, hkeys⟩ := Document.exists_readLines hwritable
      (some (Outline.titleOf d.title)) htexts
    have hblock : Document.ofPairs { lines := lines d.outline.text.toList }
        [(k₁, v₁), (k₂, v₂)] = _ := Document.ofPairs_block hk₁ hv₁ hk₂ hv₂
    rw [hread] at hblock
    exact ⟨_, hblock, rfl, (if_pos hplain).symm, hkeys⟩
  · -- three sections under the header
    rw [form_outline hd.nodup (Bool.not_eq_true _ ▸ hplain)] at hsays
    obtain ⟨k, tag, pairs, line, tag', line', rfl, hk, hp⟩ := exists_of_means_structured hsays
    obtain ⟨l, hread, hkeys⟩ :=
      Document.exists_addStructured { lines := lines d.outline.text.toList } hd hes hp
    exact ⟨_, (Document.ofPairs_structured hk tag pairs line).trans hread, rfl,
      (if_neg hplain).symm, hkeys⟩

/-! ## What is kept

A diagram is compared with the one that is read again by its contents, without places, sizes and
the lines of its relationships. What else may change is the order of the entities of a plain
diagram. -/

/-- What a document says of an entity besides its name: whether it is weak, and its attributes in
their order. There is none for a name that the diagram does not declare, so that equal contents
mean equal names as well. -/
def content (d : Diagram) (name : String) : Option (Bool × List Attribute) :=
  (d.entity? name).map fun e => (e.weak, e.attributes)

theorem entity?_eq_none_iff {name : String} : d.entity? name = none ↔ name ∉ d.entityNames := by
  unfold entity? entityNames
  simp only [List.find?_eq_none, List.mem_map, not_exists, not_and, beq_iff_eq]

/-- Entities of which nothing else is known all say the same. -/
theorem content_of_bare (h : ∀ e ∈ d.entities, e.attributes = [] ∧ e.weak = false)
    (name : String) :
    d.content name = if name ∈ d.entityNames then some (false, []) else none := by
  unfold content
  cases hfind : d.entity? name with
  | none =>
    rw [if_neg (entity?_eq_none_iff.1 hfind)]
    rfl
  | some e =>
    have he := List.mem_of_find?_eq_some hfind
    have hn := List.find?_some hfind
    obtain ⟨ha, hw⟩ := h e he
    rw [if_pos (eq_of_beq hn ▸ List.mem_map_of_mem he), Option.map_some, ha, hw]

/-- In a well-formed diagram that is plain, the related names are all there are. -/
theorem mem_relatedNames_of_isPlain (hd : d.WellFormed) (h : d.outline.isPlain = true)
    (n : String) : n ∈ Document.relatedNames d.relationships ↔ n ∈ d.entityNames := by
  constructor
  · intro hn
    rcases List.mem_append.1 (mem_relatedNames.1 hn) with hn | hn
    · obtain ⟨r, hr, rfl⟩ := List.mem_map.1 hn
      exact (hd.ends r hr).1.1
    · obtain ⟨r, hr, rfl⟩ := List.mem_map.1 hn
      exact (hd.ends r hr).2.1
  · intro hn
    obtain ⟨e, he, rfl⟩ := List.mem_map.1 hn
    exact ((isPlain_outline hd.nodup).1 h e he).2.2

/-- **The names after a round trip** are those from before, and in their order unless the diagram
is plain. -/
theorem entityNames_of_entities (hd : d.WellFormed) {es : List Entity}
    (hes : List.Forall₂ Entity.ReadsAs d.entities es)
    (h : d'.entities = if d.outline.isPlain
      then (Document.relatedNames d.relationships).map fun name => { name } else es) :
    (∀ n, n ∈ d'.entityNames ↔ n ∈ d.entityNames) ∧
      (d.outline.isPlain = false → d'.entityNames = d.entityNames) ∧
      (d.outline.isPlain = true →
        d'.entityNames = Document.relatedNames d.relationships) := by
  unfold entityNames
  rw [h]
  by_cases hplain : d.outline.isPlain = true
  · rw [if_pos hplain, List.map_map]
    have hnames : (Document.relatedNames d.relationships).map
        (Entity.name ∘ fun name => { name }) = Document.relatedNames d.relationships :=
      List.map_id _
    refine ⟨fun n => ?_, fun hfalse => ?_, fun _ => hnames⟩
    · rw [hnames]
      exact mem_relatedNames_of_isPlain hd hplain n
    · exact absurd (hfalse.symm.trans hplain) Bool.false_ne_true
  · rw [if_neg hplain, Entity.map_name_of_readsAs hes]
    exact ⟨fun _ => Iff.rfl, fun _ => rfl, fun htrue => absurd htrue hplain⟩

/-- An entity without its place and size, which no document gives. -/
def unplaced (e : Entity) : Entity := { name := e.name, attributes := e.attributes, weak := e.weak }

theorem content_map_unplaced (h : d'.entities = d.entities.map unplaced) (name : String) :
    d'.content name = d.content name := by
  unfold content entity?
  rw [h, List.find?_map, Option.map_map]
  rfl

/-- What a plain diagram says of its entities is their names. -/
theorem content_of_isPlain (hd : d.WellFormed) (h : d.outline.isPlain = true)
    (hentities : d'.entities
      = (Document.relatedNames d.relationships).map fun name => { name }) (name : String) :
    d'.content name = d.content name := by
  have hbare : ∀ e ∈ d.entities, e.attributes = [] ∧ e.weak = false := fun e he =>
    ⟨((isPlain_outline hd.nodup).1 h e he).1, ((isPlain_outline hd.nodup).1 h e he).2.1⟩
  have hbare' : ∀ e ∈ d'.entities, e.attributes = [] ∧ e.weak = false := fun e he => by
    rw [hentities] at he
    obtain ⟨_, _, rfl⟩ := List.mem_map.1 he
    exact ⟨rfl, rfl⟩
  have hmem : name ∈ d'.entityNames ↔ name ∈ d.entityNames := by
    rw [← mem_relatedNames_of_isPlain hd h, entityNames, hentities, List.map_map]
    exact Iff.of_eq (congrArg (name ∈ ·) (List.map_id _))
  rw [content_of_bare hbare, content_of_bare hbare']
  simp only [hmem]

/-- **A diagram that is written in normal form is read back as it was.** If its labels are
squeezed and stand in no quotes, its attributes have different names in every entity, and those
without flags have one word as their type, then the same names come back with the same content,
and the same relationships in the same order. The names keep their order, but for a plain diagram,
whose text lists no entities. -/
theorem roundTrip (hne : d.entities ≠ []) (hd : d.WellFormed)
    (hlabels : ∀ r ∈ d.relationships, ∀ l, r.label = some l →
      l ≠ "" ∧ squeeze l.toList = l.toList ∧ ¬ Line.IsQuoted l.toList)
    (hnames : ∀ e ∈ d.entities, (e.attributes.map (·.name)).Nodup)
    (htypes : ∀ e ∈ d.entities, ∀ a ∈ e.attributes, a.flags = [] → IsWord a.dataType.toList)
    (hback : d.outline.isComposedBack compose = true) :
    ∃ text d', d.serialize? = some text ∧ parseBy compose text = .ok d' ∧
      d'.title = some (Outline.titleOf d.title) ∧
      (∀ n, n ∈ d'.entityNames ↔ n ∈ d.entityNames) ∧
      (d.outline.isPlain = false → d'.entityNames = d.entityNames) ∧
      (d.outline.isPlain = true →
        d'.entityNames = (d.relationships.flatMap fun r => [r.source, r.target]).eraseDups) ∧
      (∀ n, d'.content n = d.content n) ∧
      d'.relationships.map (·.key) = d.relationships.map (·.key) := by
  have hreads : ∀ e ∈ d.entities, e.ReadsAs (unplaced e) := by
    intro e he
    refine ⟨e.attributes, ?_, rfl⟩
    rw [Attribute.written_of_nodup (hnames e he)]
    refine List.forall₂_same.2 fun a ha => ?_
    by_cases hf : a.flags = []
    · exact Attribute.readsAs_of_isWord hf (htypes e he a ha hf)
    · exact Attribute.readsAs_of_flags hf
  -- so the entities come back as themselves
  have hes := List.forall₂_map_right_iff.2 (List.forall₂_same.2 hreads)
  have hlabel : d.relationships.map (·.keyBack) = d.relationships.map (·.key) := by
    refine List.map_congr_left fun r hr => ?_
    cases hl : r.label with
    | none =>
      rw [Relationship.keyBack, Relationship.key, hl]
      rfl
    | some label =>
      obtain ⟨hne, hs, hq⟩ := hlabels r hr label hl
      rw [Relationship.keyBack, Relationship.key, hl, Line.labelBack_eq_self hne hs hq]
  obtain ⟨d', hparse, htitle, hentities, hkeys⟩ := exists_parseBy_text hd hes hback
  obtain ⟨hset, hkept, hfirst⟩ := entityNames_of_entities hd hes hentities
  have hcontent : ∀ n, d'.content n = d.content n := by
    by_cases hplain : d.outline.isPlain = true
    · exact content_of_isPlain hd hplain (hentities.trans (if_pos hplain))
    · exact content_map_unplaced (hentities.trans (if_neg hplain))
  exact ⟨_, d', if_neg (by simpa using hne), hparse, htitle, hset, hkept, hfirst, hcontent,
    hkeys.trans hlabel⟩

/-- A weak entity with an attribute, and a relationship with a label. -/
def sample : Diagram where
  entities := [{ name := "B" }, { name := "A", attributes := [{ name := "of" }], weak := true }]
  relationships := [{ source := "A", target := "B", cardinality := ⟨.one, .zeroOrMany⟩,
                      label := some "in" }]

theorem roundTrip_sample :
    ∃ text d', sample.serialize? = some text ∧ parseBy Node.ofText? text = .ok d' ∧
      d'.entityNames = ["B", "A"] ∧ (∀ n, d'.content n = sample.content n) ∧
      d'.relationships.map (·.key) = sample.relationships.map (·.key) := by
  have hd : sample.WellFormed := by
    refine ⟨by decide, fun r hr => ?_⟩
    rw [List.mem_singleton.1 hr]
    exact ⟨⟨by decide, by decide⟩, by decide, by decide⟩
  have hlabels : ∀ r ∈ sample.relationships, ∀ l, r.label = some l →
      l ≠ "" ∧ squeeze l.toList = l.toList ∧ ¬ Line.IsQuoted l.toList := by
    intro r hr l hl
    rw [List.mem_singleton.1 hr] at hl
    cases hl
    exact ⟨by decide, by decide, Line.unquote_eq_self_iff.1 (by decide)⟩
  have hback : sample.outline.isComposedBack Node.ofText? = true := by decide +kernel
  obtain ⟨text, d', htext, hparse, _, _, hnames, _, hcontent, hkeys⟩ :=
    roundTrip (List.cons_ne_nil _ _) hd hlabels (by decide) (by decide) hback
  exact ⟨text, d', htext, hparse, hnames (by decide +kernel), hcontent, hkeys⟩

/-- **A diagram that was read is written so that it is read again**: with the same names, in
the same order unless the relationships alone say everything, and with the same relationships but
for how their labels are spelled. -/
theorem roundTrip_of_parseBy {text : String} (h : parseBy compose text = .ok d)
    (hne : d.entities ≠ [])
    (hattributes : ∀ e ∈ d.entities, ∀ a ∈ Attribute.written e.attributes, a.IsReadable)
    (hback : d.outline.isComposedBack compose = true) :
    ∃ text' d', d.serialize? = some text' ∧ parseBy compose text' = .ok d' ∧
      (∀ n, n ∈ d'.entityNames ↔ n ∈ d.entityNames) ∧
      (d.outline.isPlain = false → d'.entityNames = d.entityNames) ∧
      (d.outline.isPlain = true →
        d'.entityNames = (d.relationships.flatMap fun r => [r.source, r.target]).eraseDups) ∧
      d'.relationships.map (·.key)
        = d.relationships.map fun r =>
            (r.source, r.target, r.cardinality, Line.labelBack r.label) := by
  have hd := wellFormed_of_parseBy h
  -- the entities may come back as others, since the type of an attribute may hold its flags
  obtain ⟨es, hes⟩ := Entity.exists_readsAs hattributes
  obtain ⟨d', hparse, _, hentities, hkeys⟩ := exists_parseBy_text hd hes hback
  obtain ⟨hset, hkept, hfirst⟩ := entityNames_of_entities hd hes hentities
  exact ⟨_, d', if_neg (by simpa using hne), hparse, hset, hkept, hfirst, hkeys⟩

/-- A text that mentions an entity before the relationships, and spells a label with two
spaces. -/
theorem roundTrip_of_parseBy_sample :
    ∃ d text' d', parseBy Node.ofText? "B\nA ||--|| B : x  y" = .ok d ∧
      d.entityNames = ["B", "A"] ∧ d.serialize? = some text' ∧
      parseBy Node.ofText? text' = .ok d' ∧ d'.entityNames = ["A", "B"] ∧
      d'.relationships.map (·.key) = [("A", "B", ⟨.one, .one⟩, some "x y")] := by
  have hread : (parseBy Node.ofText? "B\nA ||--|| B : x  y").map (fun d => decide
      (d.entityNames = ["B", "A"] ∧ d.outline.isPlain = true ∧
        d.outline.isComposedBack Node.ofText? = true ∧
        Document.relatedNames d.relationships = ["A", "B"] ∧
        d.relationships.map (·.keyBack) = [("A", "B", ⟨.one, .one⟩, some "x y")] ∧
        d.entities.flatMap (Attribute.written ·.attributes) = [])) = .ok true := by
    decide +kernel
  obtain ⟨d, hd, hfacts⟩ := Except.map_eq_ok.1 hread
  obtain ⟨hnames, hplain, hback, hrelated, hkeys, hnone⟩ := of_decide_eq_true hfacts
  have hne : d.entities ≠ [] := fun he => by
    rw [entityNames, he] at hnames
    cases hnames
  have hattributes : ∀ e ∈ d.entities, ∀ a ∈ Attribute.written e.attributes, a.IsReadable := by
    intro e he a ha
    rw [List.flatMap_eq_nil_iff.1 hnone e he] at ha
    cases ha
  obtain ⟨text', d', htext, hparse, _, _, hfirst, hback⟩ :=
    roundTrip_of_parseBy hd hne hattributes hback
  exact ⟨d, text', d', hd, hnames, htext, hparse, (hfirst hplain).trans hrelated,
    hback.trans hkeys⟩

/-- Whether a diagram is read back with the same names and relationships in the same order. It is
a test that can be run, by writing and reading. -/
def isKept (d : Diagram) : Bool :=
  match d.serialize?.map parse with
  | some (.ok d') =>
    d'.entityNames == d.entityNames &&
      d'.relationships.map (·.key) == d.relationships.map (·.key)
  | _ => false

/-- **Not every diagram that was read is read back as it was.** A plain one loses the order of
its entities, a label the spaces between its words or its quotes, and an attribute whose type
has two words cannot be read again. -/
theorem not_isKept_of_parse :
    (parse "B\nA ||--o\x7b B").map (fun d => (d.entityNames, d.isKept))
      = .ok (["B", "A"], false) ∧
    (parse "A ||--|| B : x  y").map (fun d => (d.entityNames, d.isKept))
      = .ok (["A", "B"], false) ∧
    (parse "A\nB ||--|| C : \"'x'\"").map (fun d => (d.entityNames, d.isKept))
      = .ok (["A", "B", "C"], false) ∧
    (parse "entities:\n  A:\n    id:\n      type: int unsigned\n").map
      (fun d => (d.entityNames, d.isKept)) = .ok (["A"], false) := by
  refine ⟨?_, ?_, ?_, ?_⟩ <;> decide +kernel

end Diagram

end ErDiagram
