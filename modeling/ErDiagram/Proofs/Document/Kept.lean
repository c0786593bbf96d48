import ErDiagram.Proofs.Document.SectionOrder
import ErDiagram.Proofs.Line.Recognition

/-!
# What is kept of a document

A document that is read has been read in full, and this module keeps the books: for each reader,
the names and the relationships that a diagram gains from it are counted from the nodes alone. A
list or a mapping of entities gives its names, and a node of relationships gives one relationship
for each of its lines that is one, however many other lines, blocks and bare names stand between
them.

The books of the readers are summed up along a document. At its top every section counts, also one
with a key that was there before. Under the header a section is looked up by its key, so that of
several sections with one key only the last one counts, and what the others declare is lost
without an error.

A gain is a relation between two diagrams (`Diagram.Gains`), with the names and the relationships
that the second has more. It composes, so that each reader has one lemma and a reader that chains
others has theirs in a row. Names are compared as sets, because a name that is there already is
not added, and relationships as lists, because each is. Gains are counted in two ways, from what
was read, by items, and from what was written, by nodes, and the two are brought together line by
line.
-/

namespace ErDiagram

/-! ## What a diagram gains

Readers only add to a diagram. What they add is told by two lists, and readers that follow each
other add their lists up. -/

/-- **What a diagram gains on the way to another one**: entities, in any order, and relationships
behind those that it had. The names may have been there before, so that a reader gains the same
whatever it is given to start with. -/
structure Diagram.Gains (d : Diagram) (names : List String) (added : List Relationship)
    (d' : Diagram) : Prop where
  /-- The entities are those from before and the new names. -/
  mem_entityNames : ∀ name, name ∈ d'.entityNames ↔ name ∈ d.entityNames ∨ name ∈ names
  /-- The relationships come in order. -/
  relationships : d'.relationships = d.relationships ++ added

namespace Diagram.Gains

variable {d d₁ d₂ : Diagram} {names names' : List String} {added added' : List Relationship}

theorem refl (d : Diagram) : d.Gains [] [] d :=
  ⟨fun _ => (or_iff_left List.not_mem_nil).symm, (List.append_nil _).symm⟩

theorem trans (h : d.Gains names added d₁) (h' : d₁.Gains names' added' d₂) :
    d.Gains (names ++ names') (added ++ added') d₂ := by
  refine ⟨fun name => ?_, ?_⟩
  · rw [h'.mem_entityNames, h.mem_entityNames, List.mem_append, or_assoc]
  · rw [h'.relationships, h.relationships, List.append_assoc]

theorem declare (d : Diagram) (name : String) : d.Gains [name] [] (d.declare name) := by
  refine ⟨fun n => ?_, ?_⟩
  · rw [mem_entityNames_declare, List.mem_singleton]
  · rw [relationships_declare, List.append_nil]

theorem addRelationship (d : Diagram) (r : Relationship) :
    d.Gains [r.source, r.target] [r] (d.addRelationship r) := by
  refine ⟨((declare d r.source).trans (declare _ r.target)).mem_entityNames, ?_⟩
  rw [relationships_addRelationship]

/-- A title is no gain here. -/
theorem withTitle (d : Diagram) (title : Option String) : d.Gains [] [] { d with title } :=
  ⟨(refl d).mem_entityNames, (List.append_nil _).symm⟩

/-- Neither is an attribute of an entity that is there. -/
theorem addAttribute {entity : String} (h : entity ∈ d.entityNames) (a : Attribute) :
    d.Gains [] [] (d.addAttribute entity a) := by
  refine ⟨fun n => ?_, ?_⟩
  · rw [entityNames_addAttribute, declare_of_mem h, or_iff_left List.not_mem_nil]
  · rw [relationships_addAttribute, List.append_nil]

/-- What was there is still there. -/
theorem mem_of_mem (h : d.Gains names added d₁) {name : String} (hname : name ∈ d.entityNames) :
    name ∈ d₁.entityNames := (h.mem_entityNames name).2 (.inl hname)

end Diagram.Gains

/-! ## Lines -/

namespace Line

/-- The relationship that a line with the given number says. -/
def relationshipAt? (line : Nat) : Line → Option Relationship
  | .relationship source cardinality target label =>
    some { source, target, cardinality, label, line := some (Int.ofNat line) }
  | _ => none

end Line

/-- The relationship of a line that is one. It is asked outside of blocks, which makes no
difference for relationships. -/
def NumberedLine.relationship? (l : NumberedLine) : Option Relationship :=
  match l.classify false with
  | .ok said => said.relationshipAt? l.line
  | .error _ => none

namespace Line

variable {d : Diagram} {items : List Item} {ls : List NumberedLine}

/-- **Whether a line is a relationship does not depend on the block around it.** So it can be told
from the line alone which relationships a text has. -/
theorem classify_relationship_congr {inBlock : Bool} (inBlock' : Bool) {text s t : String}
    {c : Cardinality} {label : Option String}
    (h : classify inBlock text = .ok (.relationship s c t label)) :
    classify inBlock' text = .ok (.relationship s c t label) := by
  unfold classify at h ⊢
  dsimp only at h ⊢
  split at h
  · cases h
  · rw [ofTokens_eq_relationship_iff] at h ⊢
    exact h

theorem relationship?_of_classify {l : NumberedLine} {inBlock : Bool} {said : Line}
    (h : l.classify inBlock = .ok said) : l.relationship? = said.relationshipAt? l.line := by
  have hcongr : ∀ (b b' : Bool) {s c t label},
      l.classify b = .ok (.relationship s c t label) →
        l.classify b' = .ok (.relationship s c t label) := by
    intro b b' s c t label hl
    rw [NumberedLine.classify_eq_ok] at hl ⊢
    exact classify_relationship_congr b' hl
  unfold NumberedLine.relationship?
  cases hout : l.classify false with
  | error e =>
    cases said with
    | relationship => cases hout.symm.trans (hcongr inBlock false h)
    | _ => rfl
  | ok outside =>
    cases said with
    | relationship =>
      cases hout.symm.trans (hcongr inBlock false h)
      rfl
    | _ =>
      cases outside with
      | relationship => cases h.symm.trans (hcongr false inBlock hout)
      | _ => rfl

theorem Rows.filterMap_relationship? {rows : List NumberedLine} {attributes : List Attribute}
    (h : Rows rows attributes) : rows.filterMap NumberedLine.relationship? = [] := by
  induction h with
  | nil => rfl
  | blank hl _ ih | «attribute» hl _ ih =>
    rw [List.filterMap_cons_none (relationship?_of_classify hl), ih]

/-- The lines of an item have the relationship that the item says. -/
theorem Item.Spells.filterMap_relationship? {item : Item} {ls : List NumberedLine}
    (h : item.Spells ls) : ls.filterMap NumberedLine.relationship? = item.relationship?.toList := by
  cases h with
  | silent hl | headerName hl | headerKey hl | title hl | mention hl | relationship hl =>
    rw [filterMap_singleton, relationship?_of_classify hl]
    rfl
  | block hl _ hrows hclose =>
    rw [List.filterMap_cons_none (relationship?_of_classify hl), List.filterMap_append,
      hrows.filterMap_relationship?, filterMap_singleton, relationship?_of_classify hclose]
    rfl

/-- **The relationships of some items are those of their lines.** -/
theorem Script.filterMap_relationship? (h : Script items ls) :
    items.filterMap Item.relationship? = ls.filterMap NumberedLine.relationship? := by
  induction h with
  | nil => rfl
  | cons hi _ ih =>
    rw [List.filterMap_append, hi.filterMap_relationship?, ← ih, ← filterMap_singleton,
      ← List.filterMap_append, List.singleton_append]

theorem gains_addTo (d : Diagram) (item : Item) :
    d.Gains item.mentions item.relationship?.toList (item.addTo d) := by
  cases item with
  | silent | header => exact .refl _
  | title value => exact .withTitle d value
  | mention name => exact .declare d name
  | relationship r => exact .addRelationship d r
  | block name attributes =>
    have hadd : ∀ (l : List Attribute) (d : Diagram), name ∈ d.entityNames →
        d.Gains [] [] (l.foldl (·.addAttribute name ·) d) := by
      intro l
      induction l with
      | nil => exact fun d _ => .refl d
      | cons a l ih =>
        intro d hname
        have hone := Diagram.Gains.addAttribute hname a
        exact hone.trans (ih _ (hone.mem_of_mem hname))
    have hdeclare := Diagram.Gains.declare d name
    exact hdeclare.trans
      (hadd attributes _ ((hdeclare.mem_entityNames name).2 (.inr (List.mem_singleton_self name))))

/-- **What a diagram gains from some items.** -/
theorem gains_foldl_addTo (d : Diagram) (items : List Item) :
    d.Gains (items.flatMap Item.mentions) (items.filterMap Item.relationship?)
      (items.foldl Item.addTo d) := by
  induction items generalizing d with
  | nil => exact .refl _
  | cons item items ih =>
    rw [List.flatMap_cons, ← List.singleton_append, List.filterMap_append, filterMap_singleton]
    exact (gains_addTo d item).trans (ih _)

end Line

namespace Document

open Yaml

variable {source : Source} {d d' : Diagram} {n : Node} {pairs : List (Node × Node)}

/-! ## Nodes of relationships

What is written under a node is defined by its lines, without the reader and without the diagram
that is read into. The reader is shown to add just this, if it can read the node at all. -/

/-- **The relationships that are written under a node**: those of its lines that say one, in the
order of the lines. It is read off the node, without reading it into a diagram. -/
def writtenRelationships (source : Source) (n : Node) : List Relationship :=
  (items source n).filterMap fun x => x.toOption.bind NumberedLine.relationship?

/-- The names that a node of relationships declares on its own, read into an empty diagram. Where
it cannot be read it declares nothing, and nothing is said of it. -/
def declaredNames (source : Source) (n : Node) : List String :=
  match addRelationships source {} n with
  | .ok d => d.entityNames
  | .error _ => []

/-- **Both kinds of nodes are read as plain lines**, whatever diagram they are read into. What
holds of plain lines therefore holds of lists and of blocks in a document. -/
theorem exists_script_of_addRelationships (h : addRelationships source d n = .ok d') :
    ∃ ls said, items source n = ls.map .ok ∧ Line.Script said ls ∧
      ∀ d, addRelationships source d n = .ok (said.foldl Line.Item.addTo d) := by
  unfold addRelationships at h ⊢
  by_cases hn : n.isScalar = true
  · rw [if_pos hn] at h
    obtain ⟨said, hs, -⟩ :=
      Line.State.continues_of_readAll (s := ⟨none, d⟩) (Except.mapError_eq_ok.1 h)
    refine ⟨scalarLines source.lines n, said, ?_, hs, fun d => ?_⟩
    · cases n with
      | scalar => rfl
      | _ => cases hn
    · rw [if_pos hn]
      exact Except.mapError_eq_ok.2 (hs.readAll d)
  · rw [if_neg hn] at h
    obtain ⟨ls, hls⟩ := exists_of_addItems h
    rw [hls, addItems_eq_ok_iff] at h
    obtain ⟨said, hs, -⟩ :=
      Line.State.continues_of_readAll (s := ⟨none, d⟩) (readLines_of_isListable h.1 d)
    refine ⟨ls, said, hls, hs, fun d => ?_⟩
    rw [if_neg hn, hls, addItems_eq_ok_iff]
    exact ⟨h.1, Except.ok.inj ((hs.readAll d).symm.trans (readLines_of_isListable h.1 d))⟩

/-- **A node of relationships adds the relationships that are written under it.** -/
theorem gains_addRelationships (h : addRelationships source d n = .ok d') :
    d.Gains (declaredNames source n) (writtenRelationships source n) d' := by
  obtain ⟨ls, said, hls, hs, hread⟩ := exists_script_of_addRelationships h
  have hnames : ∀ name, name ∈ declaredNames source n ↔ name ∈ said.flatMap Line.Item.mentions := by
    intro name
    rw [declaredNames, hread {}, (Line.gains_foldl_addTo {} said).mem_entityNames]
    exact or_iff_right List.not_mem_nil
  have hwritten : writtenRelationships source n = said.filterMap Line.Item.relationship? := by
    rw [writtenRelationships, hls, List.filterMap_map, hs.filterMap_relationship?]
    rfl
  cases h.symm.trans (hread d)
  refine ⟨fun name => ?_, ?_⟩
  · rw [hnames, (Line.gains_foldl_addTo d said).mem_entityNames]
  · rw [hwritten, (Line.gains_foldl_addTo d said).relationships]

/-! ## Nodes of entities -/

/-- **The names that are written under a node of entities.** -/
def writtenNames : Node → List String
  | .sequence _ nodes _ => nodes.filterMap Node.text?
  | .mapping _ pairs _ => pairs.filterMap (·.1.text?)
  | _ => []

section

variable {entity : String} (hmem : entity ∈ d.entityNames)

include hmem

theorem gains_addAttributePairs (h : addAttributePairs entity d pairs = .ok d') :
    d.Gains [] [] d' := by
  induction pairs generalizing d with
  | nil =>
    cases h
    exact .refl _
  | cons p pairs ih =>
    unfold addAttributePairs at h
    split at h
    · cases h
    split at h
    · cases h
    · next a _ =>
      have hone := Diagram.Gains.addAttribute hmem a
      exact hone.trans (ih (hone.mem_of_mem hmem) h)

theorem gains_addAttributeItems {nodes : List Node}
    (h : addAttributeItems entity d nodes = .ok d') : d.Gains [] [] d' := by
  induction nodes generalizing d with
  | nil =>
    cases h
    exact .refl _
  | cons item nodes ih =>
    unfold addAttributeItems at h
    split at h
    · cases h
    · next a _ =>
      have hone := Diagram.Gains.addAttribute hmem a
      exact hone.trans (ih (hone.mem_of_mem hmem) h)

theorem gains_addAttributes (h : addAttributes entity d n = .ok d') : d.Gains [] [] d' := by
  unfold addAttributes at h
  split at h
  · exact gains_addAttributePairs hmem h
  · exact gains_addAttributeItems hmem h
  split at h
  · cases h
  · cases h
    exact .refl _

theorem gains_addOptions (h : addOptions entity d pairs = .ok d') : d.Gains [] [] d' := by
  have hweak : ∀ weak, (d.modifyEntity entity ({ · with weak })).entityNames = d.entityNames :=
    fun _ => d.entityNames_modifyEntity entity fun _ => rfl
  have hgains : ∀ weak, d.Gains [] [] (d.modifyEntity entity ({ · with weak })) := fun weak =>
    ⟨fun name => by rw [hweak, or_iff_left List.not_mem_nil], (List.append_nil _).symm⟩
  unfold addOptions at h
  split at h
  · cases h
  · exact gains_addAttributePairs hmem h
  · exact gains_addAttributes hmem h
  · cases h
    exact hgains _
  · exact (hgains _).trans (gains_addAttributes (by rw [hweak]; exact hmem) h)

end

/-- Nothing that is said of an entity declares another one. -/
theorem gains_addEntity {key value : Node} (h : addEntity d key value = .ok d') :
    d.Gains key.text?.toList [] d' := by
  unfold addEntity at h
  split at h
  · cases h
  · next name hname =>
    have hdeclare := Diagram.Gains.declare d name
    have hmem : name ∈ (d.declare name).entityNames :=
      (hdeclare.mem_entityNames name).2 (.inr (List.mem_singleton_self name))
    rw [hname]
    dsimp only at h
    split at h
    · exact hdeclare.trans (gains_addOptions hmem h)
    · exact hdeclare.trans (gains_addAttributeItems hmem h)
    · cases h
      exact hdeclare

/-- **A node of entities adds the names that are written under it.** -/
theorem gains_addEntities (h : addEntities d n = .ok d') : d.Gains (writtenNames n) [] d' := by
  have hpairs : ∀ {pairs d}, addEntityPairs d pairs = .ok d' →
      d.Gains (pairs.filterMap (·.1.text?)) [] d' := by
    intro pairs
    induction pairs with
    | nil =>
      intro d h
      cases h
      exact .refl _
    | cons p pairs ih =>
      intro d h
      unfold addEntityPairs at h
      split at h
      · cases h
      · next hp =>
        rw [← List.singleton_append, List.filterMap_append, Line.filterMap_singleton]
        exact (gains_addEntity hp).trans (ih h)
  have hnames : ∀ {nodes d}, addEntityNames d nodes = .ok d' →
      d.Gains (nodes.filterMap Node.text?) [] d' := by
    intro nodes
    induction nodes with
    | nil =>
      intro d h
      cases h
      exact .refl _
    | cons item nodes ih =>
      intro d h
      unfold addEntityNames at h
      split at h
      · cases h
      · next name hname =>
        rw [List.filterMap_cons_some hname]
        exact (Diagram.Gains.declare d name).trans (ih h)
  unfold addEntities at h
  split at h
  · exact hnames h
  · exact hpairs h
  · cases h

/-! ## Sections under the header

Here is where something can be lost. Sections are looked up by their keys, and of several with one
key the last one is found. -/

/-- **The last section with a key.** Keys are compared in lower case, as they are looked up. -/
def lastSection? (pairs : List Section) (key : String) : Option Node :=
  ((pairs.filter fun p => keyText p.1 = key).getLast?).map (·.2)

/-- Of sections with different keys each is the last with its own. -/
theorem lastSection?_of_nodup {p : Section} (h : (pairs.map fun p => keyText p.1).Nodup)
    (hp : p ∈ pairs) : lastSection? pairs (keyText p.1) = some p.2 := by
  have hmem : p ∈ pairs.filter fun q => keyText q.1 = keyText p.1 :=
    List.mem_filter.2 ⟨hp, decide_eq_true rfl⟩
  have hone := length_filter_le_one h (keyText p.1)
  unfold lastSection?
  generalize pairs.filter (fun q => keyText q.1 = keyText p.1) = l at hmem hone
  match l, hmem, hone with
  | [q], hmem, _ =>
    rw [List.mem_singleton.1 hmem]
    rfl

/-- The names that sections under the header declare. -/
def structuredNames (source : Source) (pairs : List Section) : List String :=
  (lastSection? pairs "entities").elim [] writtenNames
    ++ (lastSection? pairs "relationships").elim [] (declaredNames source)

/-- The relationships that sections under the header add. -/
def structuredRelationships (source : Source) (pairs : List Section) :
    List Relationship :=
  (lastSection? pairs "relationships").elim [] (writtenRelationships source)

theorem gains_setTitle (m : OrderedMap String Section) (d : Diagram) (key : String) :
    d.Gains [] [] (setTitle m d key) := by
  unfold setTitle
  split
  · exact .withTitle d _
  · exact .refl d

/-- A section that is there adds what its reader does. -/
theorem gains_addSection {m : OrderedMap String Section} {key : String}
    {add : Diagram → Node → Except ReadingError Diagram} {names : Node → List String}
    {added : Node → List Relationship}
    (hadd : ∀ {n d₁}, add d n = .ok d₁ → d.Gains (names n) (added n) d₁)
    (h : addSection m key add d = .ok d') :
    d.Gains ((sectionValue? m key).elim [] names) ((sectionValue? m key).elim [] added) d' := by
  unfold addSection at h
  cases hvalue : sectionValue? m key with
  | none =>
    rw [hvalue] at h
    cases h
    exact .refl d
  | some n =>
    rw [hvalue] at h
    exact hadd h

/-- **Under the header the last sections count, and no others.** A section is looked up by its
key, and the lookup finds one. -/
theorem gains_addStructured (h : addStructured source d pairs = .ok d') :
    d.Gains (structuredNames source pairs) (structuredRelationships source pairs) d' := by
  have htitle := (gains_setTitle (sections pairs) d "title").trans
    (gains_setTitle (sections pairs) _ "titulo")
  unfold structuredNames structuredRelationships lastSection?
  rw [← sectionValue?_eq, ← sectionValue?_eq]
  unfold addStructured at h
  obtain ⟨d₁, hentities, h⟩ := Except.bind_eq_ok.1 h
  obtain ⟨d₂, hrelationships, h⟩ := Except.bind_eq_ok.1 h
  have hd : d₂ = d' := by
    split at h
    · exact Except.ok.inj h
    · cases h
  have hnone : ∀ o : Option Node, o.elim [] (fun _ => ([] : List Relationship)) = [] := by
    rintro (_ | _) <;> rfl
  have hsecond := gains_addSection gains_addEntities hentities
  have hthird := gains_addSection gains_addRelationships hrelationships
  rw [hnone] at hsecond
  rw [← hd]
  exact (htitle.trans hsecond).trans hthird

/-! ## Pairs at the top of a document -/

/-- The names that a pair at the top of a document declares. -/
def pairNames (source : Source) (p : Section) : List String :=
  match Role.ofKey p.1, p.2 with
  | .header, .mapping _ inner _ => structuredNames source inner
  | .header, n => declaredNames source n
  | .entities, n => writtenNames n
  | .relationships, n => declaredNames source n
  | _, _ => []

/-- The relationships that a pair at the top of a document adds; relationship lines come later. -/
def pairRelationships (source : Source) (p : Section) : List Relationship :=
  match Role.ofKey p.1, p.2 with
  | .header, .mapping _ inner _ => structuredRelationships source inner
  | .header, n => writtenRelationships source n
  | .relationships, n => writtenRelationships source n
  | _, _ => []

theorem gains_addPair {p : Section} (h : addPair source d p.1 p.2 = .ok d') :
    d.Gains (pairNames source p) (pairRelationships source p) d' := by
  unfold addPair at h
  unfold pairNames pairRelationships
  cases hrole : Role.ofKey p.1 with
  | title =>
    rw [hrole] at h
    cases h
    exact .withTitle d _
  | header =>
    rw [hrole] at h
    cases hp : p.2 with
    | mapping tag inner line =>
      rw [hp] at h
      exact gains_addStructured h
    | _ =>
      rw [hp] at h
      exact gains_addRelationships h
  | entities =>
    rw [hrole] at h
    exact gains_addEntities h
  | relationships =>
    rw [hrole] at h
    exact gains_addRelationships h
  | line =>
    rw [hrole] at h
    cases h
    exact .refl d

/-- **At the top of a document every pair counts**, whatever keys there were before. They are gone
through one by one, and no pair undoes what an earlier one has added. -/
theorem gains_addPairs (h : addPairs source d pairs = .ok d') :
    d.Gains (pairs.flatMap (pairNames source)) (pairs.flatMap (pairRelationships source)) d' := by
  induction pairs generalizing d with
  | nil =>
    cases h
    exact .refl _
  | cons p pairs ih =>
    rw [addPairs_cons_eq_bind] at h
    obtain ⟨d₁, hp, h⟩ := Except.bind_eq_ok.1 h
    exact (gains_addPair hp).trans (ih h)

/-- The relationship of a pair that is a line, cut in two by its colon. -/
def lineRelationship? (p : Section) : Option Relationship :=
  NumberedLine.relationship? ⟨pairText (p.1.text?.getD "") p.2.text?, p.1.line⟩

theorem gains_addLines {recognized : Bool} (h : addLines recognized d pairs = .ok d') :
    d.Gains ((pairs.filterMap lineRelationship?).flatMap fun r => [r.source, r.target])
      (pairs.filterMap lineRelationship?) d' := by
  induction pairs generalizing d recognized with
  | nil =>
    unfold addLines at h
    split at h
    · cases h
      exact .refl _
    · cases h
  | cons p pairs ih =>
    unfold addLines at h
    split at h
    · cases h
    · next hp =>
      unfold addLine at hp
      dsimp only at hp
      split at hp
      · cases hp
      split at hp
      · cases hp
      · next hline =>
        cases hp
        have hsome : lineRelationship? p = _ := Line.relationship?_of_classify hline
        rw [List.filterMap_cons_some hsome]
        exact (Diagram.Gains.addRelationship d _).trans (ih h)
      · split at hp <;> cases hp

/-- **The books of a document.** It has the entities and the relationships that its pairs declare,
entities first, and those of its relationship lines, and no others. -/
theorem gains_ofPairs (h : ofPairs source pairs = .ok d) :
    let lines := ((entitiesFirst pairs).filter fun p => Role.ofKey p.1 == .line).filterMap
      lineRelationship?
    Diagram.Gains {}
      ((entitiesFirst pairs).flatMap (pairNames source)
        ++ lines.flatMap fun r => [r.source, r.target])
      ((entitiesFirst pairs).flatMap (pairRelationships source) ++ lines) d := by
  obtain ⟨d₁, hpairs, hlines⟩ := Except.bind_eq_ok.1 h
  exact (gains_addPairs hpairs).trans (gains_addLines hlines)

theorem mem_of_mem_pairNames {p : Section} {name : String} (h : ofPairs source pairs = .ok d)
    (hp : p ∈ pairs) (hname : name ∈ pairNames source p) : name ∈ d.entityNames := by
  have hmem : p ∈ entitiesFirst pairs := (List.filter_append_perm isEntities pairs).mem_iff.2 hp
  exact ((gains_ofPairs h).mem_entityNames name).2
    (.inr (List.mem_append_left _ (List.mem_flatMap.2 ⟨p, hmem, hname⟩)))

theorem mem_of_mem_pairRelationships {p : Section} {r : Relationship}
    (h : ofPairs source pairs = .ok d) (hp : p ∈ pairs)
    (hr : r ∈ pairRelationships source p) : r ∈ d.relationships := by
  have hmem : p ∈ entitiesFirst pairs := (List.filter_append_perm isEntities pairs).mem_iff.2 hp
  rw [(gains_ofPairs h).relationships]
  exact List.mem_append_right _ (List.mem_append_left _ (List.mem_flatMap.2 ⟨p, hmem, hr⟩))

theorem ofKey_of_keyText_header {k : Node} (h : keyText k = "erdiagram") :
    Role.ofKey k = .header := by
  unfold Role.ofKey
  rw [h]
  decide

/-- **What a document declares is kept, but for repeated sections under the header.** At its top
all sections for entities and all for relationships are kept, also repeated ones. Under the header
the last section for entities and the last one for relationships are kept, and the diagram gains
nothing else. So nothing is lost there as long as the keys differ.

The second part is an equation for what is gained and not only a lower bound, so that it also says
what is lost: everything in a section that is not the last with its key. -/
theorem kept_sections (source : Source) :
    (∀ pairs d, ofPairs source pairs = .ok d → ∀ p ∈ pairs,
      (keyText p.1 = "entities" → writtenNames p.2 ⊆ d.entityNames) ∧
      (keyText p.1 = "relationships" → writtenRelationships source p.2 ⊆ d.relationships) ∧
      ∀ tag inner line, keyText p.1 = "erdiagram" → p.2 = .mapping tag inner line →
        (∀ n, lastSection? inner "entities" = some n → writtenNames n ⊆ d.entityNames) ∧
        ∀ n, lastSection? inner "relationships" = some n →
          writtenRelationships source n ⊆ d.relationships) ∧
    (∀ d inner d', addStructured source d inner = .ok d' →
      d.Gains (structuredNames source inner) (structuredRelationships source inner) d') ∧
    ∀ inner : List Section, (inner.map fun q => keyText q.1).Nodup →
      ∀ q ∈ inner, lastSection? inner (keyText q.1) = some q.2 := by
  refine ⟨fun pairs d h p hp => ⟨fun hkey name hname => ?_, fun hkey r hr => ?_,
      fun tag inner line hkey hinner => ⟨fun n hn name hname => ?_, fun n hn r hr => ?_⟩⟩,
    fun _ _ _ => gains_addStructured, fun _ hkeys _ => lastSection?_of_nodup hkeys⟩
  · refine mem_of_mem_pairNames h hp ?_
    unfold pairNames
    rw [ofKey_of_isEntities (beq_iff_eq.2 hkey)]
    exact hname
  · refine mem_of_mem_pairRelationships h hp ?_
    unfold pairRelationships
    rw [ofKey_eq_relationships_iff.2 hkey]
    exact hr
  · refine mem_of_mem_pairNames h hp ?_
    unfold pairNames
    rw [ofKey_of_keyText_header hkey, hinner]
    refine List.mem_append_left _ ?_
    rw [hn]
    exact hname
  · refine mem_of_mem_pairRelationships h hp ?_
    unfold pairRelationships
    rw [ofKey_of_keyText_header hkey, hinner]
    show r ∈ structuredRelationships source inner
    rw [structuredRelationships, hn]
    exact hr

/-- Sections that all have a key that is there before, or again. -/
def repeatedSections : List Section :=
  let key : String → Node := fun s => .scalar Tag.str .plain s 0
  let list : String → Node := fun s => .sequence Tag.seq [key s] 0
  [(key "entities", list "A"), (key "Entities", list "B"),
    (key "relationships", list "A ||--|| C"), (key "RELATIONSHIPS", list "B ||--|| D")]

/-- At the top of a document all of them are kept, and under the header the second and the last. -/
theorem kept_sections_repeated :
    let header : Section :=
      (.scalar Tag.str .plain "erDiagram" 0, .mapping Tag.map repeatedSections 0)
    ∃ d, ofPairs {} (header :: repeatedSections) = .ok d ∧
      (∀ p ∈ repeatedSections, keyText p.1 = "entities" → writtenNames p.2 ⊆ d.entityNames) ∧
      (∀ p ∈ repeatedSections, keyText p.1 = "relationships" →
        writtenRelationships {} p.2 ⊆ d.relationships) ∧
      ∀ n, lastSection? repeatedSections "entities" = some n → writtenNames n ⊆ d.entityNames := by
  intro header
  have hok : (ofPairs {} (header :: repeatedSections)).isOk = true := by decide +kernel
  obtain ⟨d, hd⟩ := Except.exists_eq_ok_of_isOk hok
  have hkept := (kept_sections {}).1 (header :: repeatedSections) d hd
  exact ⟨d, hd, fun p hp => (hkept p (.tail header hp)).1,
    fun p hp => (hkept p (.tail header hp)).2.1,
    ((hkept header (.head _)).2.2 Tag.map repeatedSections 0 (by decide) rfl).1⟩

/-- **Repeated sections under the header are lost**, entities and relationships alike, and nothing
is said of it; at the top of a document the same sections are kept. -/
theorem not_kept_repeated :
    let declared : Diagram → List String × List String :=
      fun d => (d.entityNames, d.relationships.map (·.source))
    (addStructured {} {} repeatedSections).map declared = .ok (["B", "D"], ["B"]) ∧
    (ofPairs {} repeatedSections).map declared = .ok (["A", "B", "C", "D"], ["A", "B"]) ∧
    (Diagram.parse "erDiagram:\n  entities:\n  - A\n  entities:\n  - B\n").map declared
      = .ok (["B"], []) := by
  decide +kernel

end Document

end ErDiagram
