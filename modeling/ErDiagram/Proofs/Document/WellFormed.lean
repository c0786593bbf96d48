import ErDiagram.Document.Reading
import ErDiagram.Proofs.Diagram.WellFormed
import ErDiagram.Proofs.Except
import ErDiagram.Proofs.Line.Names

/-!
# Everything that is read is well formed

A diagram is read along many ways: plain lines, a block of text, nested lists, mappings of
relationships, entities with options, attributes in three spellings, and documents that mix them.
All of them build it by the same few operations, and wherever a relationship is added it comes
from a line that was classified, so that its ends are identifiers. Each reader below keeps the
invariant, and the readers of documents only chain them.

The invariant is `Diagram.WellFormed`, and that the operations keep it is proved beside it. A
lemma here has the form that a reader which starts from a well-formed diagram and succeeds ends
with one, so that those of its parts can be used in a row. Nothing is assumed of the nodes.
-/

namespace ErDiagram

variable {d d' : Diagram}

/-! ## Lines -/

/-- **One line keeps the invariant.** The names that it brings in are identifiers, by what is
known of lines. -/
theorem Line.State.wellFormed_read {s s' : Line.State} {l : NumberedLine}
    (h : s.diagram.WellFormed) (hr : s.read l = .ok s') : s'.diagram.WellFormed := by
  unfold Line.State.read at hr
  split at hr
  · cases hr
  next line hl =>
  rw [NumberedLine.classify_eq_ok] at hl
  unfold Line.State.step at hr
  cases line with
  | blank =>
    cases hr
    exact h
  | relationship source c target label =>
    dsimp only at hr
    split at hr
    · cases hr
    · cases hr
      obtain ⟨hs, ht⟩ := isIdentifier_of_relationship hl
      exact h.addRelationship hs ht
  | «attribute» name dataType flags =>
    dsimp only at hr
    split at hr
    · cases hr
    · -- the entity of the block is declared once more, which changes nothing
      cases hr
      exact h.addAttribute _ _
  | entity name opensBlock =>
    dsimp only at hr
    split at hr
    · cases hr
      exact h
    · cases hr
      exact h.declare name
  | blockEnd =>
    dsimp only at hr
    split at hr
    · cases hr
    · cases hr
      exact h
  | key name value =>
    dsimp only at hr
    split at hr
    · cases hr
      exact h.withTitle value
    split at hr
    · cases hr
      exact h
    · cases hr

/-- **So does a run of lines**, whatever is open when it starts. -/
theorem Line.State.wellFormed_readAll {s : Line.State} {ls : List NumberedLine}
    (h : s.diagram.WellFormed) (hr : s.readAll ls = .ok d') : d'.WellFormed := by
  induction ls generalizing s with
  | nil =>
    unfold Line.State.readAll at hr
    split at hr
    · cases hr
      exact h
    · cases hr
  | cons l ls ih =>
    unfold Line.State.readAll at hr
    split at hr
    · cases hr
    · next hl => exact ih (wellFormed_read h hl) hr

theorem Diagram.WellFormed.readLines {ls : List NumberedLine} (h : d.WellFormed)
    (hr : d.readLines ls = .ok d') : d'.WellFormed :=
  Line.State.wellFormed_readAll (s := ⟨none, d⟩) h hr

namespace Document

open Yaml

/-! ## Lists of relationships -/

theorem wellFormed_addItem {l : NumberedLine} (h : d.WellFormed)
    (hr : addItem d l = .ok d') : d'.WellFormed := by
  unfold addItem at hr
  split at hr
  · cases hr
  · cases hr
    exact h
  · next hl =>
    cases hr
    obtain ⟨hs, ht⟩ := Line.isIdentifier_of_relationship (NumberedLine.classify_eq_ok.1 hl)
    exact h.addRelationship hs ht
  · split at hr
    · cases hr
      exact h
    split at hr
    · cases hr
    · cases hr
      exact h.declare _
  · cases hr

theorem wellFormed_addItems {l : List (Except ReadingError NumberedLine)} (h : d.WellFormed)
    (hr : addItems d l = .ok d') : d'.WellFormed := by
  induction l generalizing d with
  | nil =>
    cases hr
    exact h
  | cons x l ih =>
    cases x with
    | error e => cases hr
    | ok line =>
      unfold addItems at hr
      split at hr
      · cases hr
      · next hi => exact ih (wellFormed_addItem h hi) hr

theorem wellFormed_addRelationships {source : Source} {n : Node} (h : d.WellFormed)
    (hr : addRelationships source d n = .ok d') : d'.WellFormed := by
  unfold addRelationships at hr
  split at hr
  · exact h.readLines (Except.mapError_eq_ok.1 hr)
  · exact wellFormed_addItems h hr

/-! ## Entities and their attributes -/

theorem wellFormed_addAttributePairs {entity : String} {pairs : List (Node × Node)}
    (h : d.WellFormed) (hr : addAttributePairs entity d pairs = .ok d') : d'.WellFormed := by
  induction pairs generalizing d with
  | nil =>
    cases hr
    exact h
  | cons p pairs ih =>
    unfold addAttributePairs at hr
    split at hr
    · cases hr
    split at hr
    · cases hr
    · exact ih (h.addAttribute _ _) hr

theorem wellFormed_addAttributeItems {entity : String} {nodes : List Node}
    (h : d.WellFormed) (hr : addAttributeItems entity d nodes = .ok d') : d'.WellFormed := by
  induction nodes generalizing d with
  | nil =>
    cases hr
    exact h
  | cons n nodes ih =>
    unfold addAttributeItems at hr
    split at hr
    · cases hr
    · exact ih (h.addAttribute _ _) hr

theorem wellFormed_addAttributes {entity : String} {n : Node}
    (h : d.WellFormed) (hr : addAttributes entity d n = .ok d') : d'.WellFormed := by
  unfold addAttributes at hr
  split at hr
  · exact wellFormed_addAttributePairs h hr
  · exact wellFormed_addAttributeItems h hr
  split at hr
  · cases hr
  · cases hr
    exact h

theorem wellFormed_addOptions {entity : String} {pairs : List (Node × Node)}
    (h : d.WellFormed) (hr : addOptions entity d pairs = .ok d') : d'.WellFormed := by
  have hweak : ∀ weak, (d.modifyEntity entity ({ · with weak })).WellFormed := fun _ =>
    h.modifyEntity entity fun _ => rfl
  unfold addOptions at hr
  split at hr
  · cases hr
  · exact wellFormed_addAttributePairs h hr
  · exact wellFormed_addAttributes h hr
  · cases hr
    exact hweak _
  · exact wellFormed_addAttributes (hweak _) hr

theorem wellFormed_addEntity {key value : Node} (h : d.WellFormed)
    (hr : addEntity d key value = .ok d') : d'.WellFormed := by
  unfold addEntity at hr
  split at hr
  · cases hr
  next name _ =>
  have hd := h.declare name
  dsimp only at hr
  split at hr
  · exact wellFormed_addOptions hd hr
  · exact wellFormed_addAttributeItems hd hr
  · cases hr
    exact hd

theorem wellFormed_addEntityPairs {pairs : List (Node × Node)} (h : d.WellFormed)
    (hr : addEntityPairs d pairs = .ok d') : d'.WellFormed := by
  induction pairs generalizing d with
  | nil =>
    cases hr
    exact h
  | cons p pairs ih =>
    unfold addEntityPairs at hr
    split at hr
    · cases hr
    · next hp => exact ih (wellFormed_addEntity h hp) hr

theorem wellFormed_addEntityNames {nodes : List Node} (h : d.WellFormed)
    (hr : addEntityNames d nodes = .ok d') : d'.WellFormed := by
  induction nodes generalizing d with
  | nil =>
    cases hr
    exact h
  | cons n nodes ih =>
    unfold addEntityNames at hr
    split at hr
    · cases hr
    · exact ih (h.declare _) hr

theorem wellFormed_addEntities {n : Node} (h : d.WellFormed)
    (hr : addEntities d n = .ok d') : d'.WellFormed := by
  unfold addEntities at hr
  split at hr
  · exact wellFormed_addEntityNames h hr
  · exact wellFormed_addEntityPairs h hr
  · cases hr

/-! ## Documents

A document is a tree of nodes, and nothing is known about it. Each reader keeps the invariant from
any diagram on that has it, and so does a row of them. -/

theorem wellFormed_addSection {m : OrderedMap String Section} {key : String}
    {add : Diagram → Node → Except ReadingError Diagram}
    (hadd : ∀ {d d' n}, d.WellFormed → add d n = .ok d' → d'.WellFormed) (h : d.WellFormed)
    (hr : addSection m key add d = .ok d') : d'.WellFormed := by
  unfold addSection at hr
  split at hr
  · exact hadd h hr
  · cases hr
    exact h

theorem wellFormed_setTitle {m : OrderedMap String Section} (h : d.WellFormed) (key : String) :
    (setTitle m d key).WellFormed := by
  unfold setTitle
  split
  · exact h.withTitle _
  · exact h

theorem wellFormed_addStructured {source : Source} {pairs : List (Node × Node)}
    (h : d.WellFormed) (hr : addStructured source d pairs = .ok d') : d'.WellFormed := by
  unfold addStructured at hr
  obtain ⟨d₁, h₁, hr⟩ := Except.bind_eq_ok.1 hr
  obtain ⟨d₂, h₂, hr⟩ := Except.bind_eq_ok.1 hr
  have htitle := wellFormed_setTitle (m := sections pairs)
    (wellFormed_setTitle (m := sections pairs) h "title") "titulo"
  have hd₂ := wellFormed_addSection wellFormed_addRelationships
    (wellFormed_addSection wellFormed_addEntities htitle h₁) h₂
  split at hr
  · cases hr
    exact hd₂
  · cases hr

theorem wellFormed_addPair {source : Source} {k v : Node} (h : d.WellFormed)
    (hr : addPair source d k v = .ok d') : d'.WellFormed := by
  unfold addPair at hr
  split at hr
  · cases hr
    exact h.withTitle _
  · split at hr
    · exact wellFormed_addStructured h hr
    · exact wellFormed_addRelationships h hr
  · exact wellFormed_addEntities h hr
  · exact wellFormed_addRelationships h hr
  · cases hr
    exact h

theorem wellFormed_addPairs {source : Source} {pairs : List (Node × Node)}
    (h : d.WellFormed) (hr : addPairs source d pairs = .ok d') : d'.WellFormed := by
  induction pairs generalizing d with
  | nil =>
    cases hr
    exact h
  | cons p pairs ih =>
    unfold addPairs at hr
    split at hr
    · cases hr
    · next hp => exact ih (wellFormed_addPair h hp) hr

theorem wellFormed_addLine {recognized : Bool} {k v : Node} (h : d.WellFormed)
    (hr : addLine recognized d k v = .ok d') : d'.WellFormed := by
  unfold addLine at hr
  dsimp only at hr
  split at hr
  · cases hr
  split at hr
  · cases hr
  · next hl =>
    cases hr
    obtain ⟨hs, ht⟩ := Line.isIdentifier_of_relationship (NumberedLine.classify_eq_ok.1 hl)
    exact h.addRelationship hs ht
  · split at hr <;> cases hr

theorem wellFormed_addLines {recognized : Bool} {pairs : List (Node × Node)}
    (h : d.WellFormed) (hr : addLines recognized d pairs = .ok d') : d'.WellFormed := by
  induction pairs generalizing d recognized with
  | nil =>
    unfold addLines at hr
    split at hr
    · cases hr
      exact h
    · cases hr
  | cons p pairs ih =>
    unfold addLines at hr
    split at hr
    · cases hr
    · next hp => exact ih (wellFormed_addLine h hp) hr

/-- **The diagram of any tree of nodes is well formed.** No condition is put on the tree: it may
have come from any text, or from none. -/
theorem wellFormed_ofNode {source : Source} {n : Node}
    (hr : ofNode source n = .ok d) : d.WellFormed := by
  unfold ofNode at hr
  split at hr
  · obtain ⟨d₁, h₁, hr⟩ := Except.bind_eq_ok.1 hr
    exact wellFormed_addLines (wellFormed_addPairs .empty h₁) hr
  · exact wellFormed_addRelationships .empty hr
  · exact Diagram.WellFormed.empty.readLines (Except.mapError_eq_ok.1 hr)

end Document

/-- **Whatever a text is read into is well formed**, also when its nodes come from another reader
of YAML. It starts from the empty diagram, which is well formed. -/
theorem Diagram.wellFormed_of_parseBy
    {compose : String → Except Yaml.Failure (Option Yaml.Node)} {text : String}
    (hr : parseBy compose text = .ok d) : d.WellFormed := by
  have hlines : ∀ {source}, Document.ofLines source = .ok d → d.WellFormed := fun hr =>
    WellFormed.empty.readLines (Except.mapError_eq_ok.1 hr)
  unfold parseBy parseWithin at hr
  dsimp only at hr
  split at hr
  · cases hr
    exact .empty
  split at hr
  · exact hlines hr
  · cases hr
  · cases hr
  · cases hr
  · exact hlines hr
  · exact Document.wellFormed_ofNode hr

end ErDiagram
