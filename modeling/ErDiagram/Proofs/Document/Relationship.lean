import ErDiagram.Proofs.Line.Relationship
import ErDiagram.Proofs.Line.Script
import ErDiagram.Proofs.Text.Lines
import ErDiagram.Proofs.Yaml.Meaning

/-!
# Relationships are read back

The relationship lines of a diagram are written as a list of texts or as one block of text. The
items of a list are lines of their own, and a block is cut into its lines again, so that both ways
the lines that are read are the lines that were written, whatever their numbers are. Each says the
relationship that it was written for, but for how its label was spelled.

A relationship is compared by its key, which is all of it but the line that it was read on. What
comes back of a label is a function of the label (`Line.labelBack`), so that the key that is read
is a function of the relationship that was written.

Blocks and lists are read by different readers. A block is brought to the description of plain
lines by items, where what the lines say is put together again; for a list each step is followed.
-/

namespace ErDiagram

open Yaml Text

namespace Relationship

/-- The line that a relationship is written as. -/
def text (r : Relationship) : String :=
  Outline.relationshipLine r.source r.cardinality r.target r.label

/-- **What is read back of a relationship**: its key, with the label that the line syntax makes of
its own. The label is the only part that may change. -/
def keyBack (r : Relationship) : String × String × Cardinality × Option String :=
  (r.source, r.target, r.cardinality, Line.labelBack r.label)

/-- Whether the line syntax can write a relationship: names stand in the line as they are, and
have to be read as names there. -/
def IsWritable (r : Relationship) : Prop :=
  isIdentifier r.source.toList = true ∧ isIdentifier r.target.toList = true

theorem newline_notMem_text {r : Relationship} (h : r.IsWritable) :
    ∀ c ∈ r.text.toList, c ≠ '\n' := by
  rintro c hc rfl
  have hbreak := Line.isLineBreak_of_mem_relationshipLine r.cardinality r.label h.1 h.2 _ hc
  exact absurd hbreak (by decide)

/-- **The line of a relationship is read as the relationship**, with its own number. -/
theorem classify_of_text {r : Relationship} (h : r.IsWritable) {l : NumberedLine}
    (hl : l.text = r.text) (inBlock : Bool) :
    l.classify inBlock
      = .ok (.relationship r.source r.cardinality r.target (Line.labelBack r.label)) := by
  rw [NumberedLine.classify, hl, text, Line.classify_relationshipLine inBlock _ _ h.1 h.2]
  rfl

end Relationship

/-! ## The lines that are read -/

namespace Document

theorem map_text_locate (source : List (List Char)) (start here : Nat)
    (parts : List (List Char)) :
    (locate source start here parts).map (·.text) = parts.map String.ofList := by
  induction parts generalizing here with
  | nil => rfl
  | cons part parts ih =>
    rw [locate]
    split
    · rw [List.map_cons, ih, List.map_cons]
    · rw [List.map_cons, ih, List.map_cons]

/-- However a text is written, its lines are its pieces between line feeds. -/
theorem map_text_scalarLines {n : Node} {s : String} (h : n.isText s = true)
    (source : List (List Char)) :
    (scalarLines source n).map (·.text) = pieces s := by
  have htext := Node.text?_of_isText h
  obtain ⟨style, line, rfl⟩ := Node.isText_iff.1 h
  have hlines : scalarLines source (.scalar Tag.str style s line)
      = blockLines source style s line := by
    rw [scalarLines.eq_def, htext]
  rw [hlines, pieces]
  cases style with
  | literal =>
    show List.map _ (List.map _ _) = _
    rw [List.map_map, ← List.zipIdx_map_fst 0 (splitAt '\n' s.toList), List.map_map,
      List.zipIdx_map_fst]
    rfl
  | _ => exact map_text_locate _ _ _ _

/-- **The items of a list of texts** are the lines of these texts, one by one, whatever room is
left: no item is a list. -/
theorem exists_itemsOfList {ls : List String} {nodes : List Node}
    (h : Node.areTexts ls nodes = true) (source : List (List Char)) (room : Nat) :
    ∃ numbered : List NumberedLine, itemsOfList source room nodes = numbered.map .ok ∧
      numbered.map (·.text) = ls.flatMap pieces := by
  induction ls generalizing nodes with
  | nil =>
    cases Node.eq_nil_of_areTexts h
    exact ⟨[], rfl, rfl⟩
  | cons l ls ih =>
    obtain ⟨n, ns, rfl, hn, hns⟩ := Node.exists_of_areTexts_cons h
    obtain ⟨numbered, hitems, htexts⟩ := ih hns
    have hone := map_text_scalarLines hn source
    obtain ⟨style, line, rfl⟩ := Node.isText_iff.1 hn
    refine ⟨scalarLines source (.scalar Tag.str style l line) ++ numbered, ?_, ?_⟩
    · rw [itemsOfList, itemsWithin, hitems, List.map_append]
    · rw [List.map_append, hone, htexts, List.flatMap_cons]

/-- The lines of texts in one block are those of the texts, and an empty one. -/
theorem map_text_scalarLines_join {ls : List String} {n : Node}
    (hn : n.isText (String.join (ls.map (· ++ "\n"))) = true) (source : List (List Char)) :
    (scalarLines source n).map (·.text) = ls.flatMap pieces ++ [""] := by
  have hchars : (String.join (ls.map (· ++ "\n"))).toList
      = (ls.map (·.toList)).flatMap (· ++ ['\n']) := by
    rw [String.toList_join, List.flatMap_map, List.flatMap_map]
    simp only [String.toList_append]
    rfl
  rw [map_text_scalarLines hn, pieces, hchars, splitAt_flatMap_concat, List.map_append,
    List.flatMap_map, List.map_flatMap]
  rfl

/-- The lines of relationships are no longer cut. -/
theorem flatMap_pieces_text {l : List Relationship} (h : ∀ r ∈ l, r.IsWritable) :
    (l.map (·.text)).flatMap pieces = l.map (·.text) := by
  refine flatMap_pieces_eq_self fun s hs => ?_
  obtain ⟨r, hr, rfl⟩ := List.mem_map.1 hs
  exact Relationship.newline_notMem_text (h r hr)

/-! ## Relationships of a list -/

/-- **A list of relationship lines adds the relationships** to a diagram that declares their
ends. -/
theorem exists_addItems {l : List Relationship} (h : ∀ r ∈ l, r.IsWritable) {d : Diagram}
    (hends : ∀ r ∈ l, r.source ∈ d.entityNames ∧ r.target ∈ d.entityNames)
    {numbered : List NumberedLine} (htexts : numbered.map (·.text) = l.map (·.text)) :
    ∃ l', addItems d (numbered.map .ok)
        = .ok { d with relationships := d.relationships ++ l' } ∧
      l'.map (·.key) = l.map (·.keyBack) := by
  induction l generalizing d numbered with
  | nil =>
    rw [List.map_nil, List.map_eq_nil_iff] at htexts
    rw [htexts]
    exact ⟨[], by rw [List.append_nil]; rfl, rfl⟩
  | cons r l ih =>
    rw [List.map_cons, List.map_eq_cons_iff] at htexts
    obtain ⟨n, numbered, rfl, hn, htexts⟩ := htexts
    have hr := Relationship.classify_of_text (h r List.mem_cons_self) hn false
    obtain ⟨hs, ht⟩ := hends r List.mem_cons_self
    let r' : Relationship := { r with label := Line.labelBack r.label, line := some n.line }
    have hadd : addItem d n = .ok { d with relationships := d.relationships ++ [r'] } := by
      rw [addItem, hr]
      show Except.ok (d.addRelationship r') = _
      rw [Diagram.addRelationship, Diagram.declare_of_mem hs, Diagram.declare_of_mem ht]
    obtain ⟨l', hitems, hkeys⟩ := ih (d := { d with relationships := d.relationships ++ [r'] })
      (fun q hq => h q (List.mem_cons_of_mem r hq))
      (fun q hq => hends q (List.mem_cons_of_mem r hq)) htexts
    refine ⟨r' :: l', ?_, ?_⟩
    · rw [List.map_cons, addItems, hadd]
      dsimp only
      rw [hitems, List.append_assoc, List.singleton_append]
    · rw [List.map_cons, List.map_cons, hkeys]
      rfl

/-! ## A block of relationship lines -/

/-- The names at the ends of relationships, each once, in the order in which they appear. -/
def relatedNames (l : List Relationship) : List String :=
  (l.flatMap fun r => [r.source, r.target]).eraseDups

/-- The ends of a relationship are part of its key. -/
theorem relatedNames_eq {l l' : List Relationship} (h : l'.map (·.key) = l.map (·.keyBack)) :
    relatedNames l' = relatedNames l := by
  have hkey : ∀ l : List Relationship, (l.flatMap fun r => [r.source, r.target])
      = (l.map (·.key)).flatMap fun k => [k.1, k.2.1] := fun l => by
    rw [List.flatMap_map]
    rfl
  have hback : (l.flatMap fun r => [r.source, r.target])
      = (l.map (·.keyBack)).flatMap fun k => [k.1, k.2.1] := by
    rw [List.flatMap_map]
    rfl
  rw [relatedNames, relatedNames, hkey, hback, h]

/-- The lines of a block are relationships, and an empty one behind the last line break. -/
theorem exists_script {l : List Relationship} (h : ∀ r ∈ l, r.IsWritable)
    {numbered : List NumberedLine} (htexts : numbered.map (·.text) = l.map (·.text) ++ [""]) :
    ∃ l' : List Relationship,
      Line.Script (l'.map .relationship ++ [.silent]) numbered ∧
      l'.map (·.key) = l.map (·.keyBack) := by
  induction l generalizing numbered with
  | nil =>
    obtain ⟨n, rest, rfl, hn, hrest⟩ := List.map_eq_cons_iff.1 htexts
    cases List.map_eq_nil_iff.1 hrest
    have hblank : n.classify false = .ok .blank := by
      rw [NumberedLine.classify, hn]
      rfl
    exact ⟨[], .cons (.silent hblank) .nil, rfl⟩
  | cons r l ih =>
    rw [List.map_cons, List.cons_append, List.map_eq_cons_iff] at htexts
    obtain ⟨n, rest, rfl, hn, htexts⟩ := htexts
    have hr := Relationship.classify_of_text (h r List.mem_cons_self) hn false
    obtain ⟨l', hscript, hkeys⟩ := ih (fun q hq => h q (List.mem_cons_of_mem r hq)) htexts
    refine ⟨{ r with label := Line.labelBack r.label, line := some n.line } :: l',
      .cons (.relationship hr) hscript, ?_⟩
    rw [List.map_cons, List.map_cons, hkeys]
    rfl

/-- What relationships behind a title say. -/
theorem diagramOf_relationships (title : Option String) (l : List Relationship) :
    Line.diagramOf (.title title :: (l.map .relationship ++ [.silent]))
      = { title, entities := (relatedNames l).map fun name => { name }, relationships := l } := by
  have htitles : (l.map Line.Item.relationship).filterMap Line.Item.title? = [] := by
    rw [List.filterMap_map]
    exact List.filterMap_eq_nil_iff.2 fun _ _ => rfl
  have hattributes : ∀ name,
      (l.map Line.Item.relationship).flatMap (Line.Item.attributesOf name) = [] := fun name => by
    rw [List.flatMap_map]
    exact List.flatMap_eq_nil_iff.2 fun _ _ => rfl
  have hmentions : (l.map Line.Item.relationship).flatMap Line.Item.mentions
      = l.flatMap fun r => [r.source, r.target] := by
    rw [List.flatMap_map]
    rfl
  have hrelationships : (l.map Line.Item.relationship).filterMap Line.Item.relationship? = l := by
    rw [List.filterMap_map]
    exact List.filterMap_some
  unfold Line.diagramOf
  simp only [List.filterMap_cons, List.flatMap_cons, List.filterMap_append, List.flatMap_append,
    htitles, hattributes, hmentions, hrelationships]
  show Diagram.mk title
    (((l.flatMap fun r : Relationship => [r.source, r.target]) ++ []).eraseDups.map _) (l ++ []) = _
  rw [List.append_nil, List.append_nil]
  rfl

/-- **A block of relationship lines is read into their diagram**, with the title that was given
before. -/
theorem exists_readLines {l : List Relationship} (h : ∀ r ∈ l, r.IsWritable)
    (title : Option String) {numbered : List NumberedLine}
    (htexts : numbered.map (·.text) = l.map (·.text) ++ [""]) :
    ∃ l' : List Relationship,
      Diagram.readLines { title } numbered
        = .ok { title, entities := (relatedNames l).map fun name => { name },
                relationships := l' } ∧
      l'.map (·.key) = l.map (·.keyBack) := by
  obtain ⟨l', hscript, hkeys⟩ := exists_script h htexts
  -- the title stands before the block, so that it is one more item in front
  have hadd := Line.foldl_addTo (.title title :: (l'.map .relationship ++ [.silent]))
  rw [diagramOf_relationships, List.foldl_cons, relatedNames_eq hkeys] at hadd
  refine ⟨l', ?_, hkeys⟩
  rw [Diagram.readLines, hscript.readAll]
  exact congrArg Except.ok hadd

end Document

end ErDiagram
