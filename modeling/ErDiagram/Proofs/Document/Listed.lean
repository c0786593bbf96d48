import ErDiagram.Proofs.Document.Relationship

/-!
# Lines in a list

The items of a list are lines, and so are the lines of a plain text, but they are not read by the
same reader. Items are independent of each other: none of them opens a block, so that each is a
line outside of blocks, and what takes a block around it, or a key, is refused. Plain lines carry
the block that is open from one line to the next.

The two readers meet in the lines that an item may be. As long as plain lines are no others, no
block is ever open, and either reader takes the same step: a relationship is added, a bare name is
declared, and a header, a comment or a blank line adds nothing. Hence a list accepts exactly those
plain lines that are made of such lines, and both readers find the same diagram. Only the numbers
of the lines may differ, since an item stands wherever the list has it.

What a line of this kind does is one function (`NumberedLine.addTo`), and both readers are proved
to be the fold of it. The numbers are then the last difference, and `Diagram.EqButLines` is
equality up to these.
-/

namespace ErDiagram

/-! ## What an item may say -/

namespace Line

/-- **Whether an item of a list may say this**: nothing, a relationship, a bare name or the
header, which is the header also where it opens a brace. It is a test on what a line says, so that
whether a list is accepted is seen from its texts one by one. -/
def isListable : Line → Bool
  | .blank | .relationship .. => true
  | .entity name opensBlock => isHeader name || !opensBlock
  | .attribute .. | .blockEnd | .key .. => false

/-- What an item that says this adds to a diagram; `line` is its number. -/
def addTo (line : Nat) (d : Diagram) : Line → Diagram
  | .relationship source cardinality target label =>
    d.addRelationship { source, target, cardinality, label, line := some (Int.ofNat line) }
  | .entity name _ => if isHeader name then d else d.declare name
  | _ => d

end Line

namespace NumberedLine

/-- Whether a line can be an item of a list. -/
def IsListable (l : NumberedLine) : Prop :=
  ∃ said, l.classify false = .ok said ∧ said.isListable = true

/-- What a line adds to a diagram as an item. -/
def addTo (d : Diagram) (l : NumberedLine) : Diagram :=
  match l.classify false with
  | .ok said => said.addTo l.line d
  | .error _ => d

variable {l : NumberedLine} {d : Diagram}

theorem addTo_of_classify {said : Line} (h : l.classify false = .ok said) :
    l.addTo d = said.addTo l.line d := by
  rw [addTo, h]

end NumberedLine

namespace Document

variable {d d' : Diagram} {l : NumberedLine} {ls : List NumberedLine}

/-! ## The two readers on such lines

Plain lines are read with a block that may be open, and items of a list without one. On lines that
may stand in a list the two take the same steps. -/

theorem addItem_of_isListable (h : l.IsListable) (d : Diagram) : addItem d l = .ok (l.addTo d) := by
  obtain ⟨said, hsaid, hlist⟩ := h
  rw [NumberedLine.addTo_of_classify hsaid, addItem, hsaid]
  cases said with
  | blank | relationship => rfl
  | «attribute» | blockEnd | key => cases hlist
  | entity name opensBlock =>
    dsimp only [Line.addTo]
    by_cases hn : Line.isHeader name = true
    · rw [if_pos hn, if_pos hn]
    · rw [if_neg hn, if_neg hn, if_neg (by simpa [Line.isListable, hn] using hlist)]

/-- Nothing else is added. -/
theorem isListable_of_addItem (h : addItem d l = .ok d') : l.IsListable := by
  unfold addItem at h
  split at h
  · cases h
  · next hsaid => exact ⟨_, hsaid, rfl⟩
  · next hsaid => exact ⟨_, hsaid, rfl⟩
  · next name opensBlock hsaid =>
    refine ⟨_, hsaid, ?_⟩
    dsimp only [Line.isListable]
    split at h
    · next hn => rw [hn, Bool.true_or]
    · split at h
      · cases h
      · next ho => rw [eq_false_of_ne_true ho, Bool.not_false, Bool.or_true]
  · cases h

/-- **The items of a list are added one by one**, and all of them must be lines that may stand
there. Where they may, nothing else can go wrong. -/
theorem addItems_eq_ok_iff : addItems d (ls.map .ok) = .ok d' ↔
    (∀ l ∈ ls, l.IsListable) ∧ d' = ls.foldl NumberedLine.addTo d := by
  induction ls generalizing d with
  | nil =>
    rw [List.map_nil, addItems, Except.ok.injEq, eq_comm]
    exact (and_iff_right (List.forall_mem_nil _)).symm
  | cons l ls ih =>
    rw [List.map_cons, addItems, List.forall_mem_cons, List.foldl_cons, and_assoc, ← ih]
    constructor
    · intro h
      split at h
      · cases h
      · next hl =>
        have hlist := isListable_of_addItem hl
        rw [addItem_of_isListable hlist] at hl
        cases hl
        exact ⟨hlist, h⟩
    · rintro ⟨hlist, h⟩
      rw [addItem_of_isListable hlist]
      exact h

/-- A list that is read to its end has lines as its items. -/
theorem exists_of_addItems {l : List (Except ReadingError NumberedLine)}
    (h : addItems d l = .ok d') : ∃ ls : List NumberedLine, l = ls.map .ok := by
  induction l generalizing d with
  | nil => exact ⟨[], rfl⟩
  | cons x l ih =>
    cases x with
    | error e => cases h
    | ok line =>
      rw [addItems] at h
      split at h
      · cases h
      · obtain ⟨ls, rfl⟩ := ih h
        exact ⟨line :: ls, rfl⟩

/-- Outside of blocks such a line is read in the same way, and opens none. -/
theorem read_of_isListable (h : l.IsListable) (d : Diagram) :
    (Line.State.mk none d).read l = .ok ⟨none, l.addTo d⟩ := by
  obtain ⟨said, hsaid, hlist⟩ := h
  rw [NumberedLine.addTo_of_classify hsaid, Line.State.read, Option.isSome_none, hsaid]
  cases said with
  | blank | relationship => rfl
  | «attribute» | blockEnd | key => cases hlist
  | entity name opensBlock =>
    dsimp only [Line.addTo]
    by_cases hn : Line.isHeader name = true
    · rw [if_pos hn, Line.State.step_header hn]
    · have ho : opensBlock = false := by simpa [Line.isListable, hn] using hlist
      rw [if_neg hn, Line.State.step_entity (eq_false_of_ne_true hn), ho]
      rfl

/-- **Plain lines of this kind are read like the items of a list.** -/
theorem readLines_of_isListable (h : ∀ l ∈ ls, l.IsListable) (d : Diagram) :
    d.readLines ls = .ok (ls.foldl NumberedLine.addTo d) := by
  induction ls generalizing d with
  | nil => rfl
  | cons l ls ih =>
    rw [List.forall_mem_cons] at h
    rw [Diagram.readLines, Line.State.readAll, read_of_isListable h.1]
    exact ih h.2 _

/-- Plain lines that are read and say nothing else are of this kind. What they say outside of
blocks is enough, since the lines before a line leave no block open. -/
theorem isListable_of_readLines (hread : d.readLines ls = .ok d')
    (h : ∀ l ∈ ls, ∀ said, l.classify false = .ok said → said.isListable = true) :
    ∀ l ∈ ls, l.IsListable := by
  induction ls generalizing d with
  | nil => exact nofun
  | cons l ls ih =>
    rw [List.forall_mem_cons] at h
    have hl : l.IsListable := by
      cases hsaid : l.classify false with
      | ok said => exact ⟨said, hsaid, h.1 said hsaid⟩
      | error e =>
        rw [Diagram.readLines, Line.State.readAll, Line.State.read, Option.isSome_none, hsaid]
          at hread
        cases hread
    rw [Diagram.readLines, Line.State.readAll, read_of_isListable hl] at hread
    exact List.forall_mem_cons.2 ⟨hl, ih hread h.2⟩

end Document

/-! ## The same lines in two places -/

/-- **Two diagrams that differ in the lines of their relationships only.** The line of a
relationship is where it was read, and the same text stands on different lines in a list and in a
plain text. Everything else about the diagram has to agree, entities with their attributes
included; relationships are compared by their keys, which is all of them but the line. -/
structure Diagram.EqButLines (d d' : Diagram) : Prop where
  /-- The titles are the same. -/
  title : d'.title = d.title
  /-- The entities are the same, with all that is known of them. -/
  entities : d'.entities = d.entities
  /-- The relationships have the same ends, symbols and labels, in the same order. The key of a
  relationship is all of it but its line. -/
  keys : d'.relationships.map (·.key) = d.relationships.map (·.key)

namespace Diagram.EqButLines

variable {d d' : Diagram}

theorem refl (d : Diagram) : d.EqButLines d := ⟨rfl, rfl, rfl⟩

theorem entityNames (h : d.EqButLines d') : d'.entityNames = d.entityNames := by
  rw [Diagram.entityNames, Diagram.entityNames, h.entities]

theorem declare (h : d.EqButLines d') (name : String) :
    (d.declare name).EqButLines (d'.declare name) := by
  refine ⟨?_, ?_, ?_⟩
  · rw [title_declare, title_declare, h.title]
  · unfold Diagram.declare
    rw [h.entityNames]
    split
    · exact h.entities
    · exact congrArg (· ++ [({ name } : Entity)]) h.entities
  · rw [relationships_declare, relationships_declare, h.keys]

theorem addRelationship (h : d.EqButLines d') {r r' : Relationship} (hr : r'.key = r.key) :
    (d.addRelationship r).EqButLines (d'.addRelationship r') := by
  have hsource : r'.source = r.source := congrArg (·.1) hr
  have htarget : r'.target = r.target := congrArg (·.2.1) hr
  have hends := (h.declare r.source).declare r.target
  refine ⟨?_, ?_, ?_⟩
  · show ((d'.declare r'.source).declare r'.target).title = _
    rw [hsource, htarget]
    exact hends.title
  · show ((d'.declare r'.source).declare r'.target).entities = _
    rw [hsource, htarget]
    exact hends.entities
  · rw [relationships_addRelationship, relationships_addRelationship, List.map_append,
      List.map_append, h.keys, List.map_singleton, List.map_singleton, hr]

/-- **Lines with the same texts add the same**, but for their numbers. Numbers are kept in
relationships only, and nothing is looked up by them. -/
theorem foldl_addTo {ls ls' : List NumberedLine} (hls : ls'.map (·.text) = ls.map (·.text))
    (h : d.EqButLines d') :
    (ls.foldl NumberedLine.addTo d).EqButLines (ls'.foldl NumberedLine.addTo d') := by
  induction ls generalizing d d' ls' with
  | nil =>
    rw [List.map_nil, List.map_eq_nil_iff] at hls
    rw [hls]
    exact h
  | cons l ls ih =>
    rw [List.map_cons, List.map_eq_cons_iff] at hls
    obtain ⟨l', ls', rfl, htext, hls⟩ := hls
    rw [List.foldl_cons, List.foldl_cons]
    refine ih hls ?_
    unfold NumberedLine.addTo NumberedLine.classify
    rw [htext]
    cases Line.classify false l.text with
    | error cause => exact h
    | ok said =>
      dsimp only [Except.mapError]
      cases said with
      | relationship => exact h.addRelationship rfl
      | entity name opensBlock =>
        dsimp only [Line.addTo]
        split
        · exact h
        · exact h.declare name
      | _ => exact h

end Diagram.EqButLines

namespace Document

open Yaml

variable {texts : List String} {nodes : List Node}

theorem map_text_ofLines (texts : List String) :
    (NumberedLine.ofLines (texts.map String.toList)).map (·.text) = texts := by
  unfold NumberedLine.ofLines
  rw [List.map_map]
  show ((texts.map String.toList).zipIdx.map (String.ofList ∘ Prod.fst)) = texts
  rw [← List.map_map, List.zipIdx_map_fst, Text.map_ofList_map_toList]

/-- Whether all lines can be items is seen from their texts. -/
theorem forall_isListable_congr {ls ls' : List NumberedLine}
    (h : ls'.map (·.text) = ls.map (·.text)) (hls : ∀ l ∈ ls, l.IsListable) :
    ∀ l ∈ ls', l.IsListable := by
  intro l' hl'
  obtain ⟨l, hl, htext⟩ := List.mem_map.1 (h ▸ List.mem_map_of_mem hl' : l'.text ∈ ls.map (·.text))
  obtain ⟨said, hsaid, hlist⟩ := hls l hl
  rw [NumberedLine.classify_eq_ok, htext] at hsaid
  exact ⟨said, NumberedLine.classify_eq_ok.2 hsaid, hlist⟩

/-- **A list of texts is read like the same texts as plain lines.** The list is accepted exactly
if the lines are and none of them is a key, an attribute, the end of a block or the start of one
(the header may open a brace); and then both give the same title, the same entities and the same
relationships, in the same order. The texts have no line feed in them, since a plain line has
none. -/
theorem exists_addRelationships_iff_ofLines (source : Source) (tag : String) (line : Nat)
    (hnodes : Node.areTexts texts nodes = true) (hlines : ∀ t ∈ texts, ∀ c ∈ t.toList, c ≠ '\n') :
    ((∃ d, addRelationships source {} (.sequence tag nodes line) = .ok d) ↔
      (∃ d, ofLines (texts.map String.toList) = .ok d) ∧
        ∀ t ∈ texts, ∀ said, Line.classify false t = .ok said → said.isListable = true) ∧
    ∀ d d', addRelationships source {} (.sequence tag nodes line) = .ok d →
      ofLines (texts.map String.toList) = .ok d' → d.EqButLines d' := by
  obtain ⟨numbered, hitems, htexts⟩ := exists_itemsOfList hnodes source.lines source.nesting
  rw [Text.flatMap_pieces_eq_self hlines] at htexts
  have hsame : (NumberedLine.ofLines (texts.map String.toList)).map (·.text)
      = numbered.map (·.text) := (map_text_ofLines texts).trans htexts.symm
  have hlist : ∀ d, addRelationships source {} (.sequence tag nodes line) = .ok d ↔
      (∀ l ∈ numbered, l.IsListable) ∧ d = numbered.foldl NumberedLine.addTo {} := by
    intro d
    rw [← addItems_eq_ok_iff, ← hitems]
    rfl
  have hplain : ∀ d, ofLines (texts.map String.toList) = .ok d ↔
      Diagram.readLines {} (NumberedLine.ofLines (texts.map String.toList)) = .ok d :=
    fun _ => Except.mapError_eq_ok
  have hread : (∀ l ∈ numbered, l.IsListable) →
      Diagram.readLines {} (NumberedLine.ofLines (texts.map String.toList)) = .ok _ :=
    fun h => readLines_of_isListable (forall_isListable_congr hsame h) {}
  refine ⟨⟨?_, ?_⟩, ?_⟩
  · rintro ⟨d, hd⟩
    have hall := ((hlist d).1 hd).1
    refine ⟨⟨_, (hplain _).2 (hread hall)⟩, fun t ht said hsaid => ?_⟩
    obtain ⟨l, hl, rfl⟩ := List.mem_map.1 (htexts ▸ ht : t ∈ numbered.map (·.text))
    obtain ⟨said', hsaid', hlistable⟩ := hall l hl
    rw [NumberedLine.classify_eq_ok, hsaid] at hsaid'
    cases hsaid'
    exact hlistable
  · rintro ⟨⟨d, hd⟩, hsays⟩
    -- what the lines say outside of blocks is what their texts say
    have hall := isListable_of_readLines ((hplain d).1 hd) fun l hl said hsaid => by
      refine hsays l.text ?_ said (NumberedLine.classify_eq_ok.1 hsaid)
      rw [← map_text_ofLines texts]
      exact List.mem_map_of_mem hl
    exact ⟨_, (hlist _).2 ⟨forall_isListable_congr hsame.symm hall, rfl⟩⟩
  · intro d d' hd hd'
    obtain ⟨hall, rfl⟩ := (hlist d).1 hd
    cases ((hplain d').1 hd').symm.trans (hread hall)
    exact Diagram.EqButLines.foldl_addTo hsame (.refl {})

/-- A name, a quoted relationship and a header, each on a line of the list. -/
theorem exists_addRelationships_iff_ofLines_sample :
    let texts := ["B", "A ||--|| B : of", "erDiagram \x7b"]
    let nodes : List Node := [.scalar Tag.str .plain "B" 0,
      .scalar Tag.str .doubleQuoted "A ||--|| B : of" 2, .scalar Tag.str .plain "erDiagram \x7b" 3]
    Node.areTexts texts nodes = true ∧ (∀ t ∈ texts, ∀ c ∈ t.toList, c ≠ '\n') ∧
      ∃ d d', addRelationships {} {} (.sequence Tag.seq nodes 0) = .ok d ∧
        ofLines (texts.map String.toList) = .ok d' ∧ d.entityNames = ["B", "A"] ∧
        d.EqButLines d' := by
  intro texts nodes
  have hnodes : Node.areTexts texts nodes = true := by decide
  have hbreaks : ∀ t ∈ texts, '\n' ∉ t.toList := by decide
  have hlines : ∀ t ∈ texts, ∀ c ∈ t.toList, c ≠ '\n' := fun t ht _ hc =>
    ne_of_mem_of_not_mem hc (hbreaks t ht)
  obtain ⟨hiff, hsame⟩ := exists_addRelationships_iff_ofLines {} Tag.seq 0 hnodes hlines
  have hnames : (addRelationships {} {} (.sequence Tag.seq nodes 0)).map Diagram.entityNames
      = .ok ["B", "A"] := by decide +kernel
  obtain ⟨d, hd, hnames⟩ := Except.map_eq_ok.1 hnames
  obtain ⟨⟨d', hd'⟩, _⟩ := hiff.1 ⟨d, hd⟩
  exact ⟨hnodes, hlines, d, d', hd, hd', hnames, hsame d d' hd hd'⟩

end Document

end ErDiagram
