import ErDiagram.Proofs.Document.Listed
import Mathlib.Logic.Nontrivial.Basic

/-!
# Titles

No reader looks at the title that a diagram has already: lines and items that are read give the
same entities and relationships, and the same errors, whatever the title was. What they do to the
title is as simple. Lines give the title of the last title line among them, or keep the one there
is, and the items of a list always keep it.

The first is said by leaving the title out before and after (`Diagram.untitled`): reading into a
diagram without its title is reading and then leaving out the title. In this form it is kept by
steps in a row, and it says of errors that they are equal.
-/

namespace ErDiagram

/-! ## Nothing that is read depends on the title

A title is written by some lines and read by none. So whatever is read into two diagrams that
differ in their titles gives diagrams that differ in nothing else, or the same error. -/

/-- **A diagram but for its title.** Two diagrams with the same one differ in their titles at
most. -/
def Diagram.untitled (d : Diagram) : Diagram := { d with title := none }

namespace Diagram

theorem eq_of_untitled {d d' : Diagram} (h : d'.untitled = d.untitled)
    (htitle : d'.title = d.title) : d' = d := by
  have hentities : d'.entities = d.entities := congrArg (·.entities) h
  have hrelationships : d'.relationships = d.relationships := congrArg (·.relationships) h
  cases d
  cases d'
  cases htitle
  cases hentities
  cases hrelationships
  rfl

theorem untitled_declare (d : Diagram) (name : String) :
    (d.declare name).untitled = d.untitled.declare name := by
  unfold declare untitled entityNames
  split <;> rfl

theorem untitled_addAttribute (d : Diagram) (entity : String) (a : Attribute) :
    (d.addAttribute entity a).untitled = d.untitled.addAttribute entity a := by
  unfold addAttribute
  rw [← untitled_declare]
  rfl

theorem untitled_addRelationship (d : Diagram) (r : Relationship) :
    (d.addRelationship r).untitled = d.untitled.addRelationship r := by
  unfold addRelationship
  dsimp only
  rw [← untitled_declare, ← untitled_declare]
  rfl

end Diagram

namespace Line

/-- A state but for the title of its diagram. -/
def State.untitled (s : State) : State := { s with diagram := s.diagram.untitled }

/-- A line that is read changes the title at most, and does so whatever the title was. -/
theorem State.map_untitled_step (s : State) (l : NumberedLine) (said : Line) :
    (s.untitled.step l said).map untitled = (s.step l said).map untitled := by
  obtain ⟨block, d⟩ := s
  cases said with
  | blank => rfl
  | relationship source cardinality target label =>
    cases block with
    | some b => rfl
    | none =>
      show Except.ok (State.mk none (d.untitled.addRelationship _).untitled)
        = .ok (State.mk none (d.addRelationship _).untitled)
      rw [Diagram.untitled_addRelationship, Diagram.untitled_addRelationship]
      rfl
  | «attribute» name dataType flags =>
    cases block with
    | none => rfl
    | some b =>
      show Except.ok (State.mk (some b) (d.untitled.addAttribute _ _).untitled)
        = .ok (State.mk (some b) (d.addAttribute _ _).untitled)
      rw [Diagram.untitled_addAttribute, Diagram.untitled_addAttribute]
      rfl
  | entity name opensBlock =>
    by_cases hn : isHeader name = true
    · rw [step_header hn, step_header hn]
      rfl
    · rw [Bool.not_eq_true] at hn
      rw [step_entity hn, step_entity hn]
      show Except.ok (State.mk _ (d.untitled.declare name).untitled)
        = .ok (State.mk _ (d.declare name).untitled)
      rw [Diagram.untitled_declare, Diagram.untitled_declare]
      rfl
  | blockEnd => cases block <;> rfl
  | key name value =>
    by_cases ht : isTitleKey name = true
    · rw [step_title ht, step_title ht]
      rfl
    by_cases hn : isHeader name = true
    · rw [step_headerKey hn, step_headerKey hn]
      rfl
    · unfold State.step
      dsimp only
      rw [if_neg ht, if_neg hn, if_neg ht, if_neg hn]

theorem State.read_eq_bind (s : State) (l : NumberedLine) :
    s.read l = l.classify s.block.isSome >>= s.step l := by
  rw [State.read]
  cases l.classify s.block.isSome <;> rfl

theorem State.map_untitled_read (s : State) (l : NumberedLine) :
    (s.untitled.read l).map untitled = (s.read l).map untitled := by
  rw [State.read_eq_bind, State.read_eq_bind]
  refine Except.map_bind_congr (f := id) rfl fun said said' hsaid => ?_
  rw [show said' = said from hsaid]
  exact s.map_untitled_step l said

theorem State.readAll_cons_eq_bind (s : State) (l : NumberedLine) (ls : List NumberedLine) :
    s.readAll (l :: ls) = s.read l >>= (State.readAll · ls) := by
  rw [State.readAll]
  cases s.read l <;> rfl

/-- **So does a run of lines.** -/
theorem State.map_untitled_readAll (s : State) (ls : List NumberedLine) :
    (s.untitled.readAll ls).map Diagram.untitled = (s.readAll ls).map Diagram.untitled := by
  induction ls generalizing s with
  | nil =>
    obtain ⟨block, d⟩ := s
    cases block <;> rfl
  | cons l ls ih =>
    rw [readAll_cons_eq_bind, readAll_cons_eq_bind]
    refine Except.map_bind_congr (s.map_untitled_read l) fun s₁ s₁' hs => ?_
    rw [← ih s₁', ← ih s₁, hs]

end Line

namespace Document

open Yaml

theorem map_untitled_addItem (d : Diagram) (l : NumberedLine) :
    (addItem d.untitled l).map Diagram.untitled = (addItem d l).map Diagram.untitled := by
  unfold addItem
  cases l.classify false with
  | error e => rfl
  | ok said =>
    cases said with
    | relationship source cardinality target label =>
      show Except.ok (d.untitled.addRelationship _).untitled = .ok (d.addRelationship _).untitled
      rw [Diagram.untitled_addRelationship, Diagram.untitled_addRelationship]
      rfl
    | entity name opensBlock =>
      dsimp only
      split
      · rfl
      split
      · rfl
      · show Except.ok (d.untitled.declare name).untitled = .ok (d.declare name).untitled
        rw [Diagram.untitled_declare, Diagram.untitled_declare]
        rfl
    | _ => rfl

theorem addItems_cons_eq_bind (d : Diagram) (line : NumberedLine)
    (l : List (Except ReadingError NumberedLine)) :
    addItems d (.ok line :: l) = addItem d line >>= (addItems · l) := by
  rw [addItems]
  cases addItem d line <;> rfl

theorem map_untitled_addItems (d : Diagram) (l : List (Except ReadingError NumberedLine)) :
    (addItems d.untitled l).map Diagram.untitled = (addItems d l).map Diagram.untitled := by
  induction l generalizing d with
  | nil => rfl
  | cons x l ih =>
    cases x with
    | error e => rfl
    | ok line =>
      rw [addItems_cons_eq_bind, addItems_cons_eq_bind]
      refine Except.map_bind_congr (map_untitled_addItem d line) fun d₁ d₁' hd => ?_
      rw [← ih d₁', ← ih d₁, hd]

/-- **Neither the relationships of a node nor what is wrong with them depends on the title.** The
title is set by its own lines and is never looked at while a node is read. -/
theorem map_untitled_addRelationships (source : Source) (d : Diagram) (n : Node) :
    (addRelationships source d.untitled n).map Diagram.untitled
      = (addRelationships source d n).map Diagram.untitled := by
  unfold addRelationships
  split
  · have hread := Line.State.map_untitled_readAll ⟨none, d⟩ (scalarLines source.lines n)
    have hmap : ∀ r : Except SyntaxError Diagram, (ReadingError.ofSyntax r).map Diagram.untitled
        = ReadingError.ofSyntax (r.map Diagram.untitled) := by
      intro r
      cases r <;> rfl
    rw [hmap, hmap]
    exact congrArg ReadingError.ofSyntax hread
  · exact map_untitled_addItems d (items source n)

end Document

/-! ## What lines do to the title -/

namespace Line

theorem Item.title_addTo (d : Diagram) (item : Item) :
    (item.addTo d).title = item.title?.getD d.title := by
  cases item with
  | mention name => exact Diagram.title_declare d name
  | relationship r =>
    exact (Diagram.title_declare _ r.target).trans (Diagram.title_declare d r.source)
  | block name attributes =>
    have hadd : ∀ (l : List Attribute) (d : Diagram),
        (l.foldl (·.addAttribute name ·) d).title = d.title := by
      intro l
      induction l with
      | nil => exact fun _ => rfl
      | cons a l ih => exact fun d => (ih _).trans (Diagram.title_declare d name)
    exact (hadd attributes _).trans (Diagram.title_declare d name)
  | _ => rfl

/-- **Of several titles the last one counts.** -/
theorem title_foldl_addTo (d : Diagram) (items : List Item) :
    (items.foldl Item.addTo d).title
      = ((items.filterMap Item.title?).getLast?).getD d.title := by
  induction items using List.reverseRecOn with
  | nil => rfl
  | append_singleton items item ih =>
    rw [List.foldl_append, List.foldl_cons, List.foldl_nil, Item.title_addTo, ih,
      List.filterMap_append, filterMap_singleton]
    cases item.title? with
    | none => rw [Option.toList_none, List.append_nil]; rfl
    | some x => rw [Option.toList_some, List.getLast?_concat]; rfl

/-- The last title of some lines is the same, however they are made into items: it shows in what
they add to a diagram with any title. -/
theorem Script.lastTitle_unique {items items' : List Item} {ls : List NumberedLine}
    (h : Script items ls) (h' : Script items' ls) :
    (items.filterMap Item.title?).getLast? = (items'.filterMap Item.title?).getLast? := by
  have hgetD : ∀ t : Option String, ((items.filterMap Item.title?).getLast?).getD t
      = ((items'.filterMap Item.title?).getLast?).getD t := by
    intro t
    have hsame := Except.ok.inj ((h.readAll { title := t }).symm.trans (h'.readAll { title := t }))
    have htitle := congrArg Diagram.title hsame
    rw [title_foldl_addTo, title_foldl_addTo] at htitle
    exact htitle
  generalize (items.filterMap Item.title?).getLast? = a,
    (items'.filterMap Item.title?).getLast? = b at hgetD
  cases a with
  | none =>
    cases b with
    | none => rfl
    | some y =>
      obtain ⟨t, ht⟩ := exists_ne y
      exact absurd (hgetD t) ht
  | some x =>
    cases b with
    | none =>
      obtain ⟨t, ht⟩ := exists_ne x
      exact absurd (hgetD t).symm ht
    | some y => exact congrArg some (hgetD none)

end Line

namespace NumberedLine

/-- **The items of a list keep the title.** -/
theorem title_foldl_addTo (ls : List NumberedLine) (d : Diagram) :
    (ls.foldl addTo d).title = d.title := by
  induction ls generalizing d with
  | nil => rfl
  | cons l ls ih =>
    rw [List.foldl_cons, ih]
    unfold addTo
    cases l.classify false with
    | error e => rfl
    | ok said =>
      cases said with
      | relationship =>
        exact (Diagram.title_declare _ _).trans (Diagram.title_declare d _)
      | entity name opensBlock =>
        dsimp only [Line.addTo]
        split
        · rfl
        · exact Diagram.title_declare d name
      | _ => rfl

end NumberedLine

end ErDiagram
