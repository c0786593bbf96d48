import ErDiagram.Generation
import ErDiagram.Proofs.Except

/-!
# A layout depends only on names and ends

What is decided about a layout – the pattern, the strategy and where entities are – is decided
before anything is written into the entities, and of a diagram only the names of its entities and
the ends of its relationships are read for it. Neither is changed by what is written, so that a
diagram that has been laid out is laid out in the same way again.

A generated layout consists of both, what was decided and the diagram that it was written into,
and two diagrams with the same names and ends can differ in everything else. To compare their
layouts, what was decided is taken out as a `Plan`, and generating is proved to be deciding and
then writing (`generate_eq`). What is read is then a question about `Diagram.plan`, and that a
second time changes nothing is one about `Diagram.arrange`, which writes the same sizes and places
over what it has written before.
-/

namespace ErDiagram

/-- **What is decided about the layout of a diagram.** These are the parts of a generated layout
that two diagrams can have in common without being the same diagram. -/
structure Plan where
  /-- The pattern of the diagram. -/
  pattern : Pattern
  /-- The strategy. -/
  strategy : Strategy
  /-- Where the entities are. -/
  positions : PositionMap Float

/-- What was decided about a diagram that has been laid out. -/
def Generated.plan (g : Generated) : Plan := ⟨g.pattern, g.strategy, g.positions⟩

namespace Diagram

/-- **Decides about the layout of a diagram.** -/
def plan (d : Diagram) (strategy : Option String) (s : Settings) : Except LayoutError Plan := do
  let a := d.analyze
  let t ← Layout.choose a strategy
  let m ← d.layout a t s
  pure ⟨a.pattern, t, Refinement.refine s.refinement d.ends m⟩

/-- A diagram with what was decided about it written into it. -/
def arrange (d : Diagram) (s : Settings) (p : Plan) : Generated where
  diagram := (d.resize s.entityWidth s.entityHeight).applyPositions p.positions
  pattern := p.pattern
  strategy := p.strategy
  positions := p.positions

/-- **Everything is decided before it is written.** -/
theorem generate_eq (d : Diagram) (strategy : Option String) (s : Settings) :
    d.generate strategy s = (d.plan strategy s).map (d.arrange s) := by
  unfold generate plan
  dsimp only
  cases Layout.choose d.analyze strategy with
  | error e => rfl
  | ok t =>
    show (d.layout d.analyze t s >>= _) = Except.map _ (d.layout d.analyze t s >>= _)
    cases d.layout d.analyze t s <;> rfl

theorem map_plan_generate (d : Diagram) (strategy : Option String) (s : Settings) :
    (d.generate strategy s).map Generated.plan = d.plan strategy s := by
  rw [generate_eq]
  cases d.plan strategy s <;> rfl

end Diagram

/-! ## What is read

Everything that decides about a layout is a function of the names of a diagram and of the ends of
its relationships. This is stated by an equation for each function on the way. -/

/-- Of relationships the graph needs the ends. -/
theorem Graph.ofDiagram_eq_foldl_ends (d : Diagram) :
    ofDiagram d = d.ends.foldl (fun g e => g.addEdge e.1 e.2) (ofNames d.entityNames) := by
  rw [ofDiagram, Diagram.ends, List.foldl_map]

namespace Diagram

variable {d d' : Diagram}

theorem analyze_congr (hn : d.entityNames = d'.entityNames) (he : d.ends = d'.ends) :
    d.analyze = d'.analyze := by
  have hcount : d.relationships.length = d'.relationships.length := by
    simpa [ends] using congrArg List.length he
  unfold analyze
  rw [Graph.ofDiagram_eq_foldl_ends, Graph.ofDiagram_eq_foldl_ends, hn, he, hcount]

theorem layout_congr (hn : d.entityNames = d'.entityNames) (he : d.ends = d'.ends) (a : Analysis)
    (t : Strategy) (s : Settings) : d.layout a t s = d'.layout a t s := by
  rw [layout, layout, spots, spots, hn, he]

theorem plan_congr (hn : d.entityNames = d'.entityNames) (he : d.ends = d'.ends)
    (strategy : Option String) (s : Settings) : d.plan strategy s = d'.plan strategy s := by
  unfold plan
  simp only [analyze_congr hn he, layout_congr hn he, he]

/-! ## What is written -/

@[simp] theorem ends_arrange (s : Settings) (p : Plan) : (d.arrange s p).diagram.ends = d.ends :=
  rfl

/-- An entity as it is written: the size of the settings, and the place in the map if it has one
there. -/
def arrangeEntity (s : Settings) (m : PositionMap Float) (e : Entity) : Entity :=
  let e := { e with width := s.entityWidth, height := s.entityHeight }
  ((m.get? e.name).map e.moveTo).getD e

theorem name_arrangeEntity (s : Settings) (m : PositionMap Float) (e : Entity) :
    (arrangeEntity s m e).name = e.name := by
  unfold arrangeEntity
  dsimp only
  cases m.get? e.name <;> rfl

/-- **What is written once is not changed when it is written again.** Its name stays, so that the
same place is found, and its place and size are overwritten with themselves. -/
theorem arrangeEntity_arrangeEntity (s : Settings) (m : PositionMap Float) (e : Entity) :
    arrangeEntity s m (arrangeEntity s m e) = arrangeEntity s m e := by
  unfold arrangeEntity
  cases h : m.get? e.name with
  | none => simp only [h, Option.map_none, Option.getD_none]
  | some p => simp only [h, Option.map_some, Option.getD_some, Entity.moveTo]

theorem entities_arrange (s : Settings) (p : Plan) :
    (d.arrange s p).diagram.entities = d.entities.map (arrangeEntity s p.positions) := by
  show (d.entities.map _).map _ = _
  rw [List.map_map]
  rfl

@[simp] theorem entityNames_arrange (s : Settings) (p : Plan) :
    (d.arrange s p).diagram.entityNames = d.entityNames := by
  rw [entityNames, entities_arrange, List.map_map]
  exact List.map_congr_left fun e _ => name_arrangeEntity s p.positions e

theorem arrange_arrange (s : Settings) (p : Plan) :
    (d.arrange s p).diagram.arrange s p = d.arrange s p := by
  have hentities : ((d.arrange s p).diagram.arrange s p).diagram.entities
      = (d.arrange s p).diagram.entities := by
    rw [entities_arrange, entities_arrange, List.map_map]
    exact List.map_congr_left fun e _ => arrangeEntity_arrangeEntity s p.positions e
  have hdiagram : ((d.arrange s p).diagram.arrange s p).diagram = (d.arrange s p).diagram :=
    congrArg (fun es => { d with entities := es }) hentities
  exact congrArg (fun d' => { d.arrange s p with diagram := d' }) hdiagram

/-! ## The same layout -/

/-- **A diagram that has been laid out is left as it is** when it is laid out again: the plan is
the same, since the names and ends are, and writing it a second time changes nothing. -/
theorem generate_of_generate {strategy : Option String} {s : Settings} {g : Generated}
    (h : d.generate strategy s = .ok g) : g.diagram.generate strategy s = .ok g := by
  rw [generate_eq] at h
  cases hp : d.plan strategy s with
  | error e =>
    rw [hp] at h
    cases h
  | ok p =>
    rw [hp] at h
    cases h
    have hplan : (d.arrange s p).diagram.plan strategy s = .ok p :=
      (plan_congr (entityNames_arrange s p) (ends_arrange s p) strategy s).trans hp
    rw [generate_eq, hplan, Except.map, arrange_arrange]

/-- **A layout depends only on the names of the entities and the ends of the relationships.**
Diagrams with the same of these get the same pattern, strategy and places, or fail alike; and to
lay out a diagram twice is to lay it out once. The names are compared as lists: in another order
entities are placed elsewhere. -/
theorem generate_congr (hn : d.entityNames = d'.entityNames) (he : d.ends = d'.ends)
    (strategy : Option String) (s : Settings) :
    (d.generate strategy s).map Generated.plan = (d'.generate strategy s).map Generated.plan ∧
      (d.generate strategy s >>= fun g => g.diagram.generate strategy s)
        = d.generate strategy s := by
  constructor
  · rw [map_plan_generate, map_plan_generate, plan_congr hn he]
  · cases h : d.generate strategy s with
    | error e => rfl
    | ok g => exact generate_of_generate h

/-- Two entities that are joined. -/
def couple : Diagram where
  entities := [{ name := "A" }, { name := "B" }]
  relationships := [{ source := "A", target := "B", cardinality := ⟨.one, .one⟩ }]

/-- The same names and ends, and other things about them. -/
def coupleDressed : Diagram where
  title := some "of two"
  entities := [
    { name := "A", attributes := [{ name := "id", primaryKey := true }], x := some 7, y := some 9 },
    { name := "B", weak := true, width := 10, height := 20 }]
  relationships := [
    { source := "A", target := "B", cardinality := ⟨.one, .zeroOrMany⟩, label := some "has",
      line := some 3 }]

theorem exists_layout_couple : ∃ m, couple.layout couple.analyze .grid {} = .ok m := by
  -- sorting is not evaluated, but there is nothing to sort
  have hsort : Layout.byDegree couple.analyze.graph couple.entityNames = ["A", "B"] :=
    List.mergeSort_of_pairwise (by decide)
  refine Except.exists_eq_ok_of_isOk ?_
  unfold layout spots Layout.raw
  dsimp only
  unfold Layout.grid
  rw [hsort]
  decide

theorem generate_congr_couple :
    couple.entityNames = coupleDressed.entityNames ∧ couple.ends = coupleDressed.ends ∧
      (couple.generate (some "grid-fallback") {}).isOk = true ∧
      (couple.generate (some "grid-fallback") {}).map Generated.plan
        = (coupleDressed.generate (some "grid-fallback") {}).map Generated.plan ∧
      (couple.generate (some "grid-fallback") {}
          >>= fun g => g.diagram.generate (some "grid-fallback") {})
        = couple.generate (some "grid-fallback") {} := by
  have hn : couple.entityNames = coupleDressed.entityNames := by decide
  have he : couple.ends = coupleDressed.ends := by decide
  obtain ⟨m, hm⟩ := exists_layout_couple
  refine ⟨hn, he, ?_, generate_congr hn he _ _⟩
  show (couple.layout couple.analyze .grid {} >>= _ : Except LayoutError Generated).isOk = true
  rw [hm]
  rfl

end Diagram

end ErDiagram
