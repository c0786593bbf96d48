import ErDiagram.Layout.Chain
import ErDiagram.Layout.Force
import ErDiagram.Layout.Layered
import ErDiagram.Layout.Radial

/-!
# Placing a diagram

Each strategy places the entities of a diagram, given its analysis, and whatever a strategy leaves
without a finite place is then placed near its neighbours.

The result has two forms. `Diagram.spots` is the map of a layout as it comes out, in which every
entity is a key, but may have no point: where coordinates are no numbers, no distance can be
compared, and no place is found to be the best one. `Diagram.layout` is the map of points.
Whatever is done with a layout afterwards, refining it or writing it on a canvas, reads the points
and fails at an entity that has none, so that `layout` has an error there instead
(`LayoutError.noSpot`), and what comes after a layout can be defined on points. Which entities are
in a map is proved of both forms.
-/

namespace ErDiagram

namespace Settings

/-- The grid of the settings. -/
def gridFrame (s : Settings) : Layout.Frame Float where
  origin := ⟨s.gridStartX, s.gridStartY⟩
  width := s.gridCellWidth
  height := s.gridCellHeight

/-- The layers for a pattern: the gaps between entities and between layers, and in a linear
diagram the layers go to the right. -/
def layerFrame (s : Settings) (p : Pattern) : Layout.Layered.Frame Float :=
  let origin : Point Float := ⟨300, 200⟩
  let down (gap layerGap : Float) : Layout.Layered.Frame Float :=
    ⟨origin, false, gap + s.entityWidth, layerGap + s.entityHeight⟩
  match p with
  | .centralized => down 180 200
  | .linear => ⟨origin, true, 170 + s.entityHeight, 220 + s.entityWidth⟩
  | .distributed => down 160 180
  | .mixed => down 170 200

end Settings

namespace Layout

/-- **A grid with a number of columns**, or with as many as suit the number of entities. The number
may be anything that can be asked for. With zero columns no cell can be found, but this matters only
if there is something to put into one. -/
def gridOf (s : Settings) (g : Graph) (names : List String) (columns : Option Int) :
    Except LayoutError (PositionMap Float) :=
  let columns := columns.getD ↑(columnsFor names.length)
  if columns = 0 ∧ names ≠ [] then .error .divisionByZero
  else .ok (grid s.gridFrame columns g names)

/-- A diagram in layers, or in a grid if it has no layers. The grid is the way out when the
layered engine fails, which is why this strategy itself never does. -/
def layeredOrGrid (a : Analysis) (ends : List (String × String)) (names : List String)
    (s : Settings) : PositionMap Float :=
  match layered? (s.layerFrame a.pattern) a.graph ends names with
  | some m => m
  | none => grid s.gridFrame (columnsFor names.length) a.graph names

/-- **Places the names of a diagram by a strategy**, given the analysis and the ends of the
relationships. The names are those of the entities as they are declared, with repetitions: a list
without any is placed by no strategy, since some would divide by their number. -/
def raw (t : Strategy) (a : Analysis) (ends : List (String × String)) (names : List String)
    (s : Settings) : Except LayoutError SpotMap :=
  if names.isEmpty then .ok .empty
  else match t with
    | .radial => radial a names s
    | .chain => chain a.graph names s.gridCellHeight (.ofSeed s.layoutSeed)
    | .force => force a.graph names s
    | .layered => .ok (.ofPositions (layeredOrGrid a ends names s))
    | .grid => .ok (.ofPositions (grid s.gridFrame (columnsFor names.length) a.graph names))

/-- The strategy that is asked for by name, or the recommended one. An empty name asks for
nothing, like no name at all. -/
def choose (a : Analysis) (name : Option String) : Except LayoutError Strategy :=
  match name with
  | none => .ok a.strategy
  | some n =>
    if n.isEmpty then .ok a.strategy
    else match Strategy.ofName? n with
      | some t => .ok t
      | none => .error (.unknownStrategy n)

end Layout

/-- **Places a diagram**: every entity by a strategy, and those near their neighbours that the
strategy gives no finite place. This is the map as it is returned, in which an entity may be a key
without a point. -/
def Diagram.spots (d : Diagram) (a : Analysis) (t : Strategy) (s : Settings) :
    Except LayoutError Layout.SpotMap := do
  let m ← Layout.raw t a d.ends d.entityNames s
  Layout.fillMissing a.graph d.entityNames s.forceCenter (.ofSeed s.layoutSeed) m

/-- **Lays out a diagram**: places it, and asks that every entity has a point. Where the map of
`spots` has an entity without one, that map would be returned and the first to read the point
would fail; here this is the error `LayoutError.noSpot`, and no map. -/
def Diagram.layout (d : Diagram) (a : Analysis) (t : Strategy) (s : Settings) :
    Except LayoutError (PositionMap Float) := do
  (← d.spots a t s).positions

end ErDiagram
