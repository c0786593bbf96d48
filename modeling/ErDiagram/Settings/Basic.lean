import ErDiagram.Refinement.Passes

/-!
# Settings

The numbers that layouts are made with, and where and how much is logged. Every setting has a
default, and none has a range: a size may be negative, a number of sweeps zero, and a coordinate
infinite. What is proved about layouts has to say for which settings it holds.

A pass of the refinement is not given the settings but `Refinement.Options`, with the few numbers
that it reads. The options are generic in their numbers and the settings are not, for settings are
read from texts, whereas a pass can also be run with exact numbers.
-/

namespace ErDiagram

/-- **The settings of the compiler.** They are one record for all strategies, of which each reads a
few fields. Whole numbers may be negative and the others anything that a `Float` can be, as nothing
but the kind of a value is checked when a setting is read. -/
structure Settings where
  /-- The least level of messages that are logged. -/
  logLevel : String := "INFO"
  /-- The file that messages are logged to, besides the standard error output. -/
  logFile : Option String := none
  /-- What all random numbers of a layout follow from. -/
  layoutSeed : Int := 42
  /-- The width of entities. -/
  entityWidth : Float := 120
  /-- The height of entities. -/
  entityHeight : Float := 80
  /-- How many steps a layout by forces takes. -/
  forceIterations : Int := 50
  /-- How strongly entities repel each other. -/
  forceRepulsion : Float := 200000
  /-- How strongly related entities attract each other. -/
  forceAttraction : Float := 0.1
  /-- The distance at which related entities do not attract each other. -/
  forceSpringLength : Float := 200
  /-- The share of a force that becomes motion. -/
  forceDamping : Float := 0.9
  /-- The greatest length of one step. -/
  forceMaxStep : Float := 50
  /-- The horizontal coordinate of the centre. -/
  forceCenterX : Float := 600
  /-- The vertical coordinate of the centre. -/
  forceCenterY : Float := 400
  /-- The radius of the circle that entities start from. -/
  forceRadius : Float := 300
  /-- The width of the cells of a grid. -/
  gridCellWidth : Float := 200
  /-- The height of the cells of a grid. -/
  gridCellHeight : Float := 150
  /-- The horizontal coordinate of the first cell. -/
  gridStartX : Float := 300
  /-- The vertical coordinate of the first cell. -/
  gridStartY : Float := 200
  /-- The least distance between two entities. -/
  minDistance : Float := 140
  /-- From which length on a relationship is long. -/
  proximityThreshold : Float := 400
  /-- The share of the way to the middle that the ends of a long relationship are pulled. -/
  proximityPull : Float := 0.1
  /-- The least distance of an entity from the lines of other relationships. -/
  lineBuffer : Float := 70
  /-- The least coordinate. -/
  margin : Float := 50
  /-- How many sweeps push entities apart at most. -/
  collisionSweeps : Int := 100

namespace Settings

instance : Inhabited Settings := ⟨{}⟩

/-- The centre of a layout by forces. -/
def forceCenter (s : Settings) : Point Float := ⟨s.forceCenterX, s.forceCenterY⟩

/-- What the passes of refinement are to achieve. -/
def refinement (s : Settings) : Refinement.Options Float where
  minDistance := s.minDistance
  sweeps := s.collisionSweeps.toNat
  threshold := s.proximityThreshold
  pull := s.proximityPull
  buffer := s.lineBuffer
  margin := s.margin

end Settings

end ErDiagram
