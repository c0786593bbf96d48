import ErDiagram.Diagram.Basic
import ErDiagram.Refinement.Bounds
import ErDiagram.Refinement.Lines
import ErDiagram.Refinement.Proximity

/-!
# Refinement

A layout is refined by four passes: entities are pushed apart, long relationships are tightened,
lines are cleared, and the whole is brought within the margin. Each pass is made once. The second
and the third pass move an entity only where it is clear of others, and the last one moves all
alike, so that the spacing of the first is meant to be kept; with which settings it is kept is the
subject of `ErDiagram.Proofs.Refinement.Spacing`.

All of it is about an arbitrary `Scalar`. The numbers that run are `Float`, and what is proved of
distances is proved over `ℝ`, of the same definitions. What needs no arithmetic, such as which
entities have a place, is proved for both at once.
-/

namespace ErDiagram

/-- The two ends of every relationship, in order. The passes read nothing else of a diagram, so
they are defined on this list and on a map. -/
def Diagram.ends (d : Diagram) : List (String × String) :=
  d.relationships.map fun r => (r.source, r.target)

namespace Refinement

/-- **What the passes are to achieve**: the part of the settings that refinement reads, over any
numbers. A statement about refinement in exact arithmetic is one about all values of this
structure, whereas the settings themselves hold the numbers that run. -/
structure Options (α : Type) where
  /-- The least distance between two entities, from the middle of one to the middle of the other.
  A distance counts as this one already if it is within the `tolerance`. -/
  minDistance : α
  /-- The greatest number of sweeps of the first pass, which may therefore end with entities that
  are still too close. -/
  sweeps : Nat
  /-- From which length on a relationship is long, so that its ends are pulled. -/
  threshold : α
  /-- The share of the way to the middle that each end is pulled: nothing at `0`, all the way at
  `1`, where both ends come to be in the same place. -/
  pull : α
  /-- The least distance of an entity from the lines of relationships that it has no part in. -/
  buffer : α
  /-- The least coordinate, on both axes. -/
  margin : α

variable {α : Type} [Scalar α]

/-- **Refines a layout** of a diagram whose relationships have the given ends: the four passes,
one after the other, each on the map that the one before has left. How many moves a pass has made
is not used. -/
def refine (o : Options α) (ends : List (String × String)) (m : PositionMap α) :
    PositionMap α :=
  let m := (resolveCollisions o.minDistance o.sweeps m).positions
  let m := (tighten o.threshold o.pull o.minDistance ends m).positions
  let m := (clearLines o.buffer o.minDistance ends m).positions
  enforceBounds o.margin m

end Refinement

end ErDiagram
