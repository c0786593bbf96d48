import ErDiagram.Geometry.Scalar

/-!
# Bounds

A layout is shifted as a whole, so that no coordinate is below the margin. The two axes are
treated alike and apart from each other: each has a shift of its own, which is what its least
coordinate lacks to the margin.

Whether anything has to be done is asked separately (`boundsShift?`), because the pass also
reports whether it has moved the map, and because a map that needs no shift is to be the same map
and not one with zero added to every number, which is a difference where numbers are rounded.
-/

namespace ErDiagram.Refinement

variable {α : Type} [Scalar α]

/-- How far the coordinates of one axis have to be shifted so that none is below the margin.
Coordinates are never shifted down, so that the result is at least zero; with no coordinate at all
there is nothing to be shifted, and nothing to take the least of. -/
def shiftFor (margin : α) : List α → α
  | [] => 0
  | c :: rest => Scalar.greatest 0 (margin - Scalar.leastOf c rest)

/-- A map with every point shifted. -/
def shifted (m : PositionMap α) (dx dy : α) : PositionMap α :=
  m.mapValues fun _ p => ⟨p.x + dx, p.y + dy⟩

/-- The shift that brings a map within the margin, if it needs one. It is one shift for both axes:
an axis that needs none is then shifted by zero, with the other one. -/
def boundsShift? (margin : α) (m : PositionMap α) : Option (α × α) :=
  let dx := shiftFor margin (m.values.map (·.x))
  let dy := shiftFor margin (m.values.map (·.y))
  if dx ≤ 0 ∧ dy ≤ 0 then none else some (dx, dy)

/-- **Brings a map within the margin**, by the same shift for all entities, so that their places
relative to each other stay what the passes before have made them. -/
def enforceBounds (margin : α) (m : PositionMap α) : PositionMap α :=
  match boundsShift? margin m with
  | none => m
  | some (dx, dy) => shifted m dx dy

end ErDiagram.Refinement
