import ErDiagram.Geometry.Scalar

/-!
# Segments

The point of a segment that is nearest to a given point, and how far away it is.

A relationship is drawn as a straight line between two entities, and whether a third one lies on
this line is asked of the segment and not of the line through its ends: an entity that lies beyond
an end is as far away as the end is. A segment whose ends are in one place has this place as its
only point.
-/

namespace ErDiagram

variable {α : Type} [Scalar α]

/-- **A segment between two points.** It has a direction, which is that of its relationship, but
what is asked of it is the same from either end. The two ends may be one point. -/
structure Segment (α : Type) where
  /-- The point where it starts. -/
  start : Point α
  /-- The point where it ends. -/
  finish : Point α
deriving Repr, DecidableEq

namespace Segment

/-- The square of the length. The root is not taken, since a point is projected with the square. -/
def lengthSquared (s : Segment α) : α :=
  let dx := s.finish.x - s.start.x
  let dy := s.finish.y - s.start.y
  dx * dx + dy * dy

/-- **The point of a segment that is nearest to a point**: the foot of the perpendicular, or the
end that it lies beyond. How far along the foot lies is a share of the segment, which is cut off
at its two ends. -/
def nearest (s : Segment α) (p : Point α) : Point α :=
  let dx := s.finish.x - s.start.x
  let dy := s.finish.y - s.start.y
  if s.lengthSquared ≤ 0 then s.start
  else
    let along := ((p.x - s.start.x) * dx + (p.y - s.start.y) * dy) / s.lengthSquared
    let t := Scalar.greatest 0 (Scalar.least 1 along)
    ⟨s.start.x + t * dx, s.start.y + t * dy⟩

/-- **The distance of a point from a segment.** It is the distance from one point of the segment,
and that no other point of it is nearer is proved for real coordinates. -/
def distance (s : Segment α) (p : Point α) : α := p.distance (s.nearest p)

/-- The unit vector at a right angle to a segment of the given length. The length is an argument
because it has been computed already, and because a segment without one has no normal. -/
def normal (s : Segment α) (length : α) : Point α :=
  ⟨-(s.finish.y - s.start.y) / length, (s.finish.x - s.start.x) / length⟩

end Segment

end ErDiagram
