import ErDiagram.Geometry.Segment
import ErDiagram.Refinement.Spacing

/-!
# Lines

An entity that lies on the line of a relationship that it has no part in is moved off it, if it
stays clear of all other entities. It stays on its side of the line.

The line is taken to be the segment between the two ends as they are when the relationship is
visited. It stays the same while the entities are gone through, since the ends of the relationship
are not moved, whereas the entities themselves are looked at where the map had them at that time:
one that is moved for this relationship is not looked at again for it.
-/

namespace ErDiagram.Refinement

variable {α : Type} [Scalar α]

/-- Where an entity goes that is too near to a segment: away from it at a right angle, as far as
is missing. An entity exactly on the line goes to the side that the normal points to, so that it
is moved at all. -/
def movedOff (buffer : α) (s : Segment α) (normal p : Point α) : Point α :=
  let side := (p.x - s.start.x) * normal.x + (p.y - s.start.y) * normal.y
  let sign : α := if side < 0 then -1 else 1
  let deficit := buffer - s.distance p
  ⟨p.x + sign * normal.x * deficit, p.y + sign * normal.y * deficit⟩

/-- Moves an entity off a segment if it is too near to it, and if where it would come to be is
clear of all others. It is left where it is otherwise: a move that cannot be made as it should be
is not made in part. -/
def clearEntity (buffer minDistance : α) (s : Segment α) (normal : Point α)
    (source target : String) (m : Moves α) (e : String × Point α) : Moves α :=
  let (name, p) := e
  if name = source ∨ name = target then m
  else if buffer ≤ s.distance p then m
  else
    let candidate := movedOff buffer s normal p
    if isClear m.positions minDistance [name] candidate then
      ⟨m.positions.insert name candidate, m.count + 1⟩
    else m

/-- **Moves entities off the line of a relationship** between two entities in different places.
Entities are gone through in the order of the map as it is at the start; the fold is over those
entries, while what an entity has to be clear of is the map as it has become. -/
def clearLine (buffer minDistance : α) (m : Moves α) (ends : String × String) : Moves α :=
  let (source, target) := ends
  if source = target then m
  else match m.positions.get? source, m.positions.get? target with
    | some p, some q =>
      let length := Scalar.norm (q.x - p.x) (q.y - p.y)
      if length ≤ 0 then m
      else
        let s : Segment α := ⟨p, q⟩
        m.positions.entries.foldl
          (clearEntity buffer minDistance s (s.normal length) source target) m
    | _, _ => m

/-- **Moves entities off the lines of all relationships**, one after the other. Each relationship
finds the entities where those before it have left them, and there is one pass only. -/
def clearLines (buffer minDistance : α) (ends : List (String × String))
    (m : PositionMap α) : Moves α :=
  ends.foldl (clearLine buffer minDistance) ⟨m, 0⟩

end ErDiagram.Refinement
