import ErDiagram.Refinement.Spacing

/-!
# Proximity

The two ends of a long relationship are pulled toward each other, if both stay clear of all other
entities. The pull is toward the point halfway between them, by the same share of the way for both
ends, so that the middle stays where it is.

Each end is compared with all entities but the two ends themselves, which move at the same time.
So neither end is compared with where the other one comes to be, and it is for the settings to
leave enough distance between them.
-/

namespace ErDiagram.Refinement

variable {α : Type} [Scalar α]

/-- A point pulled toward another by a share of the way. The share is a number of the settings and
is not bounded here: with more than `1` a point is pulled past the other. -/
def pulled (share : α) (p target : Point α) : Point α :=
  ⟨p.x + (target.x - p.x) * share, p.y + (target.y - p.y) * share⟩

/-- The point halfway between two points. -/
def midpoint (p q : Point α) : Point α := ⟨(p.x + q.x) / 2, (p.y + q.y) / 2⟩

/-- **Pulls the ends of a relationship together**, if they are different entities, far apart and
clear of all others where they come to be. Either both ends move, which counts as one move, or
none does. -/
def tightenPair (threshold share minDistance : α) (s : Moves α) (ends : String × String) :
    Moves α :=
  let (source, target) := ends
  if source = target then s
  else match s.positions.get? source, s.positions.get? target with
    | some p, some q =>
      if Scalar.norm (q.x - p.x) (q.y - p.y) ≤ threshold then s
      else
        let middle := midpoint p q
        let p := pulled share p middle
        let q := pulled share q middle
        let clear := isClear s.positions minDistance [source, target]
        if clear p && clear q then
          ⟨(s.positions.insert source p).insert target q, s.count + 1⟩
        else s
    | _, _ => s

/-- **Pulls the ends of all long relationships together**, one after the other. A relationship
that is declared twice is pulled twice if it is still long after the first time. -/
def tighten (threshold share minDistance : α) (ends : List (String × String))
    (m : PositionMap α) : Moves α :=
  ends.foldl (tightenPair threshold share minDistance) ⟨m, 0⟩

end ErDiagram.Refinement
