import ErDiagram.Geometry.Scalar

/-!
# Spacing

Entities that are too close to each other are pushed apart. All pairs are visited in turn, again
and again until nothing has to be moved or there have been enough sweeps.

A sweep moves entities while it is on its way, so that a pair is looked at where the pairs before
have left it. This makes the order of the pairs a part of what a sweep does: the pairs are those
of the map's order, the first entity with all after it, then the second with all after it.

Two tests say that two entities are near. `tooClose` is what the later passes ask of a place
before they move an entity there; `isApart` is what the first pass asks before it pushes. Over
numbers with an order they are opposites of each other, but not where a number is none at all:
both comparisons are then false, so that such an entity is clear of all others and yet is pushed.
-/

namespace ErDiagram.Refinement

variable {α : Type} [Scalar α]

/-- How much closer than the least distance two entities may be without counting as close. A push
makes the distance a little larger than asked, and this is the other half of what keeps rounding
from making a pair too close again. -/
def tolerance : α := 1e-6

/-- Whether two points are too close to each other. -/
def tooClose (minDistance : α) (p q : Point α) : Bool := p.distance q < minDistance - tolerance

/-- **Whether a point is clear** of all entities but the ones that are ignored. Those that are
ignored are the entities that are about to move: they are still in the map, in a place that they
leave. -/
def isClear (m : PositionMap α) (minDistance : α) (ignored : List String) (p : Point α) : Bool :=
  m.entries.all fun e => ignored.contains e.1 || !tooClose minDistance p e.2

/-- **What a pass has done**: the map after it, and how many times it moved something. The count
is what ends the first pass, and it says of a sweep whether it has changed anything, which two
maps of rounded numbers would have to be compared for otherwise. -/
structure Moves (α : Type) where
  /-- The map after the pass. -/
  positions : PositionMap α
  /-- How many moves there were; a pair that moves together is one. -/
  count : Nat

/-- The direction in which two entities are pushed apart: along the line through them, or, if they
are in the same place, in a direction that the place of the first in the map decides. That is a
multiple of the golden section of a turn, so that many entities in one place are pushed in many
directions, and in the same ones every time. -/
def pushAngle (i : Nat) (p q : Point α) (distance : α) : α :=
  if distance < 1e-9 then
    Scalar.remainder (Scalar.ofNat i * 0.618033988749895) 1 * 2 * Scalar.pi
  else Scalar.angle (q.y - p.y) (q.x - p.x)

/-- **Pushes two points apart**, each by half of what is missing and a little more, so that they
have the least distance although the result is rounded. -/
def pushApart (minDistance : α) (i : Nat) (p q : Point α) : Point α × Point α :=
  let distance := Scalar.norm (q.x - p.x) (q.y - p.y)
  let angle := pushAngle i p q distance
  let push := (minDistance - distance) / 2 + 1e-3
  let dx := push * Scalar.cos angle
  let dy := push * Scalar.sin angle
  (⟨p.x - dx, p.y - dy⟩, ⟨q.x + dx, q.y + dy⟩)

/-- Whether two points need not be pushed apart. -/
def isApart (minDistance : α) (p q : Point α) : Bool :=
  minDistance - tolerance ≤ Scalar.norm (q.x - p.x) (q.y - p.y)

/-- Two entities, the first being the one that comes first in the map, at place `place`. The place
is kept because it decides the direction of a push where both are in the same place. -/
structure Pair where
  /-- The place of the first entity. -/
  place : Nat
  /-- The first entity. -/
  first : String
  /-- The second entity. -/
  second : String
deriving Repr, DecidableEq

/-- The pairs of a list of entities, whose first one has the given place: the first one with every
later one, and then the pairs of the rest. The recursion is that of the two loops. -/
def pairsFrom (place : Nat) : List String → List Pair
  | [] => []
  | a :: rest => rest.map (Pair.mk place a) ++ pairsFrom (place + 1) rest

/-- Pushes a pair apart if it is too close. The places are read from the map as it has become, and
an entity without a place is in no pair. -/
def correctPair (minDistance : α) (s : Moves α) (p : Pair) : Moves α :=
  match s.positions.get? p.first, s.positions.get? p.second with
  | some a, some b =>
    if isApart minDistance a b then s
    else
      let (a, b) := pushApart minDistance p.place a b
      ⟨(s.positions.insert p.first a).insert p.second b, s.count + 1⟩
  | _, _ => s

/-- **Visits all pairs once.** The pairs are those of the map at the start; a push changes places
but neither the entities nor their order. -/
def sweep (minDistance : α) (m : PositionMap α) : Moves α :=
  (pairsFrom 0 m.keys).foldl (correctPair minDistance) ⟨m, 0⟩

/-- **Pushes entities apart** by sweeps, up to the first that moves nothing. The recursion is on
the number of sweeps that are still allowed, so that a pass that would go on for ever ends there,
with the map that the last sweep has left. -/
def resolveCollisions (minDistance : α) : (sweeps : Nat) → PositionMap α → Moves α
  | 0, m => ⟨m, 0⟩
  | sweeps + 1, m =>
    let s := sweep minDistance m
    if s.count = 0 then s
    else
      let later := resolveCollisions minDistance sweeps s.positions
      ⟨later.positions, s.count + later.count⟩

end ErDiagram.Refinement
