import ErDiagram.Connectivity.Graph
import ErDiagram.Layout.Error
import ErDiagram.Random.Twister

/-!
# Entities without a place

An entity that a strategy has left without a place, or with one that is not finite, is placed near
its neighbours: around their centroid, in eight directions in turn and ever farther away, until a
place is free. An entity that no place was found for stays in the map without a point, and nothing
can be placed beside it.

That this happens at all is due to coordinates that are no numbers. A place is taken if its
distance from all others is larger than that of the best one so far, which starts below zero; a
distance that is no number is not larger than anything, so that if all eight are so, there is no
best place. The map of this module, `SpotMap`, has such entities as keys without a point, and the
next entity that would have to compare its distance with theirs cannot be placed.

Directions wobble by a random number. The source of random numbers is passed along, and each
attempt takes one number whether or not its place is used, so that the places are the same on
every run.
-/

namespace ErDiagram.Layout

open Scalar (least)

/-- The sum of a list of numbers, from the first one on, starting with zero. -/
def sum (l : List Float) : Float := l.foldl (· + ·) 0.0

/-- The centroid of some points. -/
def centroid (l : List (Point Float)) : Point Float :=
  let n := Float.ofNat l.length
  ⟨sum (l.map (·.x)) / n, sum (l.map (·.y)) / n⟩

/-- The distance of a point from the nearest of some others; infinite without others. Of distances
that cannot be compared the first is taken, as the least of a list is found from the left. -/
def clearance (p : Point Float) : List (Point Float) → Float
  | [] => 1.0 / 0.0
  | q :: rest => Scalar.leastOf (p.distance q) (rest.map p.distance)

/-! ## Spots -/

/-- **Where entities are placed**; an entity that no place was found for has no point. It is a key
all the same: which entities a layout has does not depend on the numbers. -/
abbrev SpotMap := OrderedMap String (Option (Point Float))

/-- A map in which every entity has a point. -/
def SpotMap.ofPositions (m : PositionMap Float) : SpotMap := m.mapValues fun _ p => some p

/-- The points of some spots, if each of them has one. -/
def points : List (Option (Point Float)) → Except LayoutError (List (Point Float))
  | [] => .ok []
  | none :: _ => .error .noSpot
  | some p :: rest => (points rest).map (p :: ·)

/-- **The points of all entities**, if each of them has one. A layout that leaves an entity without
a point is no layout, so that this is where a map of spots becomes a map of points or an error. -/
def SpotMap.positions (m : SpotMap) : Except LayoutError (PositionMap Float) :=
  if m.values.all Option.isSome then .ok m.present else .error .noSpot

/-! ## Trying places -/

/-- How many places are tried. -/
def attempts : Nat := 8

/-- The distance of the first place that is tried. -/
def firstOffset : Float := 250

/-- How much farther away each further place is. -/
def offsetStep : Float := 15

/-- The distance to all other entities from which on a place is free. -/
def freeDistance : Float := 170

/-- The best place so far, with its distance from all other entities. There is none to start with,
and its distance is less than any that two places have. It stays so if no distance can be compared,
and then there is no place in the end either. -/
structure Best where
  /-- The place. -/
  point : Option (Point Float) := none
  /-- Its distance from the others. -/
  clearance : Float := -1.0

/-- **Tries places** in turn, up to the first that is free; otherwise the one that is farthest
from all others is taken. The recursion is on the attempts that are left. -/
def tryPlaces (base : Point Float) (others : List (Option (Point Float))) :
    (left : Nat) → (attempt : Nat) → Best → Twister →
      Except LayoutError (Option (Point Float) × Twister)
  | 0, _, best, t => .ok (best.point, t)
  | left + 1, attempt, best, t => do
    let (wobble, t) := t.between (-0.1) 0.1
    let turn := Float.ofNat attempt * FloatScalar.pi / 4.0 + wobble
    let offset := firstOffset + Float.ofNat attempt * offsetStep
    let p ← (base.toward turn offset).snapped
    let c := clearance p (← points others)
    if freeDistance ≤ c then pure (some p, t)
    else
      let best := if best.clearance < c then ⟨some p, c⟩ else best
      tryPlaces base others left (attempt + 1) best t

/-- What is known while entities are placed: each is placed with regard to those before it, and
goes on with their source of random numbers. -/
structure Placing where
  /-- The places so far. -/
  spots : SpotMap
  /-- The source of random numbers. -/
  random : Twister

/-- **Places an entity near its neighbours**, or near the centre if they have no place. It is
added at the end of the map. -/
def placeNear (g : Graph) (centre : Point Float) (s : Placing) (name : String) :
    Except LayoutError Placing := do
  let partners ← points ((g.neighbours name).filterMap s.spots.get?)
  let base := if partners.isEmpty then centre else centroid partners
  let (found, random) ← tryPlaces base s.spots.values attempts 0 {} s.random
  pure { spots := s.spots.insert name found, random }

/-- Whether an entity has a place that is finite. -/
def SpotMap.isPlaced (m : SpotMap) (name : String) : Bool :=
  (m.get? name).join.any Point.isFinite

/-- Places an entity again if it has no place or one that is not finite. Such a place is taken out
of the map first, so that the entity is not kept away from itself, and moves to the end of the
order. -/
def placeIfMissing (g : Graph) (centre : Point Float) (s : Placing) (name : String) :
    Except LayoutError Placing :=
  if s.spots.isPlaced name then .ok s
  else placeNear g centre { s with spots := s.spots.erase name } name

/-- Places the entities of a list one after the other. -/
def placeAll (g : Graph) (centre : Point Float) : Placing → List String →
    Except LayoutError Placing
  | s, [] => .ok s
  | s, name :: rest => do placeAll g centre (← placeIfMissing g centre s name) rest

/-- **Places all entities that have no place.** Those that are placed already do not move, and an
entity that is placed here counts for those after it. -/
def fillMissing (g : Graph) (names : List String) (centre : Point Float) (random : Twister)
    (m : SpotMap) : Except LayoutError SpotMap := do
  let s ← placeAll g centre { spots := m, random } names
  pure s.spots

end ErDiagram.Layout
