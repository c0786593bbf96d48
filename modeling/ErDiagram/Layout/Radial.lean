import ErDiagram.Connectivity.Analysis
import ErDiagram.Layout.Grid
import ErDiagram.Layout.Missing
import ErDiagram.Layout.Ring
import ErDiagram.Settings.Basic

/-!
# Radial layouts

The first hub in the centre, the others on a ring around it, and everything else around these:
chains go outward from a hub, entities with one neighbour surround it, and what has no hub lies
outside.

The layout is made by six steps, one after the other on the same map: hubs, chains that hang on a
hub, satellites, chains that hang on none, clusters, and isolated entities. Each step passes over
what an earlier one has placed. Together with what the analysis says of hubs, chains and clusters
this decides which step an entity is placed by, and some steps have nothing to do in any diagram;
see `ErDiagram.Proofs.Layout.Radial`.

Where an angle or a distance is computed, the point is rounded to whole coordinates, and an error
comes up if that cannot be done. Rows and the square of isolated entities are made of given
numbers and are not rounded.
-/

namespace ErDiagram.Layout

namespace Radial

/-- **The measures of a radial layout.** They depend on the number of entities only, and on no
setting. So they are finite whatever the settings are. -/
structure Measures where
  /-- The centre. -/
  centre : Point Float
  /-- The radius of the ring of hubs. -/
  hubRadius : Float
  /-- How far apart the entities of a chain are. -/
  chainSpacing : Float

/-- The measures for a number of entities. More entities make the ring wider and chains longer,
within bounds. They are computed with whole numbers. -/
def measures (n : Nat) : Measures where
  centre := if n ≤ 5 then ⟨500, 350⟩ else ⟨600, 400⟩
  hubRadius := Float.ofNat (max 200 (min 400 (150 + 15 * n)))
  chainSpacing := Float.ofNat (max 180 (min 250 (200 + 5 * n)))

/-- A point in some direction and distance from another, with whole coordinates. -/
def around (p : Point Float) (angle distance : Float) : Except LayoutError (Point Float) :=
  (p.toward angle distance).snapped

/-! ## Hubs -/

/-- The direction of a hub seen from the centre: toward the neighbours that have a place
elsewhere, or else the given one. So a hub comes to stand on the side of the entities that it is
joined with. -/
def hubAngle (centre : Point Float) (m : PositionMap Float) (h : Hub) (uniform : Float) : Float :=
  let placed := (h.neighbours.filterMap m.get?).filter fun p =>
    !(p.x == centre.x && p.y == centre.y)
  if placed.isEmpty then uniform
  else
    let c := centroid placed
    if 1e-6 < (c.x - centre.x).abs || 1e-6 < (c.y - centre.y).abs then
      Float.atan2 (c.y - centre.y) (c.x - centre.x)
    else uniform

/-- **The first free place on the ring** among the turns that are left, or the given place. The
turns are half steps, so that places between those of the other hubs are tried as well. -/
def freeOnRing (o : Measures) (minDistance uniform step : Float) (others : List (Point Float))
    (fallback : Point Float) : (left turn : Nat) → Except LayoutError (Point Float)
  | 0, _ => .ok fallback
  | left + 1, turn => do
    let p ← around o.centre (uniform + Float.ofNat turn * step / 2) o.hubRadius
    if minDistance ≤ clearance p others then pure p
    else freeOnRing o minDistance uniform step others fallback left (turn + 1)

/-- The place of a hub, which is the one of some index among `count` hubs on the ring. -/
def hubPlace (o : Measures) (minDistance : Float) (count : Nat) (m : PositionMap Float)
    (index : Nat) (h : Hub) : Except LayoutError (Point Float) := do
  let uniform := Float.ofNat index * 2 * FloatScalar.pi / Float.ofNat count
  let p ← around o.centre (hubAngle o.centre m h uniform) o.hubRadius
  if clearance p m.values < minDistance then
    let slots := max count 8
    let step := 2 * FloatScalar.pi / Float.ofNat slots
    freeOnRing o minDistance uniform step m.values p (2 * slots - 1) 1
  else pure p

/-- Places hubs on the ring, one after the other. -/
def placeHubs (o : Measures) (minDistance : Float) (count : Nat) :
    (index : Nat) → List Hub → PositionMap Float → Except LayoutError (PositionMap Float)
  | _, [], m => .ok m
  | index, h :: rest, m => do
    let p ← hubPlace o minDistance count m index h
    placeHubs o minDistance count (index + 1) rest (m.insert h.entity p)

/-- **Places all hubs**, the first one in the centre. The ring is for the others, so that it is
divided by their number and not by that of all hubs. -/
def placeAllHubs (o : Measures) (minDistance : Float) (hubs : List Hub) :
    Except LayoutError (PositionMap Float) :=
  match hubs with
  | [] => .ok .empty
  | first :: rest =>
    placeHubs o minDistance rest.length 0 rest (OrderedMap.empty.insert first.entity o.centre)

/-! ## Chains -/

/-- The hub that a chain hangs on: the first of its entities that is a placed hub or has one as a
neighbour decides. It is the hub that the chain is drawn outward from. -/
def anchor? (g : Graph) (hubs : List String) (m : PositionMap Float) :
    List String → Option String
  | [] => none
  | name :: rest =>
    let isAnchor := fun n => hubs.contains n && m.contains n
    if isAnchor name then some name
    else match (g.neighbours name).find? isAnchor with
      | some n => some n
      | none => anchor? g hubs m rest

/-- Places the entities of a chain outward from a point, those that have no place yet. Those that
have one take up no room: the next entity comes where they would have been. -/
def placeOutward (o : Measures) (origin : Point Float) (angle : Float) :
    (step : Nat) → List String → PositionMap Float → Except LayoutError (PositionMap Float)
  | _, [], m => .ok m
  | step, name :: rest, m =>
    if m.contains name then placeOutward o origin angle step rest m
    else do
      let p ← around origin angle (o.hubRadius + 50 + Float.ofNat step * o.chainSpacing)
      placeOutward o origin angle (step + 1) rest (m.insert name p)

/-- **Places the chains that hang on a hub**, each in one of four directions, and gives the other
chains back. Directions are counted over all chains, also over those that are given back. -/
def placeChains (o : Measures) (g : Graph) (hubs : List String) :
    (index : Nat) → List Chain → PositionMap Float →
      Except LayoutError (PositionMap Float × List Chain)
  | _, [], m => .ok (m, [])
  | index, c :: rest, m =>
    match anchor? g hubs m c.entities with
    | none => do
      let (m, free) ← placeChains o g hubs (index + 1) rest m
      pure (m, c :: free)
    | some a => do
      let origin := (m.get? a).getD o.centre
      let angle := Float.ofNat index * FloatScalar.pi / 2
      let m ← placeOutward o origin angle 0 c.entities m
      placeChains o g hubs (index + 1) rest m

/-- Places the entities of a chain in a row. -/
def placeInRow (o : Measures) (y : Float) :
    (step : Nat) → List String → PositionMap Float → PositionMap Float
  | _, [], m => m
  | step, name :: rest, m =>
    if m.contains name then placeInRow o y step rest m
    else
      let x := o.centre.x - 200 + Float.ofNat step * o.chainSpacing
      placeInRow o y (step + 1) rest (m.insert name ⟨x, y⟩)

/-- Places chains that hang on no hub in rows below the ring. -/
def placeFreeChains (o : Measures) (rowHeight : Float) (chains : List Chain)
    (m : PositionMap Float) : PositionMap Float :=
  chains.zipIdx.foldl (fun m (c, row) =>
    placeInRow o (o.centre.y + o.hubRadius + 100 + Float.ofNat row * rowHeight) 0 c.entities m) m

/-! ## Satellites -/

/-- How far satellites are from all hubs but the first. -/
def satelliteRadius : Float := 180

/-- Places entities in given directions from a point. -/
def placeAround (centre : Point Float) (radius : Float) :
    List (String × Float) → PositionMap Float → Except LayoutError (PositionMap Float)
  | [], m => .ok m
  | (name, angle) :: rest, m => do
    placeAround centre radius rest (m.insert name (← around centre angle radius))

/-- **Places the satellites of a hub**: its neighbours that have no other neighbour and no place.
Their directions keep clear of those neighbours that have a place. -/
def placeSatellites (o : Measures) (g : Graph) (first : Bool) (h : Hub)
    (m : PositionMap Float) : Except LayoutError (PositionMap Float) :=
  match m.get? h.entity with
  | none => .ok m
  | some p =>
    let satellites := h.neighbours.filter fun n => !m.contains n && g.degree n == 1
    if satellites.isEmpty then .ok m
    else do
      let taken := (h.neighbours.filterMap m.get?).map fun q => Float.atan2 (q.y - p.y) (q.x - p.x)
      let angles ← ringAngles satellites.length taken
      placeAround p (if first then o.hubRadius else satelliteRadius) (satellites.zip angles) m

/-- Places the satellites of all hubs. -/
def placeAllSatellites (o : Measures) (g : Graph) (main : Option String) :
    List Hub → PositionMap Float → Except LayoutError (PositionMap Float)
  | [], m => .ok m
  | h :: rest, m => do
    placeAllSatellites o g main rest (← placeSatellites o g (main == some h.entity) h m)

/-! ## Clusters and isolated entities -/

/-- How far beyond the ring of hubs the zones of clusters are. -/
def zoneMargin : Float := 200

/-- The centre of a zone: right, left, below and above in turn. -/
def zone (o : Measures) (index : Nat) : Point Float :=
  let d := o.hubRadius + zoneMargin
  match index % 4 with
  | 0 => ⟨o.centre.x + d, o.centre.y⟩
  | 1 => ⟨o.centre.x - d, o.centre.y⟩
  | 2 => ⟨o.centre.x, o.centre.y + d⟩
  | _ => ⟨o.centre.x, o.centre.y - d⟩

/-- The radius of the circle of a cluster, on which neighbours keep their distance. It is the
greatest of a fixed radius, one in proportion to the number of entities, and the one on which
neighbours are the least distance apart. -/
def clusterRadius (minDistance : Float) (count : Nat) : Float :=
  let n := Float.ofNat count
  let wide := minDistance / (2 * (FloatScalar.pi / n).sin)
  Scalar.greatest (Scalar.greatest 80 (15 * n)) wide

/-- **Places clusters of which nothing has a place yet**, each on a circle in a zone of its own. A
cluster that is passed over uses up no zone. -/
def placeClusters (o : Measures) (minDistance : Float) :
    (index : Nat) → List Cluster → PositionMap Float → Except LayoutError (PositionMap Float)
  | _, [], m => .ok m
  | index, c :: rest, m =>
    if c.entities.any m.contains then placeClusters o minDistance index rest m
    else do
      let n := c.entities.length
      let angles := (List.range n).map fun i =>
        Float.ofNat i * 2 * FloatScalar.pi / Float.ofNat n
      let m ← placeAround (zone o index) (clusterRadius minDistance n) (c.entities.zip angles) m
      placeClusters o minDistance (index + 1) rest m

/-- How far apart isolated entities are. -/
def isolatedSpacing : Nat := 150

/-- The coordinate that is a number of steps beyond another one. Steps are whole numbers, which
are not rounded before they are added, so that a number of steps that no coordinate reaches is an
error. -/
def beyond (x : Float) (steps : Nat) : Except LayoutError Float :=
  let y := x + Float.ofNat (steps * isolatedSpacing)
  if y.isFinite then .ok y else .error .tooGreat

/-- The place of some index in the square of isolated entities. -/
def squarePlace (o : Measures) (columns index : Nat) : Except LayoutError (Point Float) := do
  let x ← beyond (o.centre.x + o.hubRadius + 300) (index % columns)
  let y ← beyond (o.centre.y - 100) (index / columns)
  pure ⟨x, y⟩

/-- Places entities in the square, one after the other. -/
def placeInSquare (o : Measures) (columns : Nat) :
    (index : Nat) → List String → PositionMap Float → Except LayoutError (PositionMap Float)
  | _, [], m => .ok m
  | index, name :: rest, m => do
    let p ← squarePlace o columns index
    placeInSquare o columns (index + 1) rest (m.insert name p)

/-- The least whole number whose square is at least the given one. -/
def squareSide (n : Nat) : Nat := leastFrom (fun k => n ≤ k * k) (n + 1) 0

/-- **Places isolated entities** in a square to the right. None of them should have a place by now;
what has one is passed over all the same, as in every step, and the square is as large as what is
left. -/
def placeIsolated (o : Measures) (isolated : List String) (m : PositionMap Float) :
    Except LayoutError (PositionMap Float) :=
  let left := isolated.filter (!m.contains ·)
  placeInSquare o (squareSide left.length) 0 left m

end Radial

/-- **Places a diagram around its hubs.** The steps are made in this order; an entity that none of
them has placed is placed near its neighbours in the end. -/
def radial (a : Analysis) (names : List String) (s : Settings) :
    Except LayoutError SpotMap := do
  let o := Radial.measures names.length
  let hubNames := a.hubs.map (·.entity)
  let m ← Radial.placeAllHubs o s.minDistance a.hubs
  let (m, free) ← Radial.placeChains o a.graph hubNames 0 a.chains m
  let m ← Radial.placeAllSatellites o a.graph hubNames.head? a.hubs m
  let m := Radial.placeFreeChains o s.gridCellHeight free m
  let m ← Radial.placeClusters o s.minDistance 0 a.clusters m
  let m ← Radial.placeIsolated o a.isolated m
  fillMissing a.graph names o.centre (.ofSeed s.layoutSeed) (.ofPositions m)

end ErDiagram.Layout
