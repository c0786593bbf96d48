import ErDiagram.Connectivity.Graph
import ErDiagram.Layout.Missing
import ErDiagram.Settings.Basic

/-!
# Layouts by forces

Entities start on a circle and move for a fixed number of steps: all repel each other, and those
that are related attract each other like springs.

The forces of a step are computed from the places before it, and all entities move at once. Places
and forces are therefore held by number and not by name: a name that is declared twice has two
places on the circle, of which only the last takes part in the springs. Sums are made in the order
of the pairs, since rounded numbers add up differently in another order.
-/

namespace ErDiagram.Layout

namespace Force

/-- A force, or a step. -/
abbrev Vector := Point Float

/-- A force of some strength along a vector of some length. -/
def along (strength length : Float) (d : Vector) : Vector :=
  ⟨strength * d.x / length, strength * d.y / length⟩

/-- Adds a force to the one at a place of a list of forces. -/
def push (fs : Array Vector) (i : Nat) (f : Vector) : Array Vector :=
  fs.modify i fun g => ⟨g.x + f.x, g.y + f.y⟩

/-- Takes a force from the one at a place of a list of forces. -/
def pull (fs : Array Vector) (i : Nat) (f : Vector) : Array Vector :=
  fs.modify i fun g => ⟨g.x - f.x, g.y - f.y⟩

/-- The place of an entity. -/
def place (ps : Array (Point Float)) (i : Nat) : Point Float := ps.getD i ⟨0, 0⟩

/-- **How one point repels another**: as the inverse square of their distance, which counts as at
least one, so that near points are not driven away without bound. Two points in the same place
repel each other horizontally. -/
def repulsion (strength : Float) (p q : Point Float) : Vector :=
  let d : Vector := ⟨p.x - q.x, p.y - q.y⟩
  let length := Norm.norm d.x d.y
  let (d, length) : Vector × Float := if length < 1e-6 then (⟨1, 0⟩, 1) else (d, length)
  let length := Scalar.greatest length 1
  along (strength / (length * length)) length d

/-- **How a spring pulls a point to another**: in proportion to what it is longer than its rest
length. A spring that is shorter pushes. -/
def attraction (strength rest : Float) (p q : Point Float) : Vector :=
  let d : Vector := ⟨q.x - p.x, q.y - p.y⟩
  let length := Scalar.greatest (Norm.norm d.x d.y) 1
  along (strength * (length - rest)) length d

/-- The pairs of places of which the first is less, in order. -/
def pairs (n : Nat) : List (Nat × Nat) :=
  (List.range n).flatMap fun i => (List.range (n - (i + 1))).map fun k => (i, i + 1 + k)

/-- **The forces on all entities.** Each pair is gone through once, and what is added to one is
taken from the other. -/
def forces (s : Settings) (edges : List (Nat × Nat)) (ps : Array (Point Float)) :
    Array Vector :=
  let none := ps.map fun _ => (⟨0, 0⟩ : Vector)
  let repelled := (pairs ps.size).foldl (fun fs (i, k) =>
    let f := repulsion s.forceRepulsion (place ps i) (place ps k)
    pull (push fs i f) k f) none
  edges.foldl (fun fs (i, k) =>
    let f := attraction s.forceAttraction s.forceSpringLength (place ps i) (place ps k)
    pull (push fs i f) k f) repelled

/-- **The step that a force makes**: damped, and not longer than allowed. A step of no length can
be longer than allowed only if the greatest length is negative; it cannot be shortened then. -/
def step (s : Settings) (f : Vector) : Except LayoutError Vector :=
  let x := f.x * s.forceDamping
  let y := f.y * s.forceDamping
  let length := Norm.norm x y
  if s.forceMaxStep < length then
    if length == 0.0 then .error .divisionByZero
    else
      let scale := s.forceMaxStep / length
      .ok ⟨x * scale, y * scale⟩
  else .ok ⟨x, y⟩

/-- Moves every entity by the step that its force makes. The first step that cannot be made is an
error for all. -/
def move (s : Settings) : List (Point Float) → List Vector → Except LayoutError (List (Point Float))
  | p :: ps, f :: fs => do
    let d ← step s f
    let rest ← move s ps fs
    pure (⟨p.x + d.x, p.y + d.y⟩ :: rest)
  | _, _ => .ok []

/-- Moves all entities some number of times. -/
def run (s : Settings) (edges : List (Nat × Nat)) :
    (steps : Nat) → Array (Point Float) → Except LayoutError (Array (Point Float))
  | 0, ps => .ok ps
  | steps + 1, ps => do
    let moved ← move s ps.toList (forces s edges ps).toList
    run s edges steps moved.toArray

/-- The places that entities start from: on a circle, with radii that vary. Each takes one random
number, and the source is given back, since the entities without a place go on with it. -/
def circle (s : Settings) (count : Nat) :
    (left index : Nat) → Twister → List (Point Float) × Twister
  | 0, _, t => ([], t)
  | left + 1, index, t =>
    let angle := 2 * FloatScalar.pi * Float.ofNat index / Float.ofNat count
    let (u, t) := t.unit
    let radius := s.forceRadius * (0.8 + 0.4 * u)
    let (rest, t) := circle s count left (index + 1) t
    (s.forceCenter.toward angle radius :: rest, t)

/-- The last place of a name in a list. A table from names to places that is filled in order keeps
the last one. -/
def lastIndex (names : List String) (name : String) : Nat :=
  names.length - 1 - names.reverse.idxOf name

/-- Rounds the places of names, one after the other. -/
def snapAll : List (String × Point Float) → PositionMap Float →
    Except LayoutError (PositionMap Float)
  | [], m => .ok m
  | (name, p) :: rest, m => do snapAll rest (m.insert name (← p.snapped))

end Force

/-- **Places a diagram by forces.** A single entity is put in the centre, and not rounded. -/
def force (g : Graph) (names : List String) (s : Settings) : Except LayoutError SpotMap :=
  match names with
  | [] => .ok .empty
  | [name] => .ok (OrderedMap.empty.insert name (some s.forceCenter))
  | _ => do
    let (start, random) := Force.circle s names.length names.length 0 (.ofSeed s.layoutSeed)
    let edges := g.indexedEdges.map fun (i, k) =>
      let at? := fun i => Force.lastIndex names (g.names.getD i "")
      (at? i, at? k)
    let ps ← Force.run s edges s.forceIterations.toNat start.toArray
    let m ← Force.snapAll (names.zip ps.toList) .empty
    fillMissing g names s.forceCenter random (.ofPositions m)

end ErDiagram.Layout
