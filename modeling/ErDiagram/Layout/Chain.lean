import ErDiagram.Connectivity.Backbone
import ErDiagram.Layout.Missing

/-!
# Chains

The backbone of a diagram in a row from left to right, its branches below and above, and all other
entities in a column to the right.

The map is filled in this order and an entity keeps the first place it gets, so that a branch ends
where it meets an entity that is placed already. The measures are fixed numbers, except for the
distance of the rows in the column, which the settings give.
-/

namespace ErDiagram.Layout

namespace Chain

/-- Where the backbone starts. -/
def start : Point Float := ⟨400, 300⟩

/-- How far apart the entities of the backbone are. -/
def spacing : Float := 200

/-- How far apart the entities of a branch are. -/
def branchSpacing : Float := 180

/-- How far away from the backbone the column to the right is, besides one spacing. -/
def remainderGap : Float := 150

/-- The places of the backbone. -/
def backbonePlaces (backbone : List String) : List (String × Point Float) :=
  backbone.zipIdx.map fun (name, i) => (name, ⟨start.x + Float.ofNat i * spacing, start.y⟩)

/-- The place at some depth of the branch of some number: even branches hang below, odd ones stand
above, and each further two are shifted to the right, so that branches of one entity do not cover
each other. -/
def branchPlace (anchor : Point Float) (branch depth : Nat) : Point Float :=
  let direction : Float := if branch % 2 = 0 then 1 else -1
  let shift := Float.ofNat (branch / 2) * spacing / 2
  ⟨anchor.x + shift, anchor.y + direction * Float.ofNat depth * branchSpacing⟩

/-- Adds the branches of an entity of the backbone that start at the given neighbours. A branch
goes on as long as there is only one way, by the same step as a chain of the analysis
(`Graph.grow`), with all entities that have a place counting as seen. Only branches that are added
are numbered. -/
def addBranches (g : Graph) (anchor : Point Float) :
    (branch : Nat) → List String → PositionMap Float → PositionMap Float
  | _, [], m => m
  | branch, first :: rest, m =>
    if m.contains first then addBranches g anchor branch rest m
    else
      let unseen := g.names.filter fun n => !m.contains n && n != first
      let members := first :: g.grow (fun _ => true) unseen first
      let m := members.zipIdx.foldl
        (fun m (name, i) => m.insert name (branchPlace anchor branch (i + 1))) m
      addBranches g anchor (branch + 1) rest m

/-- Adds the branches of the whole backbone. -/
def addAllBranches (g : Graph) (backbone : List String) (m : PositionMap Float) :
    PositionMap Float :=
  backbone.foldl (fun m name =>
    match m.get? name with
    | some anchor => addBranches g anchor 0 (g.neighbours name) m
    | none => m) m

/-- Adds the entities that have no place yet, in a column to the right of the whole backbone:
those in other components, and those beyond a fork of a branch. -/
def addRemainder (names : List String) (backbone : List String) (rowHeight : Float)
    (m : PositionMap Float) : PositionMap Float :=
  let x := start.x + Float.ofNat backbone.length * spacing + remainderGap
  (names.filter (!m.contains ·)).zipIdx.foldl
    (fun m (name, i) => m.insert name ⟨x, start.y + Float.ofNat i * rowHeight⟩) m

end Chain

/-- **Places a diagram along its backbone.** A diagram without edges has no backbone, and all of
it is in the column. -/
def chain (g : Graph) (names : List String) (rowHeight : Float) (random : Twister) :
    Except LayoutError SpotMap :=
  let backbone := g.backbone
  let m := Chain.addAllBranches g backbone (.ofList (Chain.backbonePlaces backbone))
  let m := Chain.addRemainder names backbone rowHeight m
  fillMissing g names Chain.start random (.ofPositions m)

end ErDiagram.Layout
