import ErDiagram.Connectivity.Structure
import ErDiagram.Decimal.Reading

/-!
# Patterns and strategies

Which shape dominates a diagram is decided by how large a share of its entities hubs, chains and
clusters cover. The shape and the size of the diagram then recommend a strategy for its layout.
Shares are compared as fractions, without rounding.

Both functions also have answers for numbers that no diagram has, such as a negative number of
entities: they are asked for such numbers in their own right, and the order in which the cases are
tried decides.
-/

namespace ErDiagram

/-- **A part of a whole.** What is called the whole may be any whole number, also one that is less
than the part. A share is kept as two numbers until it is reported, so that a comparison with a
bound is not one of rounded quotients. -/
structure Share where
  /-- How much there is of the part. -/
  part : Nat
  /-- How much there is in all. -/
  whole : Int
deriving Repr, DecidableEq

namespace Share

/-- Whether a share is greater than `num / den`. Of nothing every share is zero, and of less
than nothing none is greater. -/
def exceeds (s : Share) (num den : Nat) : Bool :=
  0 < s.whole && num * s.whole < s.part * den

/-- The share as a number. -/
def toFloat (s : Share) : Float :=
  if s.whole = 0 then 0.0 else Float.ofNat s.part / Float.ofInt s.whole

/-- The share as a number with four decimal places. -/
def rounded (s : Share) : Float :=
  match Dyadic.ofFloat? s.toFloat with
  | none => s.toFloat
  | some d =>
    let (num, den) := d.fraction
    Decimal.toFloat d.negative (roundDiv (num * 10000) den) (-4)

end Share

/-- **The shape of a diagram.** -/
inductive Pattern where
  | centralized
  | linear
  | distributed
  | mixed
deriving Repr, DecidableEq

namespace Pattern

/-- The four patterns. -/
def all : List Pattern := [centralized, linear, distributed, mixed]

/-- The name of a pattern. -/
def name : Pattern → String
  | centralized => "centralized"
  | linear => "linear"
  | distributed => "distributed"
  | mixed => "mixed"

/-- The pattern of a name. -/
def ofName? (s : String) : Option Pattern := all.find? fun p => p.name == s

end Pattern

/-- **A way to lay out a diagram.** The names under which strategies are known are those of
`Strategy.name`; the constructors say what each does. -/
inductive Strategy where
  | radial
  | chain
  | force
  | layered
  | grid
deriving Repr, DecidableEq

namespace Strategy

/-- The five strategies. -/
def all : List Strategy := [radial, chain, force, layered, grid]

/-- The name of a strategy. -/
def name : Strategy → String
  | radial => "custom-radial"
  | chain => "chain-sequential"
  | force => "adaptive-force"
  | layered => "elk-layered"
  | grid => "grid-fallback"

/-- The strategy of a name. -/
def ofName? (s : String) : Option Strategy := all.find? fun t => t.name == s

end Strategy

/-- **How much of a diagram each kind of structure covers.** -/
structure Coverage where
  /-- The hubs and their neighbours. -/
  hubs : Share
  /-- The chains. -/
  chains : Share
  /-- The clusters. -/
  clusters : Share
deriving Repr, DecidableEq

namespace Coverage

/-- The coverage of a diagram with some number of entities. Each entity counts once among hubs and
their neighbours, though it may be a neighbour of several; chains and clusters share no entity
among themselves. -/
def of (entities : Int) (hubs : List Hub) (chains : List Chain) (clusters : List Cluster) :
    Coverage where
  hubs := ⟨(hubs.flatMap fun h => h.entity :: h.neighbours).eraseDups.length, entities⟩
  chains := ⟨(chains.flatMap (·.entities)).length, entities⟩
  clusters := ⟨(clusters.flatMap (·.entities)).length, entities⟩

/-- **The pattern of a coverage**: more than three fifths for hubs or for chains, or more than
half for clusters, the first of these that holds. A diagram may satisfy several. -/
def pattern (c : Coverage) : Pattern :=
  if c.hubs.exceeds 3 5 then .centralized
  else if c.chains.exceeds 3 5 then .linear
  else if c.clusters.exceeds 1 2 then .distributed
  else .mixed

end Coverage

/-- **The strategy for a pattern** and a number of entities and of joined pairs. Few entities,
or none that are joined, have no structure to show. -/
def Strategy.recommended (p : Pattern) (entities edges : Int) : Strategy :=
  if entities ≤ 3 || edges == 0 then grid
  else match p with
    | .centralized => radial
    | .linear => layered
    | .distributed => if entities ≤ 15 then force else layered
    | .mixed => if entities ≤ 10 then force else layered

end ErDiagram
