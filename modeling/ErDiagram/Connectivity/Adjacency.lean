import ErDiagram.Connectivity.Graph

/-!
# The connectivity graph by numbers

A graph can be kept in two ways. `Graph` lists the pairs of adjacent entities by their names, and
whatever else is asked of it is computed from the list. An `Adjacency` keeps what is asked for: the
entities are numbered in the order of their declarations, and there is a table from names to
numbers, a list of neighbours for each number, and the set of edges.

The price is that the parts can contradict each other. A new edge has to be written down three
times, once in the set of edges and once in the list of neighbours of each of its ends, and a
relationship may be passed over for several reasons: one of its ends may be undeclared, both may
be the same, or another relationship may have joined them already. That the parts never do
contradict each other, and that they say the same as the list of pairs, is what
`Proofs/Connectivity/Adjacency` is about.
-/

namespace ErDiagram

/-- **A graph of numbered entities.** Nothing in the type says that the parts agree. They are
written by the functions of this module only, and what these keep is proved about them. -/
structure Adjacency where
  /-- The names of the entities; the number of an entity is the place of its name. -/
  names : List String := []
  /-- The numbers of the names, so that a name is looked up and not searched for. -/
  index : OrderedMap String Nat := .empty
  /-- For each number the numbers of the neighbours, in the order in which they became adjacent. -/
  neighbours : List (List Nat) := []
  /-- The edges, each with the lesser number first, so that the direction of a relationship makes
  no difference to whether an edge is there already. -/
  edges : List (Nat × Nat) := []

namespace Adjacency

/-- Gives a name the next number, unless it has one: a repeated entity is no entity of its own. -/
def number (g : Adjacency) (name : String) : Adjacency :=
  if g.index.contains name then g
  else
    { g with
      names := g.names ++ [name]
      index := g.index.insert name g.names.length
      neighbours := g.neighbours ++ [[]] }

/-- **Makes two numbered entities adjacent**, unless they are the same or adjacent already. All
three parts are written at once, or none is. -/
def link (g : Adjacency) (a b : Nat) : Adjacency :=
  let edge := (min a b, max a b)
  if a == b || g.edges.contains edge then g
  else
    { g with
      edges := g.edges ++ [edge]
      neighbours := (g.neighbours.modify a (· ++ [b])).modify b (· ++ [a]) }

/-- Makes the entities of two names adjacent, if both names have numbers. -/
def join (g : Adjacency) (source target : String) : Adjacency :=
  match g.index.get? source, g.index.get? target with
  | some a, some b => g.link a b
  | _, _ => g

/-- **The numbered graph of a diagram**: all entities are numbered before anything is joined, so
that a relationship can be declared before its ends. -/
def ofDiagram (d : Diagram) : Adjacency :=
  d.relationships.foldl (fun g r => g.join r.source r.target) (d.entityNames.foldl number {})

/-- The neighbours of a number; what is no number of an entity has none. With this the lists can
be spoken of for all numbers, as `Graph.neighbours` can for all names. -/
def neighboursOf (g : Adjacency) (i : Nat) : List Nat := (g.neighbours[i]?).getD []

end Adjacency

end ErDiagram
