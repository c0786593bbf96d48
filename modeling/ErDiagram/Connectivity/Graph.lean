import ErDiagram.Diagram.Basic

/-!
# The connectivity graph

Two entities are adjacent if a relationship joins them. The graph is undirected and simple: how
often and in which direction two entities are joined does not matter, and neither does a
relationship of an entity with itself or with a name that is not declared.

A graph is the list of its names and the list of its pairs, and whatever is asked of it is read
off these two. The orders are kept, because much depends on them: neighbours are listed in the
order in which they became adjacent, and searches follow it. A graph with numbers, a table and
lists of neighbours is defined in `ErDiagram.Connectivity.Adjacency`, and proved to say the same.
-/

namespace ErDiagram

/-- **The graph of which entities are joined.** Only the pairs are stored; a list of neighbours
beside them would have to be kept in step, and could contradict them. -/
structure Graph where
  /-- The names of the entities, each once, in the order of their declarations. -/
  names : List String := []
  /-- The pairs of adjacent entities, each once, in the order of the first relationship that
  joins them. -/
  edges : List (String × String) := []

namespace Graph

instance : Inhabited Graph := ⟨{}⟩

/-- Whether two entities are adjacent. -/
def adjacent (g : Graph) (a b : String) : Bool :=
  g.edges.any fun e => e == (a, b) || e == (b, a)

/-- Adds a name, unless it is there. -/
def addName (g : Graph) (name : String) : Graph :=
  if g.names.contains name then g else { g with names := g.names ++ [name] }

/-- Makes two different entities of the graph adjacent. A pair that is there in either direction
is not added again, so that its place is that of the first relationship. -/
def addEdge (g : Graph) (a b : String) : Graph :=
  if g.names.contains a && g.names.contains b && a != b && !g.adjacent a b then
    { g with edges := g.edges ++ [(a, b)] }
  else g

/-- The graph without edges of a list of names. -/
def ofNames (names : List String) : Graph := names.foldl addName {}

/-- **The graph of a diagram.** All names are added before the first pair, so that it does not
matter for a relationship where its ends are declared. -/
def ofDiagram (d : Diagram) : Graph :=
  d.relationships.foldl (fun g r => g.addEdge r.source r.target) (ofNames d.entityNames)

/-- The other end of an edge, seen from one of its ends; there is none for an entity that the edge
does not join. -/
def otherEnd? (name : String) (e : String × String) : Option String :=
  if e.1 = name then some e.2 else if e.2 = name then some e.1 else none

/-- **The neighbours of an entity**, in the order in which they became adjacent. An entity that is
not declared has none, so that the function need not fail. -/
def neighbours (g : Graph) (name : String) : List String :=
  g.edges.filterMap (otherEnd? name)

/-- **How many neighbours an entity has.** It is the length of the list of neighbours, which is
right as long as no pair is listed twice; that it never is has to be proved. -/
def degree (g : Graph) (name : String) : Nat := (g.neighbours name).length

/-- The place of a name among all names. -/
def index (g : Graph) (name : String) : Nat := g.names.idxOf name

/-- The edges as pairs of places, the lesser place first, in increasing order. This is the form
that forces use, which are summed in this order. -/
def indexedEdges (g : Graph) : List (Nat × Nat) :=
  let pairs := g.edges.map fun e =>
    (min (g.index e.1) (g.index e.2), max (g.index e.1) (g.index e.2))
  pairs.mergeSort fun p q => p.1 < q.1 || (p.1 == q.1 && p.2 ≤ q.2)

/-- The entities without neighbours. -/
def isolated (g : Graph) : List String := g.names.filter fun n => g.degree n == 0

end Graph

end ErDiagram
