import ErDiagram.Connectivity.Graph

/-!
# Hubs, chains and clusters

Hubs are the entities with more than one neighbour; chains run along entities with few neighbours;
clusters are what can be reached through hubs. Both searches keep the list of entities that they
have not seen yet, and every visit makes it shorter.

Whether an entity has been seen is a question about this list, and not about a set beside it. So
the recursion is on the list itself, what a search leaves is a part of its result, and the next
search starts with it. The entities that searches are started from are gone through in the order
of the declarations, while a search follows the order of neighbours.
-/

namespace ErDiagram

/-- **An entity with more than one neighbour.** -/
structure Hub where
  /-- Its name. -/
  entity : String
  /-- Its neighbours. -/
  neighbours : List String
deriving Repr, DecidableEq

/-- How many neighbours a hub has. -/
def Hub.degree (h : Hub) : Nat := h.neighbours.length

/-- **A path of entities with few neighbours.** Whether it is linear is asked when it is found,
since it depends on the degrees of its entities. -/
structure Chain where
  /-- The entities along the path. -/
  entities : List String
  /-- Whether the path ends at both ends and has no branch. -/
  isLinear : Bool := false
deriving Repr, DecidableEq

/-- **A group of entities**, with the number of edges inside it. The share of these among all
possible ones is its density. -/
structure Cluster where
  /-- The entities in the order in which they were reached. -/
  entities : List String
  /-- How many edges join two of them. -/
  inner : Nat := 0
deriving Repr, DecidableEq

/-- How many edges a cluster could have. -/
def Cluster.possible (c : Cluster) : Nat := c.entities.length * (c.entities.length - 1) / 2

namespace Graph

/-- **The hubs**, those with more neighbours first, and else in the order of the entities. The
sort is stable, which decides the order among hubs of one degree. -/
def hubs (g : Graph) : List Hub :=
  let all := (g.names.map fun n => Hub.mk n (g.neighbours n)).filter fun h => 2 ≤ h.degree
  all.mergeSort fun a b => b.degree ≤ a.degree

/-! ## Chains -/

/-- The least number of entities in a chain. -/
def minChainLength : Nat := 3

/-- **How a path goes on** from an entity: to the only neighbour that is not seen yet, if that is
acceptable. Where two neighbours are left the path ends, as it does where there is none, so that
there is never anything to choose. -/
def grow (g : Graph) (accept : String → Bool) (unseen : List String) (current : String) :
    List String :=
  match _h : (g.neighbours current).filter (unseen.contains ·) with
  | [next] => if accept next then next :: grow g accept (unseen.erase next) next else []
  | _ => []
termination_by unseen.length
decreasing_by
  have hmem : next ∈ (g.neighbours current).filter (unseen.contains ·) :=
    _h ▸ List.mem_singleton_self next
  have hn : next ∈ unseen := by simpa using (List.mem_filter.1 hmem).2
  rw [List.length_erase_of_mem hn]
  exact Nat.sub_lt (List.length_pos_of_mem hn) Nat.one_pos

/-- Whether the entities between the first and the last have two neighbours. -/
def innerLinear (g : Graph) : List String → Bool
  | [] => true
  | [_] => true
  | a :: rest => g.degree a == 2 && innerLinear g rest

/-- **Whether a path is linear**: its ends have one neighbour, and what is between them two. These
are then all neighbours of its entities, and the path is a component of the graph. -/
def isLinear (g : Graph) (path : List String) : Bool :=
  match path with
  | [] => true
  | first :: rest =>
    g.degree first ≤ 1 && g.degree (rest.getLastD first) ≤ 1 && innerLinear g rest

/-- The paths along entities with at most two neighbours that start at the given entities, each
entity being seen once. A path starts wherever an unseen entity with one or two neighbours comes
up, which need not be an end of what could be a longer path. -/
def pathsFrom (g : Graph) : List String → List String → List (List String)
  | _, [] => []
  | unseen, start :: rest =>
    if unseen.contains start && (g.degree start == 1 || g.degree start == 2) then
      let path := start :: g.grow (fun n => g.degree n ≤ 2) (unseen.erase start) start
      path :: pathsFrom g (unseen.filter (!path.contains ·)) rest
    else pathsFrom g unseen rest

/-- **The chains**: the paths that are long enough. Short paths are found as well and dropped only
then, and their entities are not free again for other paths. -/
def chains (g : Graph) : List Chain :=
  let paths := (g.pathsFrom g.names g.names).filter fun p => minChainLength ≤ p.length
  paths.map fun p => ⟨p, g.isLinear p⟩

/-! ## Clusters -/

/-- The least number of entities in a cluster. -/
def minClusterSize : Nat := 3

/-- **What is reached from a stack of entities**, and what is then still unseen. The last
neighbour to be found is visited first, and only hubs are gone to. An entity may be on the stack
twice; the second time it is skipped. Nothing is asked of the entity that a search starts with. -/
def explore (g : Graph) (unseen : List String) : List String → List String × List String
  | [] => ([], unseen)
  | current :: stack =>
    if _h : current ∈ unseen then
      let unseen := unseen.erase current
      let next := (g.neighbours current).filter fun n => unseen.contains n && 2 ≤ g.degree n
      let (members, left) := explore g unseen (next.reverse ++ stack)
      (current :: members, left)
    else explore g unseen stack
termination_by stack => (unseen.length, stack.length)
decreasing_by
  · apply Prod.Lex.left
    rw [List.length_erase_of_mem _h]
    exact Nat.sub_lt (List.length_pos_of_mem _h) Nat.one_pos
  · apply Prod.Lex.right
    simp

/-- The groups that start at the given entities, each entity being seen once. Any unseen entity
may start a group, whatever its degree. -/
def groupsFrom (g : Graph) : List String → List String → List (List String)
  | _, [] => []
  | unseen, start :: rest =>
    if unseen.contains start then
      let (members, left) := g.explore unseen [start]
      members :: groupsFrom g left rest
    else groupsFrom g unseen rest

/-- How many edges join two of the given entities. -/
def innerEdges (g : Graph) (members : List String) : Nat :=
  (g.edges.filter fun e => members.contains e.1 && members.contains e.2).length

/-- **The clusters**: the groups that are large enough. As with chains, the entities of a group that
is too small do not come back. -/
def clusters (g : Graph) : List Cluster :=
  let groups := (g.groupsFrom g.names g.names).filter fun m => minClusterSize ≤ m.length
  groups.map fun m => ⟨m, g.innerEdges m⟩

end Graph

end ErDiagram
