import ErDiagram.Connectivity.Structure

/-!
# Backbones

A breadth-first search finds the entities that are reachable from one, the nearer ones first, and
for each of them the one that it was found from. The path back from the last one found is a
shortest path; the longest of these paths is the backbone of a diagram.

What a search finds is a list of entities in the order in which they are taken from the queue,
each with the entity that it was found from. So nothing has to be looked up in a table: the last
item of the list is the entity that the search ends at, and a path back goes through the list from
its end, since an entity is found after the one that it was found from. The recursion ends because
each visit makes the list of unseen entities shorter, or else the queue.
-/

namespace ErDiagram

/-- **An entity that a search has found**, and the one that it was found from. Parents are kept
beside the entities, in the order of the search, and not in a map of their own. -/
structure Found where
  /-- The entity. -/
  entity : String
  /-- Where the search came from; the entity that it starts from has nothing here. -/
  parent : Option String
deriving Repr, DecidableEq

namespace Graph

/-- What a search finds that still has a queue of entities to visit. An entity is taken off the
unseen ones when it joins the queue, so that it joins once. -/
def searchFrom (g : Graph) (unseen : List String) : List Found → List Found
  | [] => []
  | f :: queue =>
    let next := (g.neighbours f.entity).filter (unseen.contains ·)
    if h : next = [] then f :: searchFrom g unseen queue
    else f :: searchFrom g (unseen.filter (!next.contains ·))
      (queue ++ next.map fun n => ⟨n, some f.entity⟩)
termination_by queue => (unseen.length, queue.length)
decreasing_by
  · apply Prod.Lex.right
    simp
  · apply Prod.Lex.left
    obtain ⟨n, hn⟩ := List.exists_mem_of_ne_nil _ h
    have hu : n ∈ unseen := by simpa using (List.mem_filter.1 hn).2
    have hc : next.contains n = true := List.contains_iff_mem.2 hn
    exact List.length_filter_lt_length_iff_exists.2 ⟨n, hu, by rw [hc]; decide⟩

/-- **What is reachable from an entity**, in the order in which a breadth-first search finds
it. -/
def search (g : Graph) (start : String) : List Found :=
  g.searchFrom (g.names.filter (· != start)) [⟨start, none⟩]

/-- The path from an entity back to where a search started, given what the search found up to this
entity, the latest first. It looks for an entity only among those that were found before, which is
where its parent is. -/
def pathBack (entity : String) : List Found → List String
  | [] => []
  | f :: earlier =>
    if f.entity = entity then
      match f.parent with
      | some p => entity :: pathBack p earlier
      | none => [entity]
    else pathBack entity earlier

/-- **The path from an entity to the last one that a search from it finds.** Nothing is farther
away than this one, but others may be as far. -/
def farthestPath (g : Graph) (start : String) : List String :=
  let found := g.search start
  let last := (found.getLast?.map (·.entity)).getD start
  (pathBack last found.reverse).reverse

/-- Where a backbone may start: at an entity with one neighbour, or, if there is none, at any that
has neighbours. An entity without neighbours is no start, so that a diagram without edges has no
backbone. -/
def backboneStarts (g : Graph) : List String :=
  let ends := g.names.filter fun n => g.degree n == 1
  if ends.isEmpty then g.names.filter fun n => 0 < g.degree n else ends

/-- **The backbone**: the first of the longest of these paths, in the order of the entities that
they start at. -/
def backbone (g : Graph) : List String :=
  g.backboneStarts.foldl
    (fun best start =>
      let path := g.farthestPath start
      if best.length < path.length then path else best) []

end Graph

end ErDiagram
