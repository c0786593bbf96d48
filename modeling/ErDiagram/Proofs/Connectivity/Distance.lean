import ErDiagram.Proofs.Connectivity.Graph
import Mathlib.Combinatorics.SimpleGraph.Metric

/-!
# Distances in a connectivity graph

What a breadth-first search finds is measured by distances, from one entity or from the nearest of
several. Read as a simple graph, a connectivity graph has walks and distances. An entity at some
distance has a neighbour that is nearer by one, and a neighbour of an entity is farther away by
one at most; this is all that a search has to know.

Distance is a relation here, `AtDistance`, and not a number. A search from several entities has no
function for it in Mathlib, and a number would have to be given to what cannot be reached. As a
relation it is empty there, and the cases of a proof are those in which there is something to say.
From a single entity it is the distance of the simple graph (`atDistance_singleton_iff`).
-/

namespace ErDiagram

/-! ## Distances from several vertices

Searches start from one entity or from several, and `AtDistance` covers both. It is a relation, so
that nothing has to be said of what cannot be reached. -/

section AtDistance

variable {V : Type} {G : SimpleGraph V} {sources : List V} {m n : V} {i j : ℕ}

/-- **A vertex at some distance** from the nearest of the sources: a walk of this length leads to
it from one of them, and none that is shorter. -/
def AtDistance (G : SimpleGraph V) (sources : List V) (n : V) (i : ℕ) : Prop :=
  (∃ s ∈ sources, ∃ p : G.Walk s n, p.length = i) ∧
    ∀ s ∈ sources, ∀ p : G.Walk s n, i ≤ p.length

theorem AtDistance.unique (h : AtDistance G sources n i) (h' : AtDistance G sources n j) :
    i = j := by
  obtain ⟨⟨s, hs, p, rfl⟩, hmin⟩ := h
  obtain ⟨⟨t, ht, q, rfl⟩, hmin'⟩ := h'
  exact Nat.le_antisymm (hmin t ht q) (hmin' s hs p)

/-- A vertex that a walk leads to is at some distance, which is not more than the length of the
walk. -/
theorem exists_atDistance {s : V} (hs : s ∈ sources) (p : G.Walk s n) :
    ∃ i ≤ p.length, AtDistance G sources n i := by
  classical
  have hex : ∃ i, ∃ s ∈ sources, ∃ p : G.Walk s n, p.length = i := ⟨_, s, hs, p, rfl⟩
  refine ⟨Nat.find hex, Nat.find_min' hex ⟨s, hs, p, rfl⟩, Nat.find_spec hex, ?_⟩
  exact fun t ht q => Nat.find_min' hex ⟨t, ht, q, rfl⟩

theorem atDistance_zero_iff : AtDistance G sources n 0 ↔ n ∈ sources := by
  constructor
  · rintro ⟨⟨s, hs, p, hp⟩, _⟩
    exact SimpleGraph.Walk.eq_of_length_eq_zero hp ▸ hs
  · exact fun hn => ⟨⟨n, hn, .nil, rfl⟩, fun _ _ _ => Nat.zero_le _⟩

/-- **A neighbour is farther away by one at most.** One more step leads there, though there may be
a shorter way. -/
theorem AtDistance.exists_of_adj (h : AtDistance G sources m i) (hmn : G.Adj m n) :
    ∃ j ≤ i + 1, AtDistance G sources n j := by
  obtain ⟨⟨s, hs, p, rfl⟩, _⟩ := h
  obtain ⟨j, hj, hn⟩ := exists_atDistance hs (p.concat hmn)
  exact ⟨j, by rwa [SimpleGraph.Walk.length_concat] at hj, hn⟩

theorem AtDistance.le_add_one (h : AtDistance G sources m i) (h' : AtDistance G sources n j)
    (hmn : G.Adj m n) : j ≤ i + 1 := by
  obtain ⟨k, hk, hn⟩ := h.exists_of_adj hmn
  exact h'.unique hn ▸ hk

/-- **A vertex has a neighbour that is nearer by one**, unless it is a source: the one before it
on a shortest walk. That it is not nearer still is the other half. -/
theorem AtDistance.exists_nearer (h : AtDistance G sources n (i + 1)) :
    ∃ m, G.Adj m n ∧ AtDistance G sources m i := by
  obtain ⟨⟨s, hs, p, hp⟩, hmin⟩ := h
  have hnil : ¬ p.Nil := fun hnil => by
    rw [SimpleGraph.Walk.length_eq_zero_iff.2 hnil] at hp
    cases hp
  have hadj := p.adj_penultimate hnil
  have hlength : p.dropLast.length = i := by
    rw [SimpleGraph.Walk.length_dropLast, hp, Nat.add_sub_cancel]
  refine ⟨p.penultimate, hadj, ⟨s, hs, p.dropLast, hlength⟩, fun t ht q => ?_⟩
  -- a shorter walk to the neighbour would go on to a shorter one
  have hq := hmin t ht (q.concat hadj)
  rw [SimpleGraph.Walk.length_concat] at hq
  exact Nat.le_of_succ_le_succ hq

/-- The distance from a single vertex is that of the graph. -/
theorem atDistance_singleton_iff {s : V} :
    AtDistance G [s] n i ↔ G.Reachable s n ∧ G.dist s n = i := by
  unfold AtDistance
  simp only [List.mem_singleton, exists_eq_left, forall_eq]
  constructor
  · rintro ⟨⟨p, rfl⟩, hmin⟩
    obtain ⟨q, hq⟩ := p.reachable.exists_walk_length_eq_dist
    exact ⟨p.reachable, Nat.le_antisymm (SimpleGraph.dist_le p) (hq ▸ hmin q)⟩
  · rintro ⟨hreach, rfl⟩
    exact ⟨hreach.exists_walk_length_eq_dist, fun p => SimpleGraph.dist_le p⟩

end AtDistance

namespace Graph

/-! ## Connectivity graphs as simple graphs

The lists of a connectivity graph give a simple graph on all names. Walks, distances and
components are taken from there, and the searches are compared with them. -/

/-- **The simple graph** of which names are adjacent. -/
def simple (g : Graph) : SimpleGraph String := .fromEdgeSet {p | p ∈ g.pairs}

/-- **What every graph of a diagram is**: no name and no pair is listed twice, no entity is
adjacent to itself, and all that is adjacent is declared. The type of graphs does not ask for
this, since graphs are built step by step; it is proved of the steps, and what is proved of
searches assumes it instead of a diagram. -/
structure IsSimple (g : Graph) : Prop where
  /-- Names are listed once, so that a name is found at one place. -/
  nodup_names : g.names.Nodup
  /-- Pairs are listed once, so that the number of neighbours is a degree. -/
  nodup_pairs : g.pairs.Nodup
  /-- No entity is its own neighbour. -/
  loopless : ∀ n, n ∉ g.neighbours n
  /-- Neighbours are declared, and with them the names that they are neighbours of. -/
  declared : ∀ n, g.neighbours n ⊆ g.names

variable {g : Graph}

theorem mem_neighbours_comm {a b : String} : b ∈ g.neighbours a ↔ a ∈ g.neighbours b := by
  rw [mem_neighbours, mem_neighbours, Sym2.eq_swap]

/-- **Adjacent are an entity and its neighbours.** -/
theorem IsSimple.adj_iff (hg : g.IsSimple) {a b : String} :
    g.simple.Adj a b ↔ b ∈ g.neighbours a := by
  rw [simple, SimpleGraph.fromEdgeSet_adj, mem_neighbours, Set.mem_ofPred_eq]
  refine and_iff_left_of_imp fun hab => ?_
  rintro rfl
  exact hg.loopless a (mem_neighbours.2 hab)

theorem IsSimple.nodup_neighbours (hg : g.IsSimple) (n : String) : (g.neighbours n).Nodup :=
  List.Nodup.of_map _ (map_neighbours g n ▸ hg.nodup_pairs.filter _)

theorem degree_pos_iff (hg : g.IsSimple) {n : String} :
    0 < g.degree n ↔ ∃ m, g.simple.Adj n m := by
  rw [degree, List.length_pos_iff_exists_mem]
  exact exists_congr fun _ => hg.adj_iff.symm

/-- Whatever is adjacent is declared. -/
theorem IsSimple.mem_names_of_adj (hg : g.IsSimple) {a b : String} (h : g.simple.Adj a b) :
    b ∈ g.names :=
  hg.declared a (hg.adj_iff.1 h)

/-- Walks from a declared name lead to declared names. -/
theorem IsSimple.mem_names_of_reachable (hg : g.IsSimple) {a b : String} (ha : a ∈ g.names)
    (h : g.simple.Reachable a b) : b ∈ g.names := by
  obtain ⟨p⟩ := h
  induction p with
  | nil => exact ha
  | cons hadj _ ih => exact ih (hg.mem_names_of_adj hadj)

/-! ## The graphs that are built -/

theorem IsSimple.addName (hg : g.IsSimple) (n : String) : (g.addName n).IsSimple := by
  unfold Graph.addName
  split
  · exact hg
  · next hn =>
    rw [List.contains_iff_mem] at hn
    refine ⟨?_, hg.nodup_pairs, hg.loopless, fun m => ?_⟩
    · exact List.nodup_append.2 ⟨hg.nodup_names, List.nodup_singleton n,
        fun a ha b hb => by
          rw [List.mem_singleton.1 hb]
          rintro rfl
          exact hn ha⟩
    · exact fun x hx => List.mem_append_left _ (hg.declared m hx)

theorem IsSimple.addEdge (hg : g.IsSimple) (a b : String) : (g.addEdge a b).IsSimple where
  nodup_names := names_addEdge g a b ▸ hg.nodup_names
  nodup_pairs := nodup_pairs_addEdge hg.nodup_pairs a b
  loopless n hn := by
    rcases mem_pairs_addEdge.1 (mem_neighbours.1 hn) with hp | ⟨⟨_, _, hne⟩, hp⟩
    · exact hg.loopless n (mem_neighbours.2 hp)
    · rcases Sym2.eq_iff.1 hp with ⟨rfl, rfl⟩ | ⟨rfl, rfl⟩ <;> exact hne rfl
  declared n m hm := by
    rw [names_addEdge]
    rcases mem_pairs_addEdge.1 (mem_neighbours.1 hm) with hp | ⟨⟨ha, hb, _⟩, hp⟩
    · exact hg.declared n (mem_neighbours.2 hp)
    · rcases Sym2.eq_iff.1 hp with ⟨_, rfl⟩ | ⟨_, rfl⟩
      · exact hb
      · exact ha

theorem isSimple_ofNames (names : List String) : (ofNames names).IsSimple :=
  List.foldlRecOn names addName ⟨List.nodup_nil, List.nodup_nil, fun _ => List.not_mem_nil,
    fun _ => List.nil_subset _⟩ fun _ hg n _ => hg.addName n

/-- **The graph of a diagram is simple**, since it is built from nothing by adding names and
edges. -/
theorem isSimple_ofDiagram (d : Diagram) : (ofDiagram d).IsSimple :=
  List.foldlRecOn d.relationships _ (isSimple_ofNames d.entityNames)
    fun _ hg r _ => hg.addEdge r.source r.target

end Graph

end ErDiagram
