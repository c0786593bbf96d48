import ErDiagram.Connectivity.Analysis
import ErDiagram.Proofs.Connectivity.Search
import ErDiagram.Proofs.Greatest
import Mathlib.Combinatorics.SimpleGraph.Acyclic

/-!
# The backbone is a longest shortest path

A backbone is looked for from the entities with one neighbour only. From each of them a search
finds a shortest path to an entity that is as far away as any, and the first of the longest of
these paths is kept. If the graph has no cycle, then all paths are shortest ones, and a path that
cannot be made longer starts at an entity with one neighbour: there the backbone is as long as any
path at all.

The properties of a single search are those of `ErDiagram.Proofs.Connectivity.Search`. What is
added here is the choice among the starts, a fold that keeps a path until a longer one comes, and
the argument about forests: a path is made longer at its start until that has one neighbour, which
ends since a path visits each entity at most once; by then it is a path from where a backbone may
start, and it is a shortest one, so that it is not longer than what the search from there has
found.

With a graph that has no edge the argument has no start. A single entity is a path, and the
backbone is empty.
-/

namespace ErDiagram.Graph

variable {g : Graph} {s : String}

/-! ## Where a backbone may start

The starts are computed as a list with a fallback. As a property of a single entity this is
`MayStart`, which is what statements about backbones use. -/

/-- **Whether a backbone may start at an entity**: it has one neighbour, or it has neighbours and
no entity has just one. It is the property of an entity that `backboneStarts` lists. -/
def MayStart (g : Graph) (s : String) : Prop :=
  s ∈ g.names ∧ 0 < g.degree s ∧ ((∃ n ∈ g.names, g.degree n = 1) → g.degree s = 1)

theorem mem_backboneStarts : s ∈ g.backboneStarts ↔ g.MayStart s := by
  unfold backboneStarts MayStart
  dsimp only
  split
  · next hnone =>
    have hnone : ¬ ∃ n ∈ g.names, g.degree n = 1 := by simpa using hnone
    simp [hnone]
  · next hsome =>
    have hsome : ∃ n ∈ g.names, g.degree n = 1 := by simpa using hsome
    simp only [List.mem_filter, beq_iff_eq, hsome, forall_const]
    exact and_congr_right fun _ => ⟨fun h => ⟨by rw [h]; exact Nat.one_pos, h⟩, And.right⟩

/-- The starts keep the order of the entities. -/
theorem backboneStarts_sublist : g.backboneStarts.Sublist g.names := by
  unfold backboneStarts
  dsimp only
  split <;> exact List.filter_sublist

/-- There is a start unless there is no edge. -/
theorem backboneStarts_eq_nil_iff (hg : g.IsSimple) :
    g.backboneStarts = [] ↔ ∀ a b, ¬ g.simple.Adj a b := by
  rw [List.eq_nil_iff_forall_not_mem]
  simp only [mem_backboneStarts]
  constructor
  · intro hstarts a b hab
    by_cases hone : ∃ n ∈ g.names, g.degree n = 1
    · obtain ⟨n, hn, hdegree⟩ := hone
      exact hstarts n ⟨hn, by rw [hdegree]; exact Nat.one_pos, fun _ => hdegree⟩
    · exact hstarts a ⟨hg.mem_names_of_adj hab.symm, (degree_pos_iff hg).2 ⟨b, hab⟩,
        fun h => absurd h hone⟩
  · intro hedges a hstart
    obtain ⟨b, hab⟩ := (degree_pos_iff hg).1 hstart.2.1
    exact hedges a b hab

/-! ## The first of the longest

The search keeps a path and replaces it by a longer one. What it has in the end is found by the
list of all paths alone, and then compared with the starts that these come from. -/

/-- **The path that is kept** is the first of the longest, if every start has a path. The fold
replaces a path by a longer one only, so that those before it are shorter, and those after it not
longer. -/
theorem exists_backbone_eq (hne : ∀ s ∈ g.backboneStarts, g.farthestPath s ≠ [])
    (hstarts : g.backboneStarts ≠ []) :
    ∃ earlier s later, g.backboneStarts = earlier ++ s :: later ∧
      g.backbone = g.farthestPath s ∧
      (∀ t ∈ earlier, (g.farthestPath t).length < g.backbone.length) ∧
        ∀ t ∈ later, (g.farthestPath t).length ≤ g.backbone.length := by
  obtain ⟨earlier, later, hsplit, hearlier, hlater⟩ :=
    exists_foldl_greatest List.length [] (g.backboneStarts.map g.farthestPath)
  rw [List.foldl_map] at hsplit hearlier hlater
  change _ = earlier ++ g.backbone :: later at hsplit
  change ∀ b ∈ earlier, b.length < g.backbone.length at hearlier
  change ∀ b ∈ later, b.length ≤ g.backbone.length at hlater
  cases earlier with
  | nil =>
    -- the empty path is not kept, as any other is longer
    obtain ⟨hnil, rfl⟩ := List.cons.inj hsplit
    obtain ⟨s, hs⟩ := List.exists_mem_of_ne_nil _ hstarts
    have hle := hlater _ (List.mem_map_of_mem hs)
    rw [← hnil] at hle
    exact absurd (List.length_eq_zero_iff.1 (Nat.le_zero.1 hle)) (hne s hs)
  | cons _ earlier =>
    obtain ⟨_, hmap⟩ := List.cons.inj hsplit
    obtain ⟨before, after, hstarts, hbefore, hafter⟩ := List.map_eq_append_iff.1 hmap
    obtain ⟨s, later', rfl, hbest, hlater'⟩ := List.map_eq_cons_iff.1 hafter
    refine ⟨before, s, later', hstarts, hbest.symm, fun t ht => ?_, fun t ht => ?_⟩
    · exact hearlier _ (List.mem_cons_of_mem _ (hbefore ▸ List.mem_map_of_mem ht))
    · exact hlater _ (hlater' ▸ List.mem_map_of_mem ht)

/-- What stands in a list without repetitions before an element and after it. -/
theorem idxOf_lt_of_sublist {l : List String} (hl : l.Nodup) {earlier later : List String}
    (h : (earlier ++ s :: later).Sublist l) : ∀ t ∈ later, l.idxOf s < l.idxOf t := by
  have := List.pairwise_append.1 ((pairwise_idxOf hl).sublist h)
  exact (List.pairwise_cons.1 this.2.1).1

/-! ## Forests

A path in a forest is determined by its ends, so that it is as long as they are apart. A longest
one starts at an entity with one neighbour, as it could be made longer otherwise; and there the
searches start too. -/

/-- A path that is not trivial visits declared entities only, each once. -/
theorem length_lt_of_isPath (hg : g.IsSimple) {a b : String} {p : g.simple.Walk a b}
    (hp : p.IsPath) (ha : a ∈ g.names) : p.length < g.names.length := by
  have hsub : p.support ⊆ g.names := fun n hn =>
    hg.mem_names_of_reachable ha ⟨p.takeUntil n hn⟩
  have := (List.subperm_of_subset hp.support_nodup hsub).length_le
  rwa [SimpleGraph.Walk.length_support, Nat.add_one_le_iff] at this

/-- **In a forest a path can be made longer** until it starts at an entity with one neighbour. A
start with a second neighbour has one that is not on the path, or there would be a cycle. A path
visits each entity at most once, so that this comes to an end. -/
theorem exists_longer_of_isAcyclic (hg : g.IsSimple) (hforest : g.simple.IsAcyclic)
    {a b : String} (p : g.simple.Walk a b) (hp : p.IsPath) (hnil : ¬ p.Nil) :
    ∃ s, ∃ q : g.simple.Walk s b, q.IsPath ∧ p.length ≤ q.length ∧ s ∈ g.names ∧
      g.degree s = 1 := by
  have hsnd := p.adj_snd hnil
  have ha : a ∈ g.names := hg.mem_names_of_adj hsnd.symm
  by_cases hext : ∃ n, g.simple.Adj n a ∧ n ∉ p.support
  · obtain ⟨n, hadj, hn⟩ := hext
    have hlonger : (p.cons hadj).IsPath := hp.cons hn
    have hlt : p.length + 1 < g.names.length :=
      length_lt_of_isPath hg hlonger (hg.mem_names_of_adj hadj.symm)
    obtain ⟨s, q, hq, hlen, hs⟩ := exists_longer_of_isAcyclic hg hforest (p.cons hadj) hlonger
      SimpleGraph.Walk.not_nil_cons
    rw [SimpleGraph.Walk.length_cons] at hlen
    exact ⟨s, q, hq, (Nat.le_succ _).trans hlen, hs⟩
  · -- every neighbour is on the path, and no cycle leads back to it but from the next entity
    have hall : ∀ n ∈ g.neighbours a, n = p.snd := fun n hn => by
      have hadj := hg.adj_iff.2 hn
      by_contra hne
      exact hext ⟨n, hadj.symm, fun hmem => hne (hforest.eq_snd_of_adj_start hp hadj hmem)⟩
    refine ⟨a, p, hp, le_rfl, ha, Nat.le_antisymm ?_ ((degree_pos_iff hg).2 ⟨_, hsnd⟩)⟩
    have hsub : g.neighbours a ⊆ [p.snd] := fun n hn => List.mem_singleton.2 (hall n hn)
    exact (List.subperm_of_subset (hg.nodup_neighbours a) hsub).length_le
termination_by g.names.length - p.length
decreasing_by
  rw [SimpleGraph.Walk.length_cons]
  omega

/-- In a forest a path is a shortest walk. -/
theorem length_eq_dist_of_isAcyclic (hforest : g.simple.IsAcyclic) {a b : String}
    {p : g.simple.Walk a b} (hp : p.IsPath) : p.length = g.simple.dist a b := by
  obtain ⟨q, hq, hlen⟩ := p.reachable.exists_path_of_dist
  have : (⟨p, hp⟩ : g.simple.Path a b) = ⟨q, hq⟩ := (hforest.subsingleton_path a b).elim _ _
  rw [← hlen, Subtype.mk.inj this]

/-! ## The backbone -/

/-- **What a backbone is.** It is a path between two entities that are as far apart as its length
says, it starts where it may, and nothing is farther from such a start than the backbone is long.
`first` decides between starts that are equally good, by the order of the declarations. Among the
paths from one start to entities that are equally far away the structure does not choose; it
leaves open which of several shortest paths a backbone is. -/
structure IsBackbone (g : Graph) (path : List String) : Prop where
  /-- No entity is on it twice, as on any shortest path. -/
  nodup : path.Nodup
  /-- It goes from neighbour to neighbour. -/
  isChain : path.IsChain g.simple.Adj
  /-- It is empty if no entities are adjacent, and only then. The other fields speak of its first
  and its last entity, and hence of paths that are not empty. -/
  eq_nil_iff : path = [] ↔ ∀ a b, ¬ g.simple.Adj a b
  /-- It starts where a backbone may start: at an entity with one neighbour if there is any, and
  else at one with some neighbour. -/
  mayStart : ∀ h : path ≠ [], g.MayStart (path.head h)
  /-- It has as many edges as its ends are apart, so that there is no shortcut between them. -/
  dist_ends : ∀ h : path ≠ [],
    g.simple.dist (path.head h) (path.getLast h) + 1 = path.length
  /-- From nowhere that it may start is any entity farther away. So it is the longest of all
  shortest paths that begin at such an entity. -/
  farthest : ∀ s, g.MayStart s → ∀ n, g.simple.Reachable s n →
    g.simple.dist s n + 1 ≤ path.length
  /-- Where an entity is as far away, the start is not earlier than that of the backbone. -/
  first : ∀ h : path ≠ [], ∀ s, g.MayStart s → ∀ n, g.simple.Reachable s n →
    g.simple.dist s n + 1 = path.length → g.index (path.head h) ≤ g.index s
  /-- In a forest that has an edge, no path has more entities. Without an edge this fails for a
  single entity, which is a path of one. -/
  longest : g.simple.IsAcyclic → (∃ a b, g.simple.Adj a b) →
    ∀ a b (p : g.simple.Walk a b), p.IsPath → p.support.length ≤ path.length

/-- **The backbone from its start**: it is one of the paths that the searches find, and those from
earlier starts are shorter. -/
theorem backbone_eq (hg : g.IsSimple) (hedge : ∃ a b, g.simple.Adj a b) :
    ∃ s, g.MayStart s ∧ g.backbone = g.farthestPath s ∧
      ∀ t, g.MayStart t → (g.farthestPath t).length ≤ g.backbone.length ∧
        ((g.farthestPath t).length = g.backbone.length → g.index s ≤ g.index t) := by
  have hne : ∀ t ∈ g.backboneStarts, g.farthestPath t ≠ [] := fun t ht => by
    obtain ⟨p, _, hpath, _⟩ := exists_walk_farthestPath hg (mem_backboneStarts.1 ht).1
    exact hpath ▸ p.support_ne_nil
  have hstarts : g.backboneStarts ≠ [] := fun hnil => by
    obtain ⟨a, b, hab⟩ := hedge
    exact (backboneStarts_eq_nil_iff hg).1 hnil a b hab
  obtain ⟨earlier, s, later, hstarts, hbackbone, hearlier, hlater⟩ :=
    exists_backbone_eq hne hstarts
  have hbehind := idxOf_lt_of_sublist hg.nodup_names (hstarts ▸ backboneStarts_sublist)
  refine ⟨s, mem_backboneStarts.1 (hstarts ▸ by simp), hbackbone, fun t ht => ?_⟩
  rcases List.mem_append.1 (hstarts ▸ mem_backboneStarts.2 ht) with ht | ht
  · exact ⟨(hearlier t ht).le, fun h => absurd h (hearlier t ht).ne⟩
  · rcases List.mem_cons.1 ht with rfl | ht
    · exact ⟨hbackbone ▸ le_rfl, fun _ => le_rfl⟩
    · exact ⟨hlater t ht, fun _ => (hbehind t ht).le⟩

/-- Without an edge there is no backbone. -/
theorem backbone_eq_nil (hg : g.IsSimple) (hedge : ¬ ∃ a b, g.simple.Adj a b) :
    g.backbone = [] := by
  rw [backbone, (backboneStarts_eq_nil_iff hg).2 fun a b hab => hedge ⟨a, b, hab⟩]
  rfl

/-- No start has an entity that is farther away than the backbone is long. -/
theorem dist_lt_length_backbone (hg : g.IsSimple) (hs : g.MayStart s) {n : String}
    (hn : g.simple.Reachable s n) :
    g.simple.dist s n < (g.farthestPath s).length := by
  obtain ⟨p, _, hpath, hfar⟩ := exists_walk_farthestPath hg hs.1
  rw [hpath, SimpleGraph.Walk.length_support]
  exact Nat.lt_succ_of_le (hfar n hn)

theorem IsSimple.isBackbone (hg : g.IsSimple) : g.IsBackbone g.backbone := by
  by_cases hedge : ∃ a b, g.simple.Adj a b
  · obtain ⟨s, hs, hbackbone, hothers⟩ := backbone_eq hg hedge
    obtain ⟨p, hdist, hpath, _⟩ := exists_walk_farthestPath hg hs.1
    have hfarthest : ∀ t, g.MayStart t → ∀ n, g.simple.Reachable t n →
        g.simple.dist t n + 1 ≤ g.backbone.length := fun t ht n hn =>
      (dist_lt_length_backbone hg ht hn).trans_le (hothers t ht).1
    rw [hpath] at hbackbone
    have hhead : ∀ h : g.backbone ≠ [], g.backbone.head h = s := by simp [hbackbone]
    have hlast : ∀ h : g.backbone ≠ [], g.backbone.getLast h = g.lastFound s := by
      simp [hbackbone]
    refine ⟨?_, ?_, ?_, ?_, ?_, hfarthest, ?_, ?_⟩
    · rw [hbackbone]
      exact (p.isPath_of_length_eq_dist hdist).support_nodup
    · rw [hbackbone]
      exact p.isChain_adj_support
    · obtain ⟨a, b, hab⟩ := hedge
      rw [hbackbone]
      exact iff_of_false p.support_ne_nil fun hnone => hnone a b hab
    · intro h
      rwa [hhead h]
    · intro h
      rw [hhead h, hlast h, ← hdist, hbackbone, SimpleGraph.Walk.length_support]
    · intro h t ht n hn hlen
      rw [hhead h]
      refine (hothers t ht).2 (Nat.le_antisymm (hothers t ht).1 ?_)
      exact hlen ▸ dist_lt_length_backbone hg ht hn
    · intro hforest _ a b q hq
      by_cases hnil : q.Nil
      · rw [SimpleGraph.Walk.length_support, SimpleGraph.Walk.length_eq_zero_iff.2 hnil, hbackbone]
        exact List.length_pos_of_ne_nil p.support_ne_nil
      · obtain ⟨t, q', hq', hlonger, ht, hdegree⟩ := exists_longer_of_isAcyclic hg hforest q hq hnil
        have hstart : g.MayStart t := ⟨ht, by rw [hdegree]; exact Nat.one_pos, fun _ => hdegree⟩
        calc q.support.length
          _ = q.length + 1 := q.length_support
          _ ≤ q'.length + 1 := Nat.succ_le_succ hlonger
          _ = g.simple.dist t b + 1 := by rw [length_eq_dist_of_isAcyclic hforest hq']
          _ ≤ g.backbone.length := hfarthest t hstart b q'.reachable
  · have hnil := backbone_eq_nil hg hedge
    have hnone : ∀ s, ¬ g.MayStart s := fun s hs => by
      obtain ⟨n, hadj⟩ := (degree_pos_iff hg).1 hs.2.1
      exact hedge ⟨s, n, hadj⟩
    rw [hnil]
    exact ⟨List.nodup_nil, .nil, iff_of_true rfl fun a b hab => hedge ⟨a, b, hab⟩,
      fun h => absurd rfl h, fun h => absurd rfl h, fun s hs => absurd hs (hnone s),
      fun h => absurd rfl h, fun _ h => absurd h hedge⟩

end ErDiagram.Graph

namespace ErDiagram.Diagram

/-- **The backbone of a diagram is a longest shortest path**, for every diagram: cycles, several
components and entities without neighbours included. -/
theorem isBackbone_analyze (d : Diagram) : d.analyze.graph.IsBackbone d.analyze.graph.backbone :=
  (Graph.isSimple_ofDiagram d).isBackbone

/-- A diagram with one entity. -/
def lone : Diagram where
  entities := [{ name := "A" }]

/-- **A forest needs an edge** for its backbone to be as long as any path: an entity alone is a
path, and there is no backbone. -/
theorem not_longest_backbone :
    (lone.entityNames = ["A"] ∧ lone.analyze.graph.backbone = []) ∧
      ¬ ∀ d : Diagram, d.analyze.graph.simple.IsAcyclic →
        ∀ a ∈ d.analyze.graph.names, ∀ b (p : d.analyze.graph.simple.Walk a b), p.IsPath →
          p.support.length ≤ d.analyze.graph.backbone.length := by
  have hbackbone : lone.analyze.graph.backbone = [] := by decide
  have hedges : lone.analyze.graph.simple = ⊥ := by
    ext a b
    rw [Graph.simple, SimpleGraph.fromEdgeSet_adj]
    exact iff_of_false (fun h => List.not_mem_nil h.1) id
  refine ⟨⟨rfl, hbackbone⟩, fun h => ?_⟩
  have hlength := h lone (hedges ▸ SimpleGraph.isAcyclic_bot) "A" (by decide) "A" .nil .nil
  rw [hbackbone] at hlength
  cases hlength

end ErDiagram.Diagram
