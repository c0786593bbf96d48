import ErDiagram.Connectivity.Analysis
import ErDiagram.Proofs.Connectivity.Reach

/-!
# The analysis depends only on which entities are joined

Neighbours are listed in the order of the relationships, and both searches of the analysis follow
that order. What they find does not: a chain goes on only where one neighbour is left, so that
there is nothing to choose, and a group is what can be reached, in whichever order it is reached.
So diagrams with the same names that join the same pairs have the same shape, however often, in
which order and in which direction they join them.

Two analyses are compared part by part (`Analysis.Alike`). Where an order is that of the names it
has to be the same; where it is that of the relationships, in the neighbours of a hub and the
members of a cluster, lists are compared up to permutation. The graphs of the two diagrams are
compared by `Graph.Alike`, and for each part there is a lemma that graphs which are alike have
parts that are. The names must be in the same order: chains and clusters depend on it.
-/

namespace ErDiagram

/-! ## The same up to order

Which parts of an analysis may change their order is said by these structures, one for each kind
of part. Where no order is left open, parts are equal. -/

/-- **The same hub**, with its neighbours in any order. That it has as many is listed on its own
although it follows, because the hubs are sorted by it. -/
structure Hub.Alike (a b : Hub) : Prop where
  /-- They are the same entity. -/
  entity : a.entity = b.entity
  /-- They have as many neighbours. -/
  degree : a.degree = b.degree
  /-- They have the same neighbours, whose order is that of the relationships and may differ. -/
  neighbours : a.neighbours.Perm b.neighbours

/-- **The same cluster**, with its members in any order. -/
structure Cluster.Alike (a b : Cluster) : Prop where
  /-- They have the same members, in the order in which a search has met them, which may differ. -/
  entities : a.entities.Perm b.entities
  /-- They are equally dense. -/
  density : a.density = b.density

/-- **The same shape**: only the neighbours of a hub and the members of a cluster may come in
another order. The list of clusters itself has the same order in both, and so has that of hubs,
which is why these are compared item by item. -/
structure Analysis.Alike (a b : Analysis) : Prop where
  /-- The hubs are the same, in the same order. -/
  hubs : List.Forall₂ Hub.Alike a.hubs b.hubs
  /-- The isolated entities are the same. -/
  isolated : a.isolated = b.isolated
  /-- The chains are the same, entity by entity: a path that does not branch has no choice of
  order. -/
  chains : a.chains = b.chains
  /-- The clusters are the same, in the same order. -/
  clusters : List.Forall₂ Cluster.Alike a.clusters b.clusters
  /-- They cover as much. -/
  coverage : a.coverage = b.coverage
  /-- The pattern is the same. -/
  pattern : a.pattern = b.pattern
  /-- The recommended strategy is the same. -/
  strategy : a.strategy = b.strategy

namespace Graph

/-- **The same graph**: the same names in the same order, and the same pairs in any order. Pairs
are unordered, so that the directions of edges may differ. -/
structure Alike (g h : Graph) : Prop where
  /-- The names are the same. -/
  names : g.names = h.names
  /-- The pairs are the same, in any order. Pairs that are listed twice are so on both sides. -/
  pairs : g.pairs.Perm h.pairs

variable {g h : Graph}

theorem Alike.neighbours (hgh : g.Alike h) (n : String) :
    (g.neighbours n).Perm (h.neighbours n) :=
  neighbours_perm hgh.pairs n

theorem Alike.degree (hgh : g.Alike h) : g.degree = h.degree :=
  funext fun n => (hgh.neighbours n).length_eq

theorem Alike.isolated (hgh : g.Alike h) : g.isolated = h.isolated := by
  rw [Graph.isolated, Graph.isolated, hgh.names, hgh.degree]

/-! ## Hubs -/

/-- The names of the hubs, in the order of the hubs. -/
def hubNames (g : Graph) : List String :=
  (g.names.filter fun n => 2 ≤ g.degree n).mergeSort fun a b => g.degree b ≤ g.degree a

/-- The hub of a name. -/
def hub (g : Graph) (n : String) : Hub := ⟨n, g.neighbours n⟩

/-- **The order of the hubs is decided by their names and degrees.** Both are the same for graphs
that are alike, and the sort sees nothing else. -/
theorem hubs_eq_map (g : Graph) : g.hubs = g.hubNames.map g.hub := by
  unfold hubs hubNames
  rw [List.filter_map]
  exact (List.map_mergeSort (s := fun a b : Hub => b.degree ≤ a.degree) (f := g.hub)
    fun _ _ _ _ => rfl).symm

theorem Alike.hubs (hgh : g.Alike h) : List.Forall₂ Hub.Alike g.hubs h.hubs := by
  have hnames : g.hubNames = h.hubNames := by
    rw [hubNames, hubNames, hgh.names, hgh.degree]
  rw [hubs_eq_map, hubs_eq_map, ← hnames, List.forall₂_map_left_iff, List.forall₂_map_right_iff,
    List.forall₂_same]
  exact fun n _ => ⟨rfl, congrFun hgh.degree n, hgh.neighbours n⟩

/-! ## Chains

A path goes on only where a single neighbour is left, and then the order of neighbours does not
matter. So chains are equal, and not only alike. -/

/-- **A path does not depend on the order of neighbours**: it goes on only where there is nothing
to choose. -/
theorem Alike.grow (hgh : g.Alike h) (accept : String → Bool) (unseen : List String)
    (current : String) : g.grow accept unseen current = h.grow accept unseen current := by
  have hleft (unseen : List String) (current : String) :
      ((g.neighbours current).filter (unseen.contains ·)).Perm
        ((h.neighbours current).filter (unseen.contains ·)) := (hgh.neighbours current).filter _
  induction unseen, current using grow.induct g accept with
  | case1 unseen current next hone haccept ih =>
    have hone' := List.singleton_perm.1 (hone ▸ hleft unseen current)
    rw [grow_of_filter_eq hone, grow_of_filter_eq hone'.symm, if_pos haccept, if_pos haccept, ih]
  | case2 unseen current next hone haccept =>
    have hone' := List.singleton_perm.1 (hone ▸ hleft unseen current)
    rw [grow_of_filter_eq hone, grow_of_filter_eq hone'.symm, if_neg haccept, if_neg haccept]
  | case3 unseen current hnone =>
    rw [grow_of_forall_filter_ne hnone, grow_of_forall_filter_ne fun next hone => ?_]
    exact hnone next (List.perm_singleton.1 (hone ▸ hleft unseen current))

theorem Alike.innerLinear (hgh : g.Alike h) (path : List String) :
    g.innerLinear path = h.innerLinear path := by
  induction path with
  | nil => rfl
  | cons a rest ih =>
    cases rest with
    | nil => rfl
    | cons b rest =>
      show (g.degree a == 2 && g.innerLinear (b :: rest))
        = (h.degree a == 2 && h.innerLinear (b :: rest))
      rw [ih, hgh.degree]

theorem Alike.isLinear (hgh : g.Alike h) (path : List String) :
    g.isLinear path = h.isLinear path := by
  cases path with
  | nil => rfl
  | cons first rest =>
    rw [Graph.isLinear, Graph.isLinear, hgh.degree]
    simp only [hgh.innerLinear]

theorem Alike.pathsFrom (hgh : g.Alike h) (unseen starts : List String) :
    g.pathsFrom unseen starts = h.pathsFrom unseen starts := by
  induction starts generalizing unseen with
  | nil => rfl
  | cons start rest ih => simp only [Graph.pathsFrom, hgh.degree, hgh.grow, ih]

theorem Alike.chains (hgh : g.Alike h) : g.chains = h.chains := by
  simp only [Graph.chains, hgh.pathsFrom, hgh.names, hgh.isLinear]

/-! ## Clusters

Searches do depend on the order of neighbours, in the order in which they visit. What they visit
does not, and this is taken from what can be reached. -/

theorem Alike.reaches (hgh : g.Alike h) (unseen : List String) :
    g.Reaches unseen = h.Reaches unseen := by
  have hstep : g.HubStep unseen = h.HubStep unseen := by
    funext a b
    rw [HubStep, HubStep, (hgh.neighbours a).mem_iff, hgh.degree]
  rw [Reaches, Reaches, hstep]

/-- **A search visits the same entities**, in another order. By what a search reaches both lists
have the same members, and neither has one twice; the order of the visits is never followed. -/
theorem Alike.explore_fst (hgh : g.Alike h) {unseen : List String} (hu : unseen.Nodup)
    (stack : List String) : (g.explore unseen stack).1.Perm (h.explore unseen stack).1 := by
  refine (List.perm_ext_iff_of_nodup (nodup_explore hu) (nodup_explore hu)).2 fun n => ?_
  rw [mem_explore_iff, mem_explore_iff, hgh.reaches]

/-- **It leaves the same entities**, in the same order: what is unseen is a filter of what was, so
that the next search starts alike in both graphs. -/
theorem Alike.explore_snd (hgh : g.Alike h) {unseen : List String} (hu : unseen.Nodup)
    (stack : List String) : (g.explore unseen stack).2 = (h.explore unseen stack).2 := by
  rw [Graph.explore_snd hu, Graph.explore_snd hu]
  refine List.filter_congr fun n _ => ?_
  rw [(hgh.explore_fst hu stack).contains_eq]

theorem Alike.groupsFrom (hgh : g.Alike h) {unseen : List String} (hu : unseen.Nodup)
    (starts : List String) :
    List.Forall₂ List.Perm (g.groupsFrom unseen starts) (h.groupsFrom unseen starts) := by
  induction starts generalizing unseen with
  | nil => exact .nil
  | cons start rest ih =>
    by_cases hstart : start ∈ unseen
    · rw [groupsFrom_cons_of_mem hstart, groupsFrom_cons_of_mem hstart, ← hgh.explore_snd hu]
      exact .cons (hgh.explore_fst hu _) (ih (nodup_explore_snd hu))
    · rw [groupsFrom_cons_of_notMem hstart, groupsFrom_cons_of_notMem hstart]
      exact ih hu

/-- The edges inside a group depend on its members alone. -/
theorem Alike.innerEdges (hgh : g.Alike h) {m m' : List String} (hm : m.Perm m') :
    g.innerEdges m = h.innerEdges m' := by
  have hwithin : within m = within m' := by
    funext p
    induction p with | _ a b => ?_
    show (m.contains a && m.contains b) = (m'.contains a && m'.contains b)
    rw [hm.contains_eq, hm.contains_eq]
  rw [innerEdges_eq_countP, innerEdges_eq_countP, hwithin, hgh.pairs.countP_eq]

theorem Alike.clusters (hgh : g.Alike h) (hn : g.names.Nodup) :
    List.Forall₂ Cluster.Alike g.clusters h.clusters := by
  have hgroups := hgh.groupsFrom hn g.names
  have hlarge : List.Forall₂ List.Perm
      ((g.groupsFrom g.names g.names).filter fun m => minClusterSize ≤ m.length)
      ((h.groupsFrom g.names g.names).filter fun m => minClusterSize ≤ m.length) :=
    List.rel_filter (fun _ _ hm => by simp only [hm.length_eq]) hgroups
  unfold Graph.clusters
  rw [List.forall₂_map_left_iff, List.forall₂_map_right_iff, ← hgh.names]
  refine hlarge.imp fun m m' hm => ⟨hm, ?_⟩
  rw [Cluster.density, Cluster.density, Cluster.possible, Cluster.possible, hm.length_eq,
    hgh.innerEdges hm]

end Graph

/-! ## Coverage -/

/-- **Coverage counts**, so that it does not depend on the order of what it counts. -/
theorem Coverage.of_congr {hubs hubs' : List Hub} {clusters clusters' : List Cluster}
    (hh : List.Forall₂ Hub.Alike hubs hubs') (hc : List.Forall₂ Cluster.Alike clusters clusters')
    (n : Int) (chains : List Chain) :
    Coverage.of n hubs chains clusters = Coverage.of n hubs' chains clusters' := by
  have hcovered : (hubs.flatMap fun h => h.entity :: h.neighbours).Perm
      (hubs'.flatMap fun h => h.entity :: h.neighbours) := by
    refine List.Perm.flatten_congr ?_
    rw [List.forall₂_map_left_iff, List.forall₂_map_right_iff]
    exact hh.imp fun a b hab => hab.entity ▸ hab.neighbours.cons _
  have hmembers : (clusters.flatMap (·.entities)).Perm (clusters'.flatMap (·.entities)) := by
    refine List.Perm.flatten_congr ?_
    rw [List.forall₂_map_left_iff, List.forall₂_map_right_iff]
    exact hc.imp fun a b hab => hab.entities
  unfold Coverage.of
  rw [length_eraseDups_congr fun _ => hcovered.mem_iff, hmembers.length_eq]

/-! ## Diagrams -/

theorem Graph.alike_ofDiagram {d d' : Diagram} (hn : d.entityNames = d'.entityNames)
    (hp : d.joinedPairs = d'.joinedPairs) : (Graph.ofDiagram d).Alike (Graph.ofDiagram d') where
  names := by rw [names_ofDiagram, names_ofDiagram, hn]
  pairs := by
    refine (List.perm_ext_iff_of_nodup (nodup_pairs_ofDiagram d) (nodup_pairs_ofDiagram d')).2
      fun p => ?_
    rw [mem_pairs_ofDiagram, mem_pairs_ofDiagram, hp]

/-- **The analysis depends only on the names and on the pairs that are joined.** Labels,
cardinalities, attributes, repetitions, directions and the order of the relationships make no
difference. -/
theorem Diagram.analyze_alike {d d' : Diagram} (hn : d.entityNames = d'.entityNames)
    (hp : d.joinedPairs = d'.joinedPairs) : d.analyze.Alike d'.analyze := by
  have hgh := Graph.alike_ofDiagram hn hp
  have hclusters := hgh.clusters (Graph.nodup_names_ofDiagram d)
  have hcoverage : d.analyze.coverage = d'.analyze.coverage := by
    show Coverage.of _ _ _ _ = Coverage.of _ _ _ _
    rw [Coverage.of_congr hgh.hubs hclusters, hgh.names, hgh.chains]
  have hpattern : d.analyze.pattern = d'.analyze.pattern := congrArg Coverage.pattern hcoverage
  have hedges : (Graph.ofDiagram d).edges.length = (Graph.ofDiagram d').edges.length := by
    rw [← Graph.length_pairs, ← Graph.length_pairs, hgh.pairs.length_eq]
  refine ⟨hgh.hubs, hgh.isolated, hgh.chains, hclusters, hcoverage, hpattern, ?_⟩
  show Strategy.recommended d.analyze.pattern _ _ = Strategy.recommended d'.analyze.pattern _ _
  rw [hpattern, hgh.names, hedges]

/-- Three entities that are all joined, and one that is not. -/
def Diagram.triangle : Diagram where
  entities := [{ name := "A" }, { name := "B" }, { name := "C" }, { name := "D" }]
  relationships := [
    { source := "A", target := "B", cardinality := ⟨.one, .one⟩ },
    { source := "B", target := "C", cardinality := ⟨.one, .one⟩ },
    { source := "C", target := "A", cardinality := ⟨.one, .one⟩ }]

/-- The same pairs from the last to the first and the other way round, with a label, a repeated
pair, a self-relationship and an end that is not declared. -/
def Diagram.triangleRedrawn : Diagram where
  entities := [{ name := "A", weak := true }, { name := "B" }, { name := "C" }, { name := "D" }]
  relationships := [
    { source := "A", target := "C", cardinality := ⟨.one, .zeroOrMany⟩ },
    { source := "D", target := "D", cardinality := ⟨.one, .one⟩ },
    { source := "C", target := "B", cardinality := ⟨.one, .one⟩, label := some "of" },
    { source := "D", target := "E", cardinality := ⟨.one, .one⟩ },
    { source := "B", target := "A", cardinality := ⟨.one, .one⟩ },
    { source := "A", target := "B", cardinality := ⟨.one, .one⟩ }]

theorem Diagram.analyze_alike_triangle :
    triangle.entityNames = triangleRedrawn.entityNames ∧
      triangle.joinedPairs = triangleRedrawn.joinedPairs ∧
      triangle.analyze.Alike triangleRedrawn.analyze :=
  have hn : triangle.entityNames = triangleRedrawn.entityNames := by decide
  have hp : triangle.joinedPairs = triangleRedrawn.joinedPairs := by decide
  ⟨hn, hp, analyze_alike hn hp⟩

end ErDiagram
