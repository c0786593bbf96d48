import ErDiagram.Proofs.Connectivity.Clusters

/-!
# Clusters and the order of the declarations

A search for a cluster starts at any entity that is still unseen, and only goes on to hubs. So the
one entity of a cluster that may be no hub is the first one: an entity that hangs on one of the
hubs, if it is declared before all of them. Then it is in the cluster, and declared later it would
not be. Clusters have hubs only, and do not depend on the order of the declarations, exactly if
there is no such leaf.

The two conditions differ. Clusters of one diagram have hubs only if each leaf is declared after
some hub that it leads to, which is about its order. That no order changes them is about leaves at
all: where there is one, the order that has it first and the order that has its hub first give
different clusters.

A leaf counts only where a cluster can form. An entity that hangs on a hub whose other neighbours
are no hubs is in no cluster, because two entities are too few for one; hence the last field of
`IsLeafOn`.
-/

namespace ErDiagram

namespace Graph

variable {g : Graph}

/-! ## Leaves -/

/-- **A leaf on a group of hubs**: its only neighbour is a hub that is joined with another hub. So
with the two hubs it is one of three entities, which is as many as a cluster needs. -/
@[mk_iff]
structure IsLeafOn (g : Graph) (n h : String) : Prop where
  /-- It has one neighbour, so that it is no hub itself. -/
  degree : g.degree n = 1
  /-- The neighbour is the entity that it is a leaf on. -/
  mem_neighbours : h ∈ g.neighbours n
  /-- The neighbour is a hub. -/
  two_le : 2 ≤ g.degree h
  /-- The hub is joined with another hub, which a search goes on to. -/
  exists_hub : ∃ k ∈ g.neighbours h, 2 ≤ g.degree k

theorem IsLeafOn.not_two_le {n h : String} (hleaf : g.IsLeafOn n h) : ¬ 2 ≤ g.degree n := by
  rw [hleaf.degree]
  decide

theorem IsLeafOn.reaches (hg : g.IsSimple) {n h : String} (hleaf : g.IsLeafOn n h) :
    g.Reaches g.names n h :=
  .single (hg.hubStep_names_iff.2 ⟨hleaf.mem_neighbours, hleaf.two_le⟩)

/-- **What reaches two hubs that are joined** reaches three entities, unless it is one of them. -/
theorem IsSimple.three_le_ncard_reaches (hg : g.IsSimple) {s h k : String}
    (hs : ¬ 2 ≤ g.degree s) (hh : 2 ≤ g.degree h) (hk : 2 ≤ g.degree k) (hhk : k ∈ g.neighbours h)
    (hreach : g.Reaches g.names s h) : 3 ≤ {n | g.Reaches g.names s n}.ncard := by
  have hsk := hreach.tail (hg.hubStep_names_iff.2 ⟨hhk, hk⟩)
  refine (Set.two_lt_ncard_iff (hg.finite_reaches s)).2 ⟨s, h, k, .refl, hreach, hsk, ?_, ?_, ?_⟩
  · exact fun heq => hs (heq ▸ hh)
  · exact fun heq => hs (heq ▸ hk)
  · exact fun heq => hg.loopless h (heq ▸ hhk)

/-- **An entity that is no hub and reaches three entities is a leaf.** -/
theorem IsSimple.exists_isLeafOn (hg : g.IsSimple) {s h : String} (hs : ¬ 2 ≤ g.degree s)
    (hh : 2 ≤ g.degree h) (hreach : g.Reaches g.names s h)
    (hthree : 3 ≤ {n | g.Reaches g.names s n}.ncard) :
    ∃ b, g.IsLeafOn s b ∧ g.Reaches g.names b h := by
  obtain ⟨b, hone, hsb, hb, hiff⟩ := hg.exists_of_not_two_le hs hh hreach
  refine ⟨b, ⟨hone, hsb, hb, ?_⟩, ((hiff h).1 hreach).resolve_left fun heq => hs (heq ▸ hh)⟩
  by_contra hnone
  have hpair : {n | g.Reaches g.names s n} ⊆ {s, b} := by
    intro n hn
    rcases (hiff n).1 hn with rfl | hbn
    · exact .inl rfl
    rcases hbn.cases_head with rfl | ⟨k, hbk, -⟩
    · exact .inr rfl
    · exact absurd ⟨k, hbk.1, hbk.2.2⟩ hnone
  have htwo : ({s, b} : Set String).ncard ≤ 2 := by
    refine (Set.ncard_insert_le s {b}).trans ?_
    rw [Set.ncard_singleton]
  exact absurd (hthree.trans ((Set.ncard_le_ncard hpair (Set.toFinite _)).trans htwo)) (by decide)

/-! ## The first to reach a hub

A leaf is in a cluster only if a search starts there before its hub has been seen. So what decides
is which entity is the first to reach the hub, in the order of the declarations. -/

theorem IsSimple.exists_firstToReach (hg : g.IsSimple) {h : String} (hh : 2 ≤ g.degree h) :
    ∃ s, g.FirstToReach h g.names s := by
  obtain ⟨s, hfirst, -⟩ := hg.exists_mem_groupsFrom hg.nodup_names hg.settled_names
    (List.Subset.refl _) (hg.mem_names_of_two_le hh) hh
  exact ⟨s, hfirst⟩

/-- **What is no hub and is in a cluster** is a leaf, and the first to reach its hub. -/
theorem IsSimple.exists_isLeafOn_of_mem_clusters (hg : g.IsSimple) {c : Cluster}
    (hc : c ∈ g.clusters) {n : String} (hn : n ∈ c.entities) (hlow : ¬ 2 ≤ g.degree n) :
    ∃ h, g.IsLeafOn n h ∧ g.FirstToReach h g.names n := by
  obtain ⟨k, s, hk, hfirst, hiff⟩ := hg.exists_of_mem_clusters hc
  obtain rfl : n = s := ((hiff n).1 hn).eq_or_two_le.resolve_right hlow
  obtain ⟨hthree, -⟩ := hg.exists_cluster_iff.1 ⟨c, hc, Set.ext hiff⟩
  obtain ⟨h, hleaf, hhk⟩ := hg.exists_isLeafOn hlow hk hfirst.reaches hthree
  exact ⟨h, hleaf, hfirst.of_reaches (hg.reaches_symm hleaf.two_le hhk) hhk⟩

/-- **A leaf is in a cluster exactly if it is the first to reach its hub.** -/
theorem IsLeafOn.exists_mem_clusters_iff (hg : g.IsSimple) {n h : String}
    (hleaf : g.IsLeafOn n h) :
    (∃ c ∈ g.clusters, n ∈ c.entities) ↔ g.FirstToReach h g.names n := by
  constructor
  · rintro ⟨c, hc, hn⟩
    obtain ⟨k, hleaf', hfirst⟩ := hg.exists_isLeafOn_of_mem_clusters hc hn hleaf.not_two_le
    obtain ⟨x, hx⟩ := List.length_eq_one_iff.1 hleaf.degree
    have hxh : h = x := List.mem_singleton.1 (hx ▸ hleaf.mem_neighbours)
    have hxk : k = x := List.mem_singleton.1 (hx ▸ hleaf'.mem_neighbours)
    exact hxk.trans hxh.symm ▸ hfirst
  · intro hfirst
    obtain ⟨k, hhk, hk⟩ := hleaf.exists_hub
    have hthree := hg.three_le_ncard_reaches hleaf.not_two_le hleaf.two_le hk hhk hfirst.reaches
    obtain ⟨c, hc, hset⟩ := hg.exists_cluster_iff.2 ⟨hthree, h, n, hleaf.two_le, hfirst, rfl⟩
    exact ⟨c, hc, hset.symm.subset .refl⟩

/-- A leaf that is declared first is in a cluster. -/
theorem IsLeafOn.exists_mem_clusters (hg : g.IsSimple) {n h : String} (hleaf : g.IsLeafOn n h)
    {rest : List String} (hnames : g.names = n :: rest) : ∃ c ∈ g.clusters, n ∈ c.entities := by
  rw [hleaf.exists_mem_clusters_iff hg, hnames]
  exact .head (hleaf.reaches hg)

/-- **Clusters have hubs only** exactly if no leaf is declared before all hubs that it leads to. A
leaf that is declared before them is the first to reach them, and the search starts at it. -/
theorem IsSimple.forall_clusters_two_le_iff (hg : g.IsSimple) :
    (∀ c ∈ g.clusters, ∀ n ∈ c.entities, 2 ≤ g.degree n) ↔
      ∀ n h, g.IsLeafOn n h → ∃ m, g.Reaches g.names h m ∧ g.index m < g.index n := by
  constructor
  · intro hall n h hleaf
    obtain ⟨s, hfirst⟩ := hg.exists_firstToReach hleaf.two_le
    have hs : 2 ≤ g.degree s := by
      by_contra hs
      obtain ⟨k, hhk, hk⟩ := hleaf.exists_hub
      have hthree := hg.three_le_ncard_reaches hs hleaf.two_le hk hhk hfirst.reaches
      obtain ⟨c, hc, hset⟩ := hg.exists_cluster_iff.2 ⟨hthree, h, s, hleaf.two_le, hfirst, rfl⟩
      exact hs (hall c hc s (hset.symm.subset .refl))
    refine ⟨s, hg.reaches_symm hs hfirst.reaches, ?_⟩
    refine Nat.lt_of_le_of_ne (hfirst.idxOf_le (hleaf.reaches hg)) fun heq => ?_
    obtain rfl := (List.idxOf_inj hfirst.mem).1 heq
    exact hleaf.not_two_le hs
  · intro hall c hc n hn
    by_contra hlow
    obtain ⟨h, hleaf, hfirst⟩ := hg.exists_isLeafOn_of_mem_clusters hc hn hlow
    obtain ⟨m, hhm, hlt⟩ := hall n h hleaf
    exact Nat.not_le_of_lt hlt (hfirst.idxOf_le (hg.reaches_symm hleaf.two_le hhm))

/-- **Without leaves the clusters are the groups of hubs.** -/
theorem IsSimple.exists_cluster_iff_of_forall_not (hg : g.IsSimple)
    (hnone : ∀ n h, ¬ g.IsLeafOn n h) {S : Set String} :
    (∃ c ∈ g.clusters, {n | n ∈ c.entities} = S) ↔
      3 ≤ S.ncard ∧ ∃ h, 2 ≤ g.degree h ∧ S = {n | g.Reaches g.names h n} := by
  rw [hg.exists_cluster_iff]
  refine and_congr_right fun hthree => ⟨?_, ?_⟩
  · rintro ⟨h, s, hh, hfirst, rfl⟩
    by_cases hs : 2 ≤ g.degree s
    · exact ⟨s, hs, rfl⟩
    · obtain ⟨b, hleaf, -⟩ := hg.exists_isLeafOn hs hh hfirst.reaches hthree
      exact absurd hleaf (hnone s b)
  · rintro ⟨h, hh, rfl⟩
    obtain ⟨s, hfirst⟩ := hg.exists_firstToReach hh
    have hsub : {n | g.Reaches g.names h n} ⊆ {n | g.Reaches g.names s n} := fun n hn =>
      hfirst.reaches.trans hn
    by_cases hs : 2 ≤ g.degree s
    · refine ⟨h, s, hh, hfirst, hsub.antisymm fun n hn => ?_⟩
      exact (hg.reaches_symm hs hfirst.reaches).trans hn
    · have hlarge := hthree.trans (Set.ncard_le_ncard hsub (hg.finite_reaches s))
      obtain ⟨b, hleaf, -⟩ := hg.exists_isLeafOn hs hh hfirst.reaches hlarge
      exact absurd hleaf (hnone s b)

/-! ## The order of the declarations

Degrees, neighbours and what can be reached are the same in any order. What is left is the first
to reach a hub. Without leaves it makes no difference, as an entity that is no hub then reaches
too few to start a cluster. -/

/-- **The same graph with its entities in another order.** Unlike in `Alike`, the names may be
permuted as well. -/
structure Reordered (g h : Graph) : Prop where
  /-- The names are the same, in any order. -/
  names : g.names.Perm h.names
  /-- The pairs are the same, in any order. -/
  pairs : g.pairs.Perm h.pairs

variable {h : Graph}

theorem Reordered.degree (hgh : g.Reordered h) : g.degree = h.degree :=
  funext fun n => (neighbours_perm hgh.pairs n).length_eq

theorem Reordered.mem_neighbours_iff (hgh : g.Reordered h) {m n : String} :
    m ∈ g.neighbours n ↔ m ∈ h.neighbours n :=
  (neighbours_perm hgh.pairs n).mem_iff

/-- What can be reached does not depend on the order. -/
theorem Reordered.reaches (hgh : g.Reordered h) : g.Reaches g.names = h.Reaches h.names := by
  have hstep : g.HubStep g.names = h.HubStep h.names := by
    funext a b
    rw [HubStep, HubStep, hgh.mem_neighbours_iff, hgh.names.mem_iff, hgh.degree]
  rw [Reaches, Reaches, hstep]

theorem Reordered.isLeafOn_iff (hgh : g.Reordered h) {m n : String} :
    g.IsLeafOn m n ↔ h.IsLeafOn m n := by
  simp only [Graph.isLeafOn_iff, hgh.degree, hgh.mem_neighbours_iff]

/-- **Without leaves the clusters do not depend on the order.** -/
theorem Reordered.exists_cluster_iff (hgh : g.Reordered h) (hg : g.IsSimple) (hh : h.IsSimple)
    (hnone : ∀ m n, ¬ g.IsLeafOn m n) {S : Set String} :
    (∃ c ∈ g.clusters, {n | n ∈ c.entities} = S) ↔
      ∃ c ∈ h.clusters, {n | n ∈ c.entities} = S := by
  have hnone' : ∀ m n, ¬ h.IsLeafOn m n := fun m n hleaf => hnone m n (hgh.isLeafOn_iff.2 hleaf)
  rw [hg.exists_cluster_iff_of_forall_not hnone, hh.exists_cluster_iff_of_forall_not hnone',
    hgh.degree, hgh.reaches]

/-- The clusters have as many entities as their sets have. -/
theorem length_flatMap_clusters_congr (hg : g.IsSimple) (hh : h.IsSimple)
    (hsets : ∀ S : Set String, (∃ c ∈ g.clusters, {n | n ∈ c.entities} = S) ↔
      ∃ c ∈ h.clusters, {n | n ∈ c.entities} = S) :
    (g.clusters.flatMap (·.entities)).length = (h.clusters.flatMap (·.entities)).length := by
  have hnodup : ∀ {g : Graph}, g.IsSimple → (g.clusters.flatMap (·.entities)).Nodup := fun hg =>
    List.nodup_flatMap.2 ⟨fun c hc => hg.nodup_of_mem_clusters hc, hg.pairwise_disjoint_clusters⟩
  have hmem : ∀ (g : Graph) (n : String), n ∈ g.clusters.flatMap (·.entities) ↔
      ∃ S : Set String, (∃ c ∈ g.clusters, {n | n ∈ c.entities} = S) ∧ n ∈ S := by
    intro g n
    rw [List.mem_flatMap]
    constructor
    · exact fun ⟨c, hc, hn⟩ => ⟨_, ⟨c, hc, rfl⟩, hn⟩
    · rintro ⟨_, ⟨c, hc, rfl⟩, hn⟩
      exact ⟨c, hc, hn⟩
  refine List.Perm.length_eq ?_
  rw [List.perm_ext_iff_of_nodup (hnodup hg) (hnodup hh)]
  intro n
  rw [hmem, hmem]
  simp only [hsets]

end Graph

/-! ## Diagrams -/

/-- **The sets of entities that an analysis finds as clusters.** Another order of the declarations
lists them, and the entities in each, in another order, which is no difference that matters here. -/
def Analysis.clusterSets (a : Analysis) : Set (Set String) :=
  {S | ∃ c ∈ a.clusters, {n | n ∈ c.entities} = S}

namespace Diagram

variable {d d' : Diagram}

theorem reordered_ofDiagram (he : d'.entities.Perm d.entities)
    (hr : d'.relationships = d.relationships) :
    (Graph.ofDiagram d').Reordered (Graph.ofDiagram d) where
  names := by
    have hnames : d'.entityNames.Perm d.entityNames := he.map _
    rw [Graph.names_ofDiagram, Graph.names_ofDiagram,
      List.perm_ext_iff_of_nodup (nodup_eraseDups _) (nodup_eraseDups _)]
    intro n
    rw [List.mem_eraseDups, List.mem_eraseDups, hnames.mem_iff]
  pairs := by
    have hnames : d'.entityNames.Perm d.entityNames := he.map _
    refine (List.perm_ext_iff_of_nodup (Graph.nodup_pairs_ofDiagram d')
      (Graph.nodup_pairs_ofDiagram d)).2 fun p => ?_
    simp only [Graph.mem_pairs_ofDiagram, mem_joinedPairs, hr, hnames.mem_iff]

/-- Any entity may be declared first. -/
theorem exists_perm_names_eq_cons {n : String} (hn : n ∈ (Graph.ofDiagram d).names) :
    ∃ d' : Diagram, d'.entities.Perm d.entities ∧ d'.relationships = d.relationships ∧
      ∃ rest, (Graph.ofDiagram d').names = n :: rest := by
  rw [Graph.mem_names_ofDiagram] at hn
  obtain ⟨e, he, rfl⟩ := List.mem_map.1 hn
  obtain ⟨before, after, hsplit⟩ := List.append_of_mem he
  refine ⟨{ d with entities := e :: (before ++ after) }, ?_, rfl, ?_⟩
  · rw [hsplit]
    exact List.perm_middle.symm
  · rw [Graph.names_ofDiagram]
    exact ⟨_, List.eraseDups_cons⟩

/-- **A leaf is in a cluster if it is declared first**, and in none if its hub is. -/
theorem clusterSets_ne_of_names_eq_cons {n h : String} {before after : List String}
    (he : d'.entities.Perm d.entities) (hr : d'.relationships = d.relationships)
    (hleaf : (Graph.ofDiagram d).IsLeafOn n h) (hnames : (Graph.ofDiagram d).names = n :: before)
    (hnames' : (Graph.ofDiagram d').names = h :: after) :
    d'.analyze.clusterSets ≠ d.analyze.clusterSets := by
  intro hsets
  have hleaf' := (reordered_ofDiagram he hr).isLeafOn_iff.2 hleaf
  have hfirst' : (Graph.ofDiagram d').FirstToReach h (Graph.ofDiagram d').names h := by
    rw [hnames']
    exact .head .refl
  obtain ⟨c, hc, hn⟩ := hleaf.exists_mem_clusters (Graph.isSimple_ofDiagram d) hnames
  obtain ⟨c', hc', hset⟩ : {m | m ∈ c.entities} ∈ d'.analyze.clusterSets := hsets ▸ ⟨c, hc, rfl⟩
  have hn' : n ∈ c'.entities := hset.symm.subset hn
  obtain rfl := ((hleaf'.exists_mem_clusters_iff (Graph.isSimple_ofDiagram d')).1
    ⟨c', hc', hn'⟩).unique hfirst'
  exact hleaf.not_two_le hleaf.two_le

/-- **Where there is a leaf, the order of the declarations matters.** One order has the leaf
first, and the other the hub that it hangs on. -/
theorem exists_clusterSets_ne {n h : String} (hleaf : (Graph.ofDiagram d).IsLeafOn n h) :
    ∃ d₁ d₂ : Diagram, (d₁.entities.Perm d.entities ∧ d₁.relationships = d.relationships) ∧
      (d₂.entities.Perm d.entities ∧ d₂.relationships = d.relationships) ∧
      d₁.analyze.clusterSets ≠ d₂.analyze.clusterSets := by
  have hg := Graph.isSimple_ofDiagram d
  obtain ⟨d₁, he₁, hr₁, rest₁, hnames₁⟩ :=
    exists_perm_names_eq_cons (hg.mem_names_of_two_le hleaf.two_le)
  obtain ⟨d₂, he₂, hr₂, rest₂, hnames₂⟩ :=
    exists_perm_names_eq_cons (hg.declared h (Graph.mem_neighbours_comm.1 hleaf.mem_neighbours))
  have hleaf₂ := (reordered_ofDiagram he₂ hr₂).isLeafOn_iff.2 hleaf
  exact ⟨d₁, d₂, ⟨he₁, hr₁⟩, ⟨he₂, hr₂⟩, clusterSets_ne_of_names_eq_cons (he₁.trans he₂.symm)
    (hr₁.trans hr₂.symm) hleaf₂ hnames₂ hnames₁⟩

/-- **Without leaves the order of the declarations does not matter.** -/
theorem clusterSets_eq_of_forall_not (he : d'.entities.Perm d.entities)
    (hr : d'.relationships = d.relationships)
    (hnone : ∀ n h, ¬ (Graph.ofDiagram d).IsLeafOn n h) :
    d'.analyze.clusterSets = d.analyze.clusterSets ∧
      d'.analyze.coverage.clusters = d.analyze.coverage.clusters := by
  have hgh := reordered_ofDiagram he hr
  have hsets : ∀ S : Set String, S ∈ d'.analyze.clusterSets ↔ S ∈ d.analyze.clusterSets :=
    fun S => hgh.exists_cluster_iff (Graph.isSimple_ofDiagram d') (Graph.isSimple_ofDiagram d)
      fun n h hleaf => hnone n h (hgh.isLeafOn_iff.1 hleaf)
  have hlength := Graph.length_flatMap_clusters_congr (Graph.isSimple_ofDiagram d')
    (Graph.isSimple_ofDiagram d) hsets
  refine ⟨Set.ext hsets, ?_⟩
  show Share.mk ((Graph.ofDiagram d').clusters.flatMap (·.entities)).length
      (Graph.ofDiagram d').names.length
    = Share.mk ((Graph.ofDiagram d).clusters.flatMap (·.entities)).length
      (Graph.ofDiagram d).names.length
  rw [hlength, hgh.names.length_eq]

/-- **Clusters have hubs only exactly if no leaf is declared before all hubs that it leads to**,
and they do not depend on the order of the declarations exactly if there is no leaf. Both
conditions are about the graph, and both are necessary as well as sufficient, so that they say for
which diagrams the search finds what a search among hubs would find. -/
theorem clusters_hubs_iff (d : Diagram) :
    ((∀ c ∈ d.analyze.clusters, ∀ n ∈ c.entities, 2 ≤ d.analyze.graph.degree n) ↔
      ∀ n h, d.analyze.graph.IsLeafOn n h →
        ∃ m, d.analyze.graph.Reaches d.analyze.graph.names h m ∧
          d.analyze.graph.index m < d.analyze.graph.index n) ∧
    ((∀ d' : Diagram, d'.entities.Perm d.entities → d'.relationships = d.relationships →
        d'.analyze.clusterSets = d.analyze.clusterSets ∧
          d'.analyze.coverage.clusters = d.analyze.coverage.clusters) ↔
      ∀ n h, ¬ d.analyze.graph.IsLeafOn n h) := by
  have hg := Graph.isSimple_ofDiagram d
  refine ⟨hg.forall_clusters_two_le_iff, fun hall n h hleaf => ?_, fun hnone d' he hr =>
    clusterSets_eq_of_forall_not he hr hnone⟩
  obtain ⟨d₁, d₂, ⟨he₁, hr₁⟩, ⟨he₂, hr₂⟩, hne⟩ := exists_clusterSets_ne hleaf
  exact hne ((hall d₁ he₁ hr₁).1.trans (hall d₂ he₂ hr₂).1.symm)

/-- A row of four entities, which may be declared in any order. -/
def rowOfFour (names : List String) : Diagram where
  entities := names.map fun n => { name := n }
  relationships := [
    { source := "A", target := "B", cardinality := ⟨.one, .one⟩ },
    { source := "B", target := "C", cardinality := ⟨.one, .one⟩ },
    { source := "C", target := "D", cardinality := ⟨.one, .one⟩ }]

/-- **A cluster may have an entity with one neighbour**, which it loses in another order of the
declarations. -/
theorem not_two_le_degree_clusters :
    (¬ ∀ d : Diagram, ∀ c ∈ d.analyze.clusters, ∀ n ∈ c.entities,
      2 ≤ d.analyze.graph.degree n) ∧
    ¬ ∀ d d' : Diagram, d'.entities.Perm d.entities → d'.relationships = d.relationships →
      d'.analyze.clusterSets = d.analyze.clusterSets ∧
        d'.analyze.coverage.clusters = d.analyze.coverage.clusters := by
  have hleaf : (Graph.ofDiagram (rowOfFour ["A", "B", "C", "D"])).IsLeafOn "A" "B" :=
    { degree := by decide
      mem_neighbours := by decide
      two_le := by decide
      exists_hub := ⟨"C", by decide, by decide⟩ }
  have hnames : (Graph.ofDiagram (rowOfFour ["A", "B", "C", "D"])).names = ["A", "B", "C", "D"] :=
    by decide
  have hnames' : (Graph.ofDiagram (rowOfFour ["B", "C", "D", "A"])).names = ["B", "C", "D", "A"] :=
    by decide
  have hperm : (rowOfFour ["B", "C", "D", "A"]).entities.Perm
      (rowOfFour ["A", "B", "C", "D"]).entities :=
    List.Perm.map (fun n => ({ name := n } : Entity)) (by decide)
  refine ⟨fun h => ?_, fun h => ?_⟩
  · obtain ⟨c, hc, hA⟩ := hleaf.exists_mem_clusters (Graph.isSimple_ofDiagram _) hnames
    exact hleaf.not_two_le (h _ c hc "A" hA)
  · exact clusterSets_ne_of_names_eq_cons hperm rfl hleaf hnames hnames' (h _ _ hperm rfl).1

end Diagram

end ErDiagram
