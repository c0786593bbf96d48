import ErDiagram.Connectivity.Analysis
import ErDiagram.Connectivity.Backbone
import ErDiagram.Proofs.Connectivity.Reach

/-!
# The analysis finds only what is declared

Hubs, chains, clusters and backbones are made of entities of the graph: a search goes on only to
what it has not seen yet, and at first that is the names of the graph. Since the neighbours of an
entity are declared too, everything that an analysis names is an entity of the diagram.

This is what the layout strategies need to know of an analysis, and all that they need: they place
what it names. `Analysis.Within` collects it, so that statements about strategies can be made for
any analysis of this kind.
-/

namespace ErDiagram

/-- **An analysis that names nothing but the given names.** There is a field for each part of an
analysis that a strategy takes names from. -/
structure Analysis.Within (a : Analysis) (names : List String) : Prop where
  /-- The entities of the graph are among them. -/
  graph : a.graph.names ⊆ names
  /-- Whatever is adjacent to something is among them, also for a name that is none of the graph
  and has no neighbours. -/
  neighbours : ∀ n, a.graph.neighbours n ⊆ names
  /-- The hubs are among them. -/
  hubs : ∀ h ∈ a.hubs, h.entity ∈ names
  /-- The neighbours of hubs are among them. -/
  hubNeighbours : ∀ h ∈ a.hubs, h.neighbours ⊆ names
  /-- The entities of chains are among them. -/
  chains : ∀ c ∈ a.chains, c.entities ⊆ names
  /-- The members of clusters are among them. -/
  clusters : ∀ c ∈ a.clusters, c.entities ⊆ names
  /-- The isolated entities are among them. -/
  isolated : a.isolated ⊆ names

namespace Graph

variable {g : Graph}

/-! ## Hubs and chains -/

/-- A hub is an entity of the graph with its neighbours. -/
theorem exists_of_mem_hubs {h : Hub} (hh : h ∈ g.hubs) :
    ∃ n ∈ g.names, h = ⟨n, g.neighbours n⟩ := by
  unfold hubs at hh
  rw [List.mem_mergeSort, List.mem_filter, List.mem_map] at hh
  obtain ⟨⟨n, hn, rfl⟩, _⟩ := hh
  exact ⟨n, hn, rfl⟩

/-- A path goes on to unseen entities. -/
theorem grow_subset (accept : String → Bool) (unseen : List String) (current : String) :
    g.grow accept unseen current ⊆ unseen := by
  induction unseen, current using grow.induct g accept with
  | case1 unseen current next hone haccept ih =>
    have hnext : next ∈ unseen := by
      have hmem := hone ▸ List.mem_singleton_self next
      simpa using (List.mem_filter.1 hmem).2
    rw [grow_of_filter_eq hone, if_pos haccept]
    exact List.cons_subset.2 ⟨hnext, fun n hn => List.mem_of_mem_erase (ih hn)⟩
  | case2 unseen current next hone haccept =>
    rw [grow_of_filter_eq hone, if_neg haccept]
    exact List.nil_subset unseen
  | case3 unseen current hnone =>
    rw [grow_of_forall_filter_ne hnone]
    exact List.nil_subset unseen

theorem subset_of_mem_pathsFrom {unseen starts path : List String}
    (h : path ∈ g.pathsFrom unseen starts) : path ⊆ unseen := by
  induction starts generalizing unseen with
  | nil => cases h
  | cons start rest ih =>
    rw [pathsFrom] at h
    split at h
    · next hstart =>
      have hmem : start ∈ unseen := by
        rw [Bool.and_eq_true, List.contains_iff_mem] at hstart
        exact hstart.1
      rcases List.mem_cons.1 h with rfl | h
      · refine List.cons_subset.2 ⟨hmem, fun n hn => ?_⟩
        exact List.mem_of_mem_erase (grow_subset _ _ _ hn)
      · exact fun n hn => (List.mem_filter.1 (ih h hn)).1
    · exact ih h

theorem subset_of_mem_chains {c : Chain} (h : c ∈ g.chains) : c.entities ⊆ g.names := by
  unfold chains at h
  obtain ⟨path, hpath, rfl⟩ := List.mem_map.1 h
  exact subset_of_mem_pathsFrom (List.mem_filter.1 hpath).1

/-! ## Clusters -/

/-- **A group is what one search finds** among entities that are still unseen. Which they are
depends on the groups before, and most statements about a group do not need it. -/
theorem exists_of_mem_groupsFrom {unseen starts members : List String} (hu : unseen.Nodup)
    (h : members ∈ g.groupsFrom unseen starts) :
    ∃ start unseen', unseen'.Nodup ∧ unseen' ⊆ unseen ∧
      members = (g.explore unseen' [start]).1 := by
  induction starts generalizing unseen with
  | nil => cases h
  | cons start rest ih =>
    by_cases hstart : start ∈ unseen
    · rw [groupsFrom_cons_of_mem hstart] at h
      rcases List.mem_cons.1 h with rfl | h
      · exact ⟨start, unseen, hu, List.Subset.refl _, rfl⟩
      · obtain ⟨a, unseen', hu', hsub, hmembers⟩ := ih (nodup_explore_snd hu) h
        have hleft : (g.explore unseen [start]).2 ⊆ unseen := fun n hn =>
          ((mem_explore_snd hu).1 hn).1
        exact ⟨a, unseen', hu', List.Subset.trans hsub hleft, hmembers⟩
    · rw [groupsFrom_cons_of_notMem hstart] at h
      exact ih hu h

theorem subset_of_mem_groupsFrom {unseen starts members : List String} (hu : unseen.Nodup)
    (h : members ∈ g.groupsFrom unseen starts) : members ⊆ unseen := by
  obtain ⟨start, unseen', -, hsub, rfl⟩ := exists_of_mem_groupsFrom hu h
  exact fun n hn => hsub (mem_unseen_of_mem_explore hn)

/-- A cluster is a group of three entities or more, with the edges that are inside it. -/
theorem mem_clusters_iff {c : Cluster} :
    c ∈ g.clusters ↔ c.entities ∈ g.groupsFrom g.names g.names ∧ 3 ≤ c.entities.length ∧
      c.inner = g.innerEdges c.entities := by
  unfold clusters
  rw [List.mem_map]
  constructor
  · rintro ⟨members, hmembers, rfl⟩
    obtain ⟨hmembers, hlength⟩ := List.mem_filter.1 hmembers
    exact ⟨hmembers, of_decide_eq_true hlength, rfl⟩
  · rintro ⟨hmembers, hlength, hinner⟩
    refine ⟨c.entities, List.mem_filter.2 ⟨hmembers, decide_eq_true hlength⟩, ?_⟩
    rw [← hinner]

theorem subset_of_mem_clusters (hn : g.names.Nodup) {c : Cluster} (h : c ∈ g.clusters) :
    c.entities ⊆ g.names :=
  subset_of_mem_groupsFrom hn (mem_clusters_iff.1 h).1

/-! ## Backbones -/

/-- A breadth-first search finds what is in its queue and what has not been seen. -/
theorem mem_of_mem_searchFrom {unseen : List String} {queue : List Found} {f : Found}
    (h : f ∈ g.searchFrom unseen queue) : f ∈ queue ∨ f.entity ∈ unseen := by
  fun_induction searchFrom g unseen queue with
  | case1 unseen => cases h
  | case2 unseen e queue next hnone ih =>
    rcases List.mem_cons.1 h with rfl | h
    · exact .inl List.mem_cons_self
    · exact (ih h).imp_left (List.mem_cons_of_mem e)
  | case3 unseen e queue next hsome ih =>
    rcases List.mem_cons.1 h with rfl | h
    · exact .inl List.mem_cons_self
    rcases ih h with hq | hu
    · rcases List.mem_append.1 hq with hq | hq
      · exact .inl (List.mem_cons_of_mem e hq)
      · -- it was put into the queue as an unseen neighbour
        obtain ⟨n, hn, rfl⟩ := List.mem_map.1 hq
        exact .inr (by simpa using (List.mem_filter.1 hn).2)
    · exact .inr (List.mem_filter.1 hu).1

theorem mem_names_of_mem_search {start : String} (hs : start ∈ g.names) {f : Found}
    (h : f ∈ g.search start) : f.entity ∈ g.names := by
  rcases mem_of_mem_searchFrom h with hq | hu
  · rw [List.mem_singleton.1 hq]
    exact hs
  · exact (List.mem_filter.1 hu).1

/-- The way back leads along what was found. -/
theorem pathBack_subset (entity : String) (found : List Found) :
    pathBack entity found ⊆ found.map (·.entity) := by
  induction found generalizing entity with
  | nil => exact List.nil_subset _
  | cons f earlier ih =>
    rw [pathBack, List.map_cons]
    split
    · next hf =>
      cases f.parent with
      | some p =>
        exact List.cons_subset.2 ⟨hf ▸ List.mem_cons_self, List.subset_cons_of_subset _ (ih p)⟩
      | none => exact List.cons_subset.2 ⟨hf ▸ List.mem_cons_self, List.nil_subset _⟩
    · exact List.subset_cons_of_subset _ (ih entity)

theorem farthestPath_subset {start : String} (hs : start ∈ g.names) :
    g.farthestPath start ⊆ g.names := by
  intro n hn
  have hback := pathBack_subset _ _ (List.mem_reverse.1 hn)
  obtain ⟨f, hf, rfl⟩ := List.mem_map.1 hback
  exact mem_names_of_mem_search hs (List.mem_reverse.1 hf)

theorem backboneStarts_subset (g : Graph) : g.backboneStarts ⊆ g.names := by
  unfold backboneStarts
  dsimp only
  split <;> exact List.filter_subset_self _

/-- **The backbone runs along entities of the graph.** Searches go from neighbour to neighbour,
and neighbours are entities of the graph. -/
theorem backbone_subset (g : Graph) : g.backbone ⊆ g.names := by
  unfold backbone
  refine List.foldlRecOn (motive := fun path => path ⊆ g.names) _ _ (List.nil_subset _)
    fun best hbest start hs => ?_
  dsimp only
  split
  · exact farthestPath_subset (backboneStarts_subset g hs)
  · exact hbest

end Graph

/-- **The analysis of a diagram names entities of the diagram only.** Undeclared ends of
relationships are left out when the graph is built, and nothing is named that is not in the
graph. -/
theorem Diagram.analyze_within (d : Diagram) : d.analyze.Within d.entityNames := by
  have hnames : (Graph.ofDiagram d).names ⊆ d.entityNames := fun n hn =>
    (Graph.mem_names_ofDiagram d).1 hn
  have hneighbours : ∀ n, (Graph.ofDiagram d).neighbours n ⊆ d.entityNames := fun n _ hm =>
    hnames (Graph.mem_names_of_mem_neighbours d hm)
  refine ⟨hnames, hneighbours, ?_, ?_, ?_, ?_, ?_⟩
  · intro h hh
    obtain ⟨n, hn, rfl⟩ := Graph.exists_of_mem_hubs hh
    exact hnames hn
  · intro h hh
    obtain ⟨n, _, rfl⟩ := Graph.exists_of_mem_hubs hh
    exact hneighbours n
  · exact fun c hc n hn => hnames (Graph.subset_of_mem_chains hc hn)
  · exact fun c hc n hn =>
      hnames (Graph.subset_of_mem_clusters (Graph.nodup_names_ofDiagram d) hc hn)
  · exact fun n hn => hnames (List.mem_filter.1 hn).1

end ErDiagram
