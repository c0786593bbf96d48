import ErDiagram.Proofs.Connectivity.Declared
import ErDiagram.Proofs.Connectivity.Distance
import ErDiagram.Proofs.Connectivity.Invariance
import Mathlib.Data.Set.Card

/-!
# Every chain and every cluster has a hub

An entity between two others is a hub. A chain has three entities, and so its second one is a hub;
a cluster is only gone on to through hubs. What is left without a hub is small: an entity with one
neighbour either hangs on a hub, or it and its neighbour have nobody else, and are a component of
two.

The radial layout rests on this. It starts with the hubs, and everything that has a hub is drawn
around it, so that the places for chains and clusters without one are never used.
-/

namespace ErDiagram.Graph

variable {g : Graph}

/-! ## Entities with few neighbours

Degrees are numbers of neighbours without repetitions. These lemmas turn small ones into
statements about single neighbours, and show which components have two entities. -/

/-- Different neighbours count. -/
theorem length_le_degree {n : String} {l : List String} (hl : l.Nodup)
    (hsub : l ⊆ g.neighbours n) : l.length ≤ g.degree n :=
  (List.subperm_of_subset hl hsub).length_le

/-- Nothing else counts. -/
theorem IsSimple.degree_le_length (hg : g.IsSimple) {n : String} {l : List String}
    (hsub : g.neighbours n ⊆ l) : g.degree n ≤ l.length :=
  (List.subperm_of_subset (hg.nodup_neighbours n) hsub).length_le

/-- **An entity between two others is a hub.** The two are different, and both are neighbours. -/
theorem two_le_degree {n a b : String} (ha : a ∈ g.neighbours n) (hb : b ∈ g.neighbours n)
    (hab : a ≠ b) : 2 ≤ g.degree n := by
  have hsub : [a, b] ⊆ g.neighbours n := by simp [ha, hb]
  exact length_le_degree (by simpa using hab) hsub

theorem IsSimple.degree_pos_of_mem_neighbours (hg : g.IsSimple) {a b : String}
    (h : b ∈ g.neighbours a) : 0 < g.degree b :=
  (degree_pos_iff hg).2 ⟨a, (hg.adj_iff.2 h).symm⟩

/-- Two entities that have only each other are joined with nothing else. -/
theorem IsSimple.eq_or_eq_of_walk (hg : g.IsSimple) {a b m n : String}
    (ha : g.neighbours a = [b]) (hb : g.neighbours b = [a]) (p : g.simple.Walk m n)
    (hm : m = a ∨ m = b) : n = a ∨ n = b := by
  induction p with
  | nil => exact hm
  | cons hadj _ ih =>
    refine ih ?_
    have hnext := hg.adj_iff.1 hadj
    rcases hm with rfl | rfl
    · exact .inr (List.mem_singleton.1 (ha ▸ hnext))
    · exact .inl (List.mem_singleton.1 (hb ▸ hnext))

theorem IsSimple.degree_pos_of_reachable (hg : g.IsSimple) {a b : String}
    (h : g.simple.Reachable a b) (hne : a ≠ b) : 0 < g.degree a := by
  obtain ⟨p⟩ := h
  cases p with
  | nil => exact absurd rfl hne
  | cons hadj _ => exact (degree_pos_iff hg).2 ⟨_, hadj⟩

/-- An entity that is joined with one other and nothing else has it for its only neighbour. -/
theorem IsSimple.neighbours_eq_singleton (hg : g.IsSimple) {a b : String} (hab : a ≠ b)
    (hreach : g.simple.Reachable a b)
    (honly : ∀ n, g.simple.Reachable a n → n = a ∨ n = b) : g.neighbours a = [b] := by
  have hsub : ∀ n ∈ g.neighbours a, n = b := fun n hn =>
    (honly n (hg.adj_iff.2 hn).reachable).resolve_left fun h => hg.loopless a (h ▸ hn)
  have hle : g.degree a ≤ 1 := hg.degree_le_length fun n hn => List.mem_singleton.2 (hsub n hn)
  have hone : g.degree a = 1 := Nat.le_antisymm hle (hg.degree_pos_of_reachable hreach hab)
  obtain ⟨n, hn⟩ := List.length_eq_one_iff.1 hone
  rw [hn, hsub n (hn ▸ List.mem_singleton_self n)]

/-- An entity with one neighbour that has no other neighbour either. -/
theorem neighbours_eq_of_degree_eq_one {a b : String} (hab : b ∈ g.neighbours a)
    (hb : g.degree b = 1) : g.neighbours b = [a] := by
  obtain ⟨n, hn⟩ := List.length_eq_one_iff.1 hb
  have ha := mem_neighbours_comm.1 hab
  rw [hn, List.mem_singleton] at ha
  rw [hn, ha]

/-- **The components of two entities**: each of them has the other for its only neighbour. On the
left is the number of vertices of a connected component, on the right something that can be asked
of an entity and its neighbours. -/
theorem IsSimple.ncard_component_eq_two_iff (hg : g.IsSimple) {n : String} :
    (g.simple.connectedComponentMk n).supp.ncard = 2 ↔
      g.degree n = 1 ∧ ∀ m ∈ g.neighbours n, g.degree m = 1 := by
  have hmem : ∀ m, m ∈ (g.simple.connectedComponentMk n).supp ↔ g.simple.Reachable n m := by
    intro m
    rw [SimpleGraph.ConnectedComponent.mem_supp_iff, SimpleGraph.ConnectedComponent.eq]
    exact SimpleGraph.reachable_comm
  constructor
  · intro hcard
    obtain ⟨m, hnm, hsupp⟩ : ∃ m, n ≠ m ∧ (g.simple.connectedComponentMk n).supp = {n, m} := by
      obtain ⟨x, y, hxy, hsupp⟩ := Set.ncard_eq_two.1 hcard
      have hn : n = x ∨ n = y := by
        have hself : n ∈ (g.simple.connectedComponentMk n).supp := (hmem n).2 .rfl
        rwa [hsupp] at hself
      rcases hn with rfl | rfl
      · exact ⟨y, hxy, hsupp⟩
      · exact ⟨x, hxy.symm, hsupp.trans (Set.pair_comm x n)⟩
    have honly : ∀ x, g.simple.Reachable n x ↔ x = n ∨ x = m := by
      intro x
      rw [← hmem, hsupp]
      rfl
    have hn := hg.neighbours_eq_singleton hnm ((honly m).2 (.inr rfl)) fun x => (honly x).1
    have hm := hg.neighbours_eq_singleton hnm.symm ((honly m).2 (.inr rfl)).symm fun x hx =>
      ((honly x).1 (((honly m).2 (.inr rfl)).trans hx)).symm
    refine ⟨congrArg List.length hn, fun x hx => ?_⟩
    rw [hn, List.mem_singleton] at hx
    exact congrArg List.length (hx ▸ hm)
  · rintro ⟨hdegree, hother⟩
    obtain ⟨m, hm⟩ := List.length_eq_one_iff.1 hdegree
    have hmn : m ∈ g.neighbours n := hm ▸ List.mem_singleton_self m
    have hback := neighbours_eq_of_degree_eq_one hmn (hother m hmn)
    have hne : n ≠ m := by
      rintro rfl
      exact hg.loopless n hmn
    rw [Set.ncard_eq_two]
    refine ⟨n, m, hne, Set.ext fun x => ?_⟩
    rw [hmem, Set.mem_insert_iff, Set.mem_singleton_iff]
    refine ⟨fun ⟨p⟩ => hg.eq_or_eq_of_walk hm hback p (.inl rfl), ?_⟩
    rintro (rfl | rfl)
    · exact .rfl
    · exact (hg.adj_iff.2 hmn).reachable

/-- The one neighbour of an entity is a hub or has no other neighbour. -/
theorem IsSimple.not_forall_two_le_iff (hg : g.IsSimple) {n : String} (hn : g.degree n = 1) :
    (¬ ∀ m ∈ g.neighbours n, 2 ≤ g.degree m) ↔ ∀ m ∈ g.neighbours n, g.degree m = 1 := by
  obtain ⟨m, hm⟩ := List.length_eq_one_iff.1 hn
  have hpos : 0 < g.degree m :=
    hg.degree_pos_of_mem_neighbours (hm ▸ List.mem_singleton_self m)
  simp only [hm, List.mem_singleton, forall_eq]
  omega

/-! ## Hubs -/

theorem mem_hubNames {n : String} : n ∈ g.hubNames ↔ n ∈ g.names ∧ 2 ≤ g.degree n := by
  unfold hubNames
  rw [List.mem_mergeSort, List.mem_filter, decide_eq_true_eq]

theorem nodup_hubNames (hn : g.names.Nodup) : g.hubNames.Nodup :=
  (List.mergeSort_perm _ _).nodup_iff.2 (hn.filter _)

theorem map_entity_hubs (g : Graph) : g.hubs.map (·.entity) = g.hubNames := by
  rw [hubs_eq_map, List.map_map]
  exact List.map_id _

/-- **The hubs of the graph** are its entities with two neighbours or more. -/
theorem exists_hub_iff {n : String} :
    (∃ h ∈ g.hubs, h.entity = n) ↔ n ∈ g.names ∧ 2 ≤ g.degree n := by
  rw [← mem_hubNames, ← map_entity_hubs, List.mem_map]

/-- A hub comes with its neighbours. -/
theorem neighbours_of_mem_hubs {h : Hub} (hh : h ∈ g.hubs) :
    h.neighbours = g.neighbours h.entity := by
  obtain ⟨n, -, rfl⟩ := exists_of_mem_hubs hh
  rfl

/-! ## Chains

A chain is grown from its start. That it has a hub, and that what is no hub hangs on one, is seen
from the entities between two others, which have two neighbours. -/

/-- A path that goes on does so to a neighbour that has not been seen. -/
theorem grow_eq_cons {accept : String → Bool} {unseen rest : List String} {current next : String}
    (h : g.grow accept unseen current = next :: rest) :
    next ∈ g.neighbours current ∧ next ∈ unseen ∧
      rest = g.grow accept (unseen.erase next) next := by
  by_cases hone : ∃ n, (g.neighbours current).filter (unseen.contains ·) = [n]
  · obtain ⟨n, hn⟩ := hone
    have hmem := List.mem_filter.1 (hn ▸ List.mem_singleton_self n)
    rw [grow_of_filter_eq hn] at h
    split at h
    · obtain ⟨rfl, rfl⟩ := List.cons.inj h
      exact ⟨hmem.1, List.contains_iff_mem.1 hmem.2, rfl⟩
    · cases h
  · rw [grow_of_forall_filter_ne (not_exists.1 hone)] at h
    cases h

/-- **A path has no entity twice**, if it starts at one that has been seen. -/
theorem nodup_grow (accept : String → Bool) {unseen : List String} (hu : unseen.Nodup)
    (current : String) : (g.grow accept unseen current).Nodup := by
  induction unseen, current using grow.induct g accept with
  | case1 unseen current next hone haccept ih =>
    rw [grow_of_filter_eq hone, if_pos haccept]
    refine List.nodup_cons.2 ⟨fun hmem => ?_, ih (hu.erase next)⟩
    exact (hu.mem_erase_iff.1 (grow_subset _ _ _ hmem)).1 rfl
  | case2 unseen current next hone haccept =>
    rw [grow_of_filter_eq hone, if_neg haccept]
    exact List.nodup_nil
  | case3 unseen current hnone =>
    rw [grow_of_forall_filter_ne hnone]
    exact List.nodup_nil

/-- A path stays in the component that it starts in. -/
theorem IsSimple.reachable_of_mem_grow (hg : g.IsSimple) {accept : String → Bool}
    {unseen : List String} {current n : String} (h : n ∈ g.grow accept unseen current) :
    g.simple.Reachable current n := by
  induction unseen, current using grow.induct g accept with
  | case1 unseen current next hone haccept ih =>
    have hnext : next ∈ g.neighbours current :=
      (List.mem_filter.1 (hone ▸ List.mem_singleton_self next)).1
    have hstep := (hg.adj_iff.2 hnext).reachable
    rw [grow_of_filter_eq hone, if_pos haccept] at h
    rcases List.mem_cons.1 h with rfl | h
    · exact hstep
    · exact hstep.trans (ih h)
  | case2 unseen current next hone haccept =>
    rw [grow_of_filter_eq hone, if_neg haccept] at h
    cases h
  | case3 unseen current hnone =>
    rw [grow_of_forall_filter_ne hnone] at h
    cases h

/-- The paths are grown one by one, each from an entity that is then seen. -/
theorem exists_of_mem_pathsFrom {unseen starts path : List String} (hu : unseen.Nodup)
    (h : path ∈ g.pathsFrom unseen starts) :
    ∃ start unseen', unseen'.Nodup ∧ start ∉ unseen' ∧
      (g.degree start = 1 ∨ g.degree start = 2) ∧
      path = start :: g.grow (fun n => g.degree n ≤ 2) unseen' start := by
  induction starts generalizing unseen with
  | nil => cases h
  | cons start rest ih =>
    rw [pathsFrom] at h
    split at h
    · next hstart =>
      rcases List.mem_cons.1 h with rfl | h
      · have hdegree : g.degree start = 1 ∨ g.degree start = 2 := by
          simpa using (Bool.and_eq_true_iff.1 hstart).2
        exact ⟨start, unseen.erase start, hu.erase start, hu.not_mem_erase, hdegree, rfl⟩
      · exact ih (hu.filter _) h
    · exact ih hu h

/-- A chain is a path of three entities or more, that starts at an entity which is seen. -/
theorem IsSimple.exists_of_mem_chains (hg : g.IsSimple) {c : Chain} (h : c ∈ g.chains) :
    ∃ start unseen, unseen.Nodup ∧ start ∉ unseen ∧ minChainLength ≤ c.entities.length ∧
      (g.degree start = 1 ∨ g.degree start = 2) ∧
      c.entities = start :: g.grow (fun n => g.degree n ≤ 2) unseen start := by
  unfold chains at h
  obtain ⟨path, hpath, rfl⟩ := List.mem_map.1 h
  obtain ⟨hpath, hlength⟩ := List.mem_filter.1 hpath
  obtain ⟨start, unseen, hu, hstart, hdegree, hgrow⟩ := exists_of_mem_pathsFrom hg.nodup_names hpath
  exact ⟨start, unseen, hu, hstart, of_decide_eq_true hlength, hdegree, hgrow⟩

/-- No entity is in a chain twice. -/
theorem IsSimple.nodup_of_mem_chains (hg : g.IsSimple) {c : Chain} (h : c ∈ g.chains) :
    c.entities.Nodup := by
  obtain ⟨start, unseen, hu, hstart, -, -, hc⟩ := hg.exists_of_mem_chains h
  rw [hc]
  exact List.nodup_cons.2 ⟨fun hmem => hstart (grow_subset _ _ _ hmem), nodup_grow _ hu start⟩

/-- A chain stays in the component of its first entity. -/
theorem IsSimple.reachable_of_mem_chains (hg : g.IsSimple) {c : Chain} (h : c ∈ g.chains) :
    ∀ m ∈ c.entities, ∀ n ∈ c.entities, g.simple.Reachable m n := by
  obtain ⟨start, unseen, hu, hstart, -, -, hc⟩ := hg.exists_of_mem_chains h
  have hfrom : ∀ m ∈ c.entities, g.simple.Reachable start m := by
    intro m hm
    rw [hc] at hm
    rcases List.mem_cons.1 hm with rfl | hm
    · exact .rfl
    · exact hg.reachable_of_mem_grow hm
  exact fun m hm n hn => (hfrom m hm).symm.trans (hfrom n hn)

/-- The second entity of a chain is between two others. -/
theorem IsSimple.exists_two_le_degree (hg : g.IsSimple) {c : Chain} (h : c ∈ g.chains) :
    ∃ n ∈ c.entities, 2 ≤ g.degree n := by
  obtain ⟨a, unseen, hu, ha, hlength, -, hc⟩ := hg.exists_of_mem_chains h
  rw [hc] at hlength ⊢
  cases hgrow : g.grow (fun n => g.degree n ≤ 2) unseen a with
  | nil =>
    rw [hgrow] at hlength
    exact absurd hlength (show ¬ 3 ≤ 1 by decide)
  | cons b rest =>
    obtain ⟨hab, hb, hrest⟩ := grow_eq_cons hgrow
    cases hlast : rest with
    | nil =>
      rw [hgrow, hlast] at hlength
      exact absurd hlength (show ¬ 3 ≤ 2 by decide)
    | cons c rest' =>
      obtain ⟨hbc, hcu, _⟩ := grow_eq_cons (hrest.symm.trans hlast)
      have hac : a ≠ c := by
        rintro rfl
        exact ha (List.mem_of_mem_erase hcu)
      exact ⟨b, by simp, two_le_degree (mem_neighbours_comm.1 hab) hbc hac⟩

/-- **Every chain has a hub.** A chain has three entities at least, and the second of them is
between two others. -/
theorem IsSimple.exists_hub_of_mem_chains (hg : g.IsSimple) {c : Chain} (h : c ∈ g.chains) :
    ∃ hub ∈ g.hubs, hub.entity ∈ c.entities := by
  obtain ⟨n, hn, hdegree⟩ := hg.exists_two_le_degree h
  obtain ⟨hub, hhub, rfl⟩ := exists_hub_iff.2 ⟨subset_of_mem_chains h hn, hdegree⟩
  exact ⟨hub, hhub, hn⟩

/-- **An entity of a chain that is no hub hangs on one.** It is at an end of the chain, and the
entity next to it is between two others. -/
theorem IsSimple.of_mem_chains (hg : g.IsSimple) {c : Chain} (h : c ∈ g.chains) {n : String}
    (hn : n ∈ c.entities) (hlt : ¬ 2 ≤ g.degree n) :
    g.degree n = 1 ∧ ∀ m ∈ g.neighbours n, 2 ≤ g.degree m := by
  obtain ⟨-, -, -, -, hlength, -, -⟩ := hg.exists_of_mem_chains h
  have hnodup := hg.nodup_of_mem_chains h
  have hreach := hg.reachable_of_mem_chains h n hn
  -- two entities are not enough for a chain
  have hthree : ∀ a b, ¬ ∀ m ∈ c.entities, m = a ∨ m = b := by
    intro a b hall
    have hsub : c.entities ⊆ [a, b] := fun m hm => by simpa using hall m hm
    exact absurd (hlength.trans (List.subperm_of_subset hnodup hsub).length_le)
      (show ¬ 3 ≤ 2 by decide)
  obtain ⟨m, hm, hmn⟩ : ∃ m ∈ c.entities, m ≠ n := by
    by_contra hnone
    push Not at hnone
    exact hthree n n fun m hm => .inl (hnone m hm)
  have hpos := hg.degree_pos_of_reachable (hreach m hm) hmn.symm
  have hone : g.degree n = 1 := by omega
  refine ⟨hone, fun k hk => ?_⟩
  by_contra hsmall
  have hkpos := hg.degree_pos_of_mem_neighbours hk
  have hback := neighbours_eq_of_degree_eq_one hk (by omega)
  have hforth := neighbours_eq_of_degree_eq_one (mem_neighbours_comm.1 hk) hone
  refine hthree n k fun m hm => ?_
  obtain ⟨p⟩ := hreach m hm
  exact hg.eq_or_eq_of_walk hforth hback p (.inl rfl)

/-! ## Clusters -/

/-- **Every cluster has a hub**: whatever was reached after the first entity. -/
theorem IsSimple.exists_hub_of_mem_clusters (hg : g.IsSimple) {c : Cluster}
    (h : c ∈ g.clusters) : ∃ hub ∈ g.hubs, hub.entity ∈ c.entities := by
  have hnames := subset_of_mem_clusters hg.nodup_names h
  obtain ⟨hgroup, hthree, -⟩ := mem_clusters_iff.1 h
  obtain ⟨start, unseen, hu, -, hc⟩ := exists_of_mem_groupsFrom hg.nodup_names hgroup
  rw [hc] at hnames hthree ⊢
  obtain ⟨n, hn, hne⟩ : ∃ n ∈ (g.explore unseen [start]).1, n ≠ start := by
    by_contra hnone
    push Not at hnone
    have hsub : (g.explore unseen [start]).1 ⊆ [start] := fun m hm => by simpa using hnone m hm
    exact absurd (hthree.trans (List.subperm_of_subset (nodup_explore hu) hsub).length_le)
      (show ¬ 3 ≤ 1 by decide)
  obtain ⟨a, ha, _, hreach⟩ := exists_reaches_of_mem_explore hn
  obtain rfl := List.mem_singleton.1 ha
  -- the last step of the search led to it
  rcases hreach.cases_tail with rfl | ⟨_, _, hstep⟩
  · exact absurd rfl hne
  obtain ⟨hub, hhub, rfl⟩ := exists_hub_iff.2 ⟨hnames hn, hstep.2.2⟩
  exact ⟨hub, hhub, hn⟩

end ErDiagram.Graph
