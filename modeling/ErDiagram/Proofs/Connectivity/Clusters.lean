import ErDiagram.Proofs.Connectivity.Hubs
import Mathlib.Combinatorics.SimpleGraph.Acyclic

/-!
# Clusters are disjoint, connected and complete

A search goes on through hubs until nothing is left to go to. When it ends, a hub that is still
unseen has no neighbour that has been seen, for it would have been gone to from there. So each
search finds hubs that are joined through hubs all at once: a cluster is all that can be reached
from the first entity that reaches one of its hubs.

That is the invariant between two searches, `Settled`, and it makes the later searches independent
of the earlier ones. What a search can reach among unseen entities is then the same as what it
could reach in the whole graph, as long as it finds an unseen hub at all, so that groups can be
described without saying what was unseen when they were found.

The one thing that still depends on the order of the declarations is which entity a group is found
from. It need not be a hub, and an entity that is none is then in the group as well. So the
description is by the first entity that reaches a hub (`FirstToReach`); what follows when that is
no hub is the subject of `ErDiagram.Proofs.Connectivity.Leaves`.

Density is stated with edge sets of induced subgraphs. The bounds are those of connected graphs,
one edge less than vertices and one edge for every two.
-/

namespace ErDiagram.Graph

variable {g : Graph}

/-! ## What a search leaves behind

Groups are found one after the other among what is still unseen, and what a group is depends on
what earlier ones have taken. The invariant that makes this harmless is that no search is half
done: a hub is seen together with everything that it reaches. -/

/-- **No search is half done**: a hub that is unseen has unseen neighbours only. Entities that are
no hubs may have been seen or not, since no search goes on to them. -/
def Settled (g : Graph) (unseen : List String) : Prop :=
  ∀ a b, b ∈ g.neighbours a → 2 ≤ g.degree b → b ∈ unseen → a ∈ unseen

theorem IsSimple.settled_names (hg : g.IsSimple) : g.Settled g.names :=
  fun _ b hab _ _ => hg.declared b (mem_neighbours_comm.1 hab)

/-- **A search that has ended is not half done.** An unseen hub beside an entity that has been
visited would have been visited too, since what is visited is closed under steps to unseen hubs. -/
theorem Settled.explore {unseen : List String} (h : g.Settled unseen) (hu : unseen.Nodup)
    (stack : List String) : g.Settled (g.explore unseen stack).2 := by
  intro a b hab hdegree hb
  obtain ⟨hb, hnot⟩ := (mem_explore_snd hu).1 hb
  refine (mem_explore_snd hu).2 ⟨h a b hab hdegree hb, fun ha => hnot ?_⟩
  exact mem_explore_of_hubStep ha ⟨hab, hb, hdegree⟩

/-- Whoever reaches something unseen is unseen, and so is the way. -/
theorem Settled.of_reaches {unseen : List String} (h : g.Settled unseen) {s n : String}
    (hreach : g.Reaches g.names s n) (hn : n ∈ unseen) :
    s ∈ unseen ∧ g.Reaches unseen s n := by
  induction hreach using Relation.ReflTransGen.head_induction_on with
  | refl => exact ⟨hn, .refl⟩
  | head hstep _ ih =>
    obtain ⟨hc, hcn⟩ := ih
    exact ⟨h _ _ hstep.1 hstep.2.2 hc, .head ⟨hstep.1, hc, hstep.2.2⟩ hcn⟩

/-! ## What can be reached through hubs

A search goes on to hubs only, so that what it reaches is not symmetric: an entity that is no hub
may reach others and is never reached itself. Among hubs it is symmetric, and this is what groups
rest on. -/

theorem IsSimple.hubStep_names_iff (hg : g.IsSimple) {a b : String} :
    g.HubStep g.names a b ↔ b ∈ g.neighbours a ∧ 2 ≤ g.degree b :=
  ⟨fun h => ⟨h.1, h.2.2⟩, fun h => ⟨h.1, hg.declared a h.1, h.2⟩⟩

theorem IsSimple.reaches_names (hg : g.IsSimple) {unseen : List String} {a b : String}
    (h : g.Reaches unseen a b) : g.Reaches g.names a b := by
  have hle : g.HubStep unseen ≤ g.HubStep g.names := fun _ _ hs =>
    hg.hubStep_names_iff.2 ⟨hs.1, hs.2.2⟩
  exact Relation.ReflTransGen.mono hle _ _ h

/-- Whatever is reached is a hub, except perhaps where one starts. -/
theorem Reaches.eq_or_two_le {unseen : List String} {a b : String} (h : g.Reaches unseen a b) :
    b = a ∨ 2 ≤ g.degree b := by
  cases h with
  | refl => exact .inl rfl
  | tail _ hstep => exact .inr hstep.2.2

theorem Reaches.two_le {unseen : List String} {a b : String} (h : g.Reaches unseen a b)
    (ha : 2 ≤ g.degree a) : 2 ≤ g.degree b :=
  h.eq_or_two_le.elim (fun heq => heq ▸ ha) id

/-- **Hubs reach each other.** A step leads to a hub, so that a way between two hubs can be gone
back; from an entity that is no hub one gets away, but not back. -/
theorem IsSimple.reaches_symm (hg : g.IsSimple) {a b : String} (ha : 2 ≤ g.degree a)
    (h : g.Reaches g.names a b) : g.Reaches g.names b a := by
  induction h with
  | refl => exact .refl
  | tail hab hstep ih =>
    have hback := hg.hubStep_names_iff.2 ⟨mem_neighbours_comm.1 hstep.1, Reaches.two_le hab ha⟩
    exact .head hback ih

/-- **An entity that is no hub reaches what its only neighbour reaches.** Its only step leads
there, so that from it a search can go one way only. -/
theorem IsSimple.exists_of_not_two_le (hg : g.IsSimple) {s h : String} (hs : ¬ 2 ≤ g.degree s)
    (hh : 2 ≤ g.degree h) (hreach : g.Reaches g.names s h) :
    ∃ b, g.degree s = 1 ∧ b ∈ g.neighbours s ∧ 2 ≤ g.degree b ∧
      ∀ n, g.Reaches g.names s n ↔ n = s ∨ g.Reaches g.names b n := by
  rcases hreach.cases_head with rfl | ⟨b, hsb, -⟩
  · exact absurd hh hs
  have hpos := hg.degree_pos_of_mem_neighbours (mem_neighbours_comm.1 hsb.1)
  have hone : g.degree s = 1 := by omega
  obtain ⟨x, hx⟩ := List.length_eq_one_iff.1 hone
  refine ⟨b, hone, hsb.1, hsb.2.2, fun n => ⟨fun hn => ?_, ?_⟩⟩
  · rcases hn.cases_head with rfl | ⟨c, hsc, hcn⟩
    · exact .inl rfl
    · have hbx : b = x := List.mem_singleton.1 (hx ▸ hsb.1)
      have hcx : c = x := List.mem_singleton.1 (hx ▸ hsc.1)
      exact .inr (hbx.trans hcx.symm ▸ hcn)
  · rintro (rfl | hn)
    · exact .refl
    · exact .head hsb hn

/-- **Hubs that are reached from the same entity reach each other.** If that entity is a hub, the
way from one to the other goes through it, and if not, through its only neighbour. -/
theorem IsSimple.reaches_of_reaches (hg : g.IsSimple) {s m n : String} (hm : 2 ≤ g.degree m)
    (hn : 2 ≤ g.degree n) (hsm : g.Reaches g.names s m) (hsn : g.Reaches g.names s n) :
    g.Reaches g.names m n := by
  by_cases hs : 2 ≤ g.degree s
  · exact (hg.reaches_symm hs hsm).trans hsn
  · obtain ⟨b, -, -, hb, hiff⟩ := hg.exists_of_not_two_le hs hm hsm
    have hfrom : ∀ x, 2 ≤ g.degree x → g.Reaches g.names s x → g.Reaches g.names b x :=
      fun x hx hsx => ((hiff x).1 hsx).resolve_left fun heq => hs (heq ▸ hx)
    exact (hg.reaches_symm hb (hfrom m hm hsm)).trans (hfrom n hn hsn)

/-! ## Groups

With the invariant a group can be told without the groups before it, by the first entity that
reaches one of its hubs. -/

/-- **The first of some entities that reaches a hub.** It is defined along the list of entities
that searches are started from, as the recursion goes through it. -/
inductive FirstToReach (g : Graph) (h : String) : List String → String → Prop
  | head {s : String} {rest : List String} (hreach : g.Reaches g.names s h) :
      FirstToReach g h (s :: rest) s
  | tail {a s : String} {rest : List String} (hnot : ¬ g.Reaches g.names a h)
      (hfirst : FirstToReach g h rest s) : FirstToReach g h (a :: rest) s

theorem FirstToReach.reaches {h s : String} {starts : List String}
    (hfirst : g.FirstToReach h starts s) : g.Reaches g.names s h := by
  induction hfirst with
  | head hreach => exact hreach
  | tail _ _ ih => exact ih

/-- Only one is the first. -/
theorem FirstToReach.unique {h s t : String} {starts : List String}
    (hs : g.FirstToReach h starts s) (ht : g.FirstToReach h starts t) : s = t := by
  induction hs with
  | head hreach =>
    cases ht with
    | head _ => rfl
    | tail hnot _ => exact absurd hreach hnot
  | tail hnot _ ih =>
    cases ht with
    | head hreach => exact absurd hreach hnot
    | tail _ ht => exact ih ht

theorem FirstToReach.mem {h s : String} {starts : List String}
    (hfirst : g.FirstToReach h starts s) : s ∈ starts := by
  induction hfirst with
  | head _ => exact List.mem_cons_self
  | tail _ _ ih => exact List.mem_cons_of_mem _ ih

/-- Nothing that reaches the hub comes earlier. -/
theorem FirstToReach.idxOf_le {h s t : String} {starts : List String}
    (hfirst : g.FirstToReach h starts s) (ht : g.Reaches g.names t h) :
    starts.idxOf s ≤ starts.idxOf t := by
  induction hfirst with
  | head _ =>
    rw [List.idxOf_cons_self]
    exact Nat.zero_le _
  | @tail a s _ hnot hfirst ih =>
    have has : a ≠ s := fun heq => hnot (heq ▸ hfirst.reaches)
    have hat : a ≠ t := fun heq => hnot (heq ▸ ht)
    rw [List.idxOf_cons_ne _ has, List.idxOf_cons_ne _ hat]
    exact Nat.succ_le_succ ih

/-- The first to reach a hub is the first to reach what the hub reaches. -/
theorem FirstToReach.of_reaches {h k s : String} {starts : List String}
    (hfirst : g.FirstToReach h starts s) (hhk : g.Reaches g.names h k)
    (hkh : g.Reaches g.names k h) : g.FirstToReach k starts s := by
  induction hfirst with
  | head hreach => exact .head (hreach.trans hhk)
  | tail hnot _ ih => exact .tail (fun hak => hnot (hak.trans hkh)) ih

/-- **A search that finds an unseen hub finds all that its start reaches.** Nothing of it can have
been seen before, since what reaches something unseen is unseen. -/
theorem IsSimple.mem_explore_iff_reaches (hg : g.IsSimple) {unseen : List String}
    (hsettled : g.Settled unseen) {s h n : String} (hh : h ∈ unseen) (hdegree : 2 ≤ g.degree h)
    (hreach : g.Reaches g.names s h) :
    n ∈ (g.explore unseen [s]).1 ↔ g.Reaches g.names s n := by
  rw [mem_explore_singleton_iff (hsettled.of_reaches hreach hh).1]
  refine ⟨hg.reaches_names, fun hsn => ?_⟩
  rcases hsn.eq_or_two_le with rfl | hn
  · exact .refl
  · have hnh := hg.reaches_of_reaches hn hdegree hsn hreach
    exact (hsettled.of_reaches hsn (hsettled.of_reaches hnh hh).1).2

/-- **The group of a hub is what the first entity reaches that reaches the hub.** The induction is
on the starts: one that does not reach the hub leaves it unseen, and with it all that reaches it. -/
theorem IsSimple.exists_mem_groupsFrom (hg : g.IsSimple) {unseen starts : List String} {h : String}
    (hu : unseen.Nodup) (hsettled : g.Settled unseen) (hsub : unseen ⊆ starts) (hh : h ∈ unseen)
    (hdegree : 2 ≤ g.degree h) :
    ∃ s, g.FirstToReach h starts s ∧
      ∃ members ∈ g.groupsFrom unseen starts, ∀ n, n ∈ members ↔ g.Reaches g.names s n := by
  induction starts generalizing unseen with
  | nil => exact absurd (hsub hh) List.not_mem_nil
  | cons a rest ih =>
    by_cases ha : a ∈ unseen
    · rw [groupsFrom_cons_of_mem ha]
      by_cases hreach : g.Reaches g.names a h
      · exact ⟨a, .head hreach, _, List.mem_cons_self, fun n =>
          hg.mem_explore_iff_reaches hsettled hh hdegree hreach⟩
      · -- the hub is left to the entities that come later
        have hnot : h ∉ (g.explore unseen [a]).1 := fun hmem =>
          hreach (hg.reaches_names ((mem_explore_singleton_iff ha).1 hmem))
        have hrest : (g.explore unseen [a]).2 ⊆ rest := fun n hn => by
          obtain ⟨hn, hnot⟩ := (mem_explore_snd hu).1 hn
          refine (List.mem_cons.1 (hsub hn)).resolve_left fun heq => hnot ?_
          rw [heq]
          exact mem_explore_of_mem_stack List.mem_cons_self ha
        obtain ⟨s, hfirst, members, hmembers, hiff⟩ := ih (nodup_explore_snd hu)
          (hsettled.explore hu _) hrest ((mem_explore_snd hu).2 ⟨hh, hnot⟩)
        exact ⟨s, .tail hreach hfirst, members, List.mem_cons_of_mem _ hmembers, hiff⟩
    · rw [groupsFrom_cons_of_notMem ha]
      have hnot : ¬ g.Reaches g.names a h := fun hreach => ha (hsettled.of_reaches hreach hh).1
      have hrest : unseen ⊆ rest := fun n hn =>
        (List.mem_cons.1 (hsub hn)).resolve_left fun heq => ha (heq ▸ hn)
      obtain ⟨s, hfirst, members, hmembers, hiff⟩ := ih hu hsettled hrest hh
      exact ⟨s, .tail hnot hfirst, members, hmembers, hiff⟩

/-- **No entity is in two groups.** What one search has visited is taken off the unseen entities,
and later ones visit unseen entities only. -/
theorem pairwise_disjoint_groupsFrom {unseen : List String} (hu : unseen.Nodup)
    (starts : List String) : (g.groupsFrom unseen starts).Pairwise List.Disjoint := by
  induction starts generalizing unseen with
  | nil => exact .nil
  | cons a rest ih =>
    by_cases ha : a ∈ unseen
    · rw [groupsFrom_cons_of_mem ha]
      refine List.pairwise_cons.2 ⟨fun members hmembers n hn hn' => ?_, ih (nodup_explore_snd hu)⟩
      have hleft := subset_of_mem_groupsFrom (nodup_explore_snd hu) hmembers hn'
      exact ((mem_explore_snd hu).1 hleft).2 hn
    · rw [groupsFrom_cons_of_notMem ha]
      exact ih hu

/-! ## Clusters -/

theorem IsSimple.nodup_of_mem_clusters (hg : g.IsSimple) {c : Cluster} (h : c ∈ g.clusters) :
    c.entities.Nodup := by
  obtain ⟨start, unseen, hu, -, hc⟩ :=
    exists_of_mem_groupsFrom hg.nodup_names (mem_clusters_iff.1 h).1
  rw [hc]
  exact nodup_explore hu

theorem IsSimple.pairwise_disjoint_clusters (hg : g.IsSimple) :
    g.clusters.Pairwise fun c k => c.entities.Disjoint k.entities := by
  rw [clusters, List.pairwise_map]
  exact (pairwise_disjoint_groupsFrom hg.nodup_names g.names).filter _

/-- Hubs are declared. -/
theorem IsSimple.mem_names_of_two_le (hg : g.IsSimple) {n : String} (h : 2 ≤ g.degree n) :
    n ∈ g.names := by
  obtain ⟨m, hm⟩ := List.exists_mem_of_length_pos (Nat.zero_lt_of_lt h)
  exact hg.declared m (mem_neighbours_comm.1 hm)

/-- **A cluster is what the first entity reaches that reaches one of its hubs.** -/
theorem IsSimple.exists_of_mem_clusters (hg : g.IsSimple) {c : Cluster} (hc : c ∈ g.clusters) :
    ∃ h s, 2 ≤ g.degree h ∧ g.FirstToReach h g.names s ∧
      ∀ n, n ∈ c.entities ↔ g.Reaches g.names s n := by
  obtain ⟨hub, hhub, hmem⟩ := hg.exists_hub_of_mem_clusters hc
  obtain ⟨hdeclared, hdegree⟩ := exists_hub_iff.1 ⟨hub, hhub, rfl⟩
  obtain ⟨s, hfirst, members, hmembers, hiff⟩ := hg.exists_mem_groupsFrom hg.nodup_names
    hg.settled_names (List.Subset.refl _) hdeclared hdegree
  refine ⟨hub.entity, s, hdegree, hfirst, ?_⟩
  -- two groups that share the hub are the same
  have hsame : c.entities = members := by
    by_contra hne
    have : Std.Symm (List.Disjoint (α := String)) := ⟨fun _ _ => List.Disjoint.symm⟩
    have hdisjoint := (pairwise_disjoint_groupsFrom hg.nodup_names g.names).forall
      (mem_clusters_iff.1 hc).1 hmembers hne
    exact hdisjoint hmem ((hiff _).2 hfirst.reaches)
  rw [hsame]
  exact hiff

/-- **The sets of entities that are clusters**, described by the graph and the order of its names
alone. Clusters are compared as sets here, since the order in which a search finds entities is not
what is meant by a cluster. -/
theorem IsSimple.exists_cluster_iff (hg : g.IsSimple) {S : Set String} :
    (∃ c ∈ g.clusters, {n | n ∈ c.entities} = S) ↔
      3 ≤ S.ncard ∧ ∃ h s, 2 ≤ g.degree h ∧ g.FirstToReach h g.names s ∧
        S = {n | g.Reaches g.names s n} := by
  have hcard : ∀ c : Cluster, c.entities.Nodup →
      {n | n ∈ c.entities}.ncard = c.entities.length := fun c hnodup => by
    rw [← List.coe_toFinset, Set.ncard_coe_finset, List.toFinset_card_of_nodup hnodup]
  constructor
  · rintro ⟨c, hc, rfl⟩
    obtain ⟨h, s, hdegree, hfirst, hiff⟩ := hg.exists_of_mem_clusters hc
    rw [hcard c (hg.nodup_of_mem_clusters hc)]
    exact ⟨(mem_clusters_iff.1 hc).2.1, h, s, hdegree, hfirst, Set.ext hiff⟩
  · rintro ⟨hthree, h, s, hdegree, hfirst, rfl⟩
    obtain ⟨s', hfirst', members, hmembers, hiff⟩ := hg.exists_mem_groupsFrom hg.nodup_names
      hg.settled_names (List.Subset.refl _) (hg.mem_names_of_two_le hdegree) hdegree
    obtain rfl := hfirst.unique hfirst'
    obtain ⟨start, unseen, hu, -, hexplore⟩ := exists_of_mem_groupsFrom hg.nodup_names hmembers
    refine ⟨⟨members, g.innerEdges members⟩, mem_clusters_iff.2 ⟨hmembers, ?_, rfl⟩, Set.ext hiff⟩
    have hset : {n | g.Reaches g.names s n} = {n | n ∈ members} := Set.ext fun n => (hiff n).symm
    rw [hset, hcard ⟨members, 0⟩ (hexplore ▸ nodup_explore hu)] at hthree
    exact hthree

/-! ## Edges inside a cluster

Edges are counted in a list of pairs, and compared with those of an induced graph, for which
Mathlib has the bounds: a connected graph has enough edges for a tree, and no graph more than the
complete one. -/

/-- **What is reached is connected.** Every step of a search goes along an edge, and each entity
on the way is reached itself. -/
theorem IsSimple.connected_reaches (hg : g.IsSimple) (s : String) :
    (g.simple.induce {n | g.Reaches g.names s n}).Connected := by
  rw [SimpleGraph.connected_iff_exists_forall_reachable]
  refine ⟨⟨s, .refl⟩, fun ⟨n, hn⟩ => ?_⟩
  induction hn with
  | refl => exact .rfl
  | tail hab hstep ih =>
    exact ih.trans (SimpleGraph.Adj.reachable (hg.adj_iff.2 hstep.1))

/-- **The edges inside a list of entities** are those of the graph that it induces. -/
theorem IsSimple.innerEdges_eq_ncard (hg : g.IsSimple) (members : List String) :
    g.innerEdges members = (g.simple.induce {n | n ∈ members}).edgeSet.ncard := by
  have himage : Sym2.map Subtype.val '' (g.simple.induce {n | n ∈ members}).edgeSet
      = (g.pairs.filter (within members)).toFinset := by
    ext p
    induction p with | _ a b => ?_
    rw [List.coe_toFinset, Set.mem_ofPred_eq, List.mem_filter]
    have hwithin : within members s(a, b) = true ↔ a ∈ members ∧ b ∈ members := by
      simp [within]
    rw [hwithin, ← mem_neighbours, ← hg.adj_iff]
    constructor
    · rintro ⟨q, hq, hpq⟩
      induction q with | _ x y => ?_
      have hxy : g.simple.Adj x y := hq
      rcases Sym2.eq_iff.1 hpq with ⟨rfl, rfl⟩ | ⟨rfl, rfl⟩
      · exact ⟨hxy, x.2, y.2⟩
      · exact ⟨hxy.symm, y.2, x.2⟩
    · rintro ⟨hadj, ha, hb⟩
      exact ⟨s(⟨a, ha⟩, ⟨b, hb⟩), hadj, rfl⟩
  rw [innerEdges_eq_countP, List.countP_eq_length_filter,
    ← List.toFinset_card_of_nodup (hg.nodup_pairs.filter _), ← Set.ncard_coe_finset, ← himage,
    Set.ncard_image_of_injective _ (Sym2.map.injective Subtype.val_injective)]

/-- **A connected set of entities** has one edge less than entities at least, and at most one edge
for every two of them. Both are facts about finite graphs, carried over to the number that is
counted in a list. -/
theorem IsSimple.innerEdges_bounds (hg : g.IsSimple) {members : List String}
    (hnodup : members.Nodup) (hconnected : (g.simple.induce {n | n ∈ members}).Connected) :
    members.length ≤ g.innerEdges members + 1 ∧
      g.innerEdges members ≤ members.length * (members.length - 1) / 2 := by
  classical
  have hfinite : Finite {n | n ∈ members} := members.finite_toSet
  have := Fintype.ofFinite {n | n ∈ members}
  have hcard : Nat.card {n | n ∈ members} = members.length := by
    rw [Nat.card_coe_set_eq, ← List.coe_toFinset, Set.ncard_coe_finset,
      List.toFinset_card_of_nodup hnodup]
  rw [hg.innerEdges_eq_ncard, ← hcard]
  constructor
  · exact hconnected.card_vert_le_card_edgeSet_add_one
  · rw [← Nat.choose_two_right, Nat.card_eq_fintype_card, Set.ncard_eq_toFinset_card']
    exact SimpleGraph.card_edgeFinset_le_card_choose_two

/-! ## Components of hubs

What is joined through hubs is a component of the graph that hubs induce. Reaching is stated for
names and components for vertices of a subtype, and most of the work is to go from one to the
other. -/

/-- Hubs that are joined through hubs reach each other. -/
theorem IsSimple.reaches_of_reachable (hg : g.IsSimple) {m n : {n | 2 ≤ g.degree n}}
    (h : (g.simple.induce {n | 2 ≤ g.degree n}).Reachable m n) : g.Reaches g.names m n := by
  obtain ⟨p⟩ := h
  induction p with
  | nil => exact .refl
  | @cons _ v _ hadj _ ih =>
    exact .head (hg.hubStep_names_iff.2 ⟨hg.adj_iff.1 hadj, v.2⟩) ih

theorem IsSimple.finite_reaches (hg : g.IsSimple) (s : String) :
    {n | g.Reaches g.names s n}.Finite := by
  refine (s :: g.names).finite_toSet.subset fun n hn => ?_
  rcases hn.eq_or_two_le with rfl | hdegree
  · exact List.mem_cons_self
  · exact List.mem_cons_of_mem s (hg.mem_names_of_two_le hdegree)

/-- **A component of three hubs or more is in one cluster.** They reach each other and nothing
sets them apart, so that the first search that meets one of them finds all. -/
theorem IsSimple.exists_cluster_of_component (hg : g.IsSimple)
    (component : (g.simple.induce {n | 2 ≤ g.degree n}).ConnectedComponent)
    (hthree : 3 ≤ component.supp.ncard) :
    ∃ c ∈ g.clusters, ∀ n ∈ component.supp, n.1 ∈ c.entities := by
  obtain ⟨h, hh⟩ := component.nonempty_supp
  obtain ⟨s, hfirst, -⟩ := hg.exists_mem_groupsFrom hg.nodup_names hg.settled_names
    (List.Subset.refl _) (hg.mem_names_of_two_le h.2) h.2
  have hreach : Subtype.val '' component.supp ⊆ {n | g.Reaches g.names s n} := by
    rintro _ ⟨n, hn, rfl⟩
    exact hfirst.reaches.trans (hg.reaches_of_reachable (component.reachable_of_mem_supp hh hn))
  have hlarge : 3 ≤ {n | g.Reaches g.names s n}.ncard := by
    refine hthree.trans ?_
    rw [← Set.ncard_image_of_injective _ Subtype.val_injective]
    exact Set.ncard_le_ncard hreach (hg.finite_reaches s)
  obtain ⟨c, hc, hset⟩ := hg.exists_cluster_iff.2 ⟨hlarge, h.1, s, h.2, hfirst, rfl⟩
  exact ⟨c, hc, fun n hn => hset.symm.subset (hreach ⟨n, hn, rfl⟩)⟩

/-- **What the clusters of a graph are.** Besides what holds of each cluster alone, they are
disjoint, and none is missed: `complete` says that hubs that are joined through hubs, three or
more, are in one cluster together. The converse, that a cluster is such a set, fails by the one
entity that may be no hub, and is not stated here. -/
structure AreClusters (g : Graph) (clusters : List Cluster) : Prop where
  /-- A cluster has three entities at least. -/
  three_le : ∀ c ∈ clusters, 3 ≤ c.entities.length
  /-- No entity is in it twice. -/
  nodup : ∀ c ∈ clusters, c.entities.Nodup
  /-- No entity is in two clusters. -/
  disjoint : clusters.Pairwise fun c k => c.entities.Disjoint k.entities
  /-- Every two of its entities are joined inside of it, and not only by way of others. -/
  connected : ∀ c ∈ clusters, (g.simple.induce {n | n ∈ c.entities}).Connected
  /-- Its density is the share of its edges, which are those of the graph between two of its
  entities. -/
  density_part : ∀ c ∈ clusters,
    c.density.part = (g.simple.induce {n | n ∈ c.entities}).edgeSet.ncard
  /-- This is a share of all edges that it could have. It is doubled here, as a pair has two
  orders. -/
  density_whole : ∀ c ∈ clusters,
    2 * c.density.whole = c.entities.length * (c.entities.length - 1)
  /-- It has one edge less than entities at least, which is what connecting them takes. -/
  le_part : ∀ c ∈ clusters, c.entities.length ≤ c.density.part + 1
  /-- It has not more edges than it could have. -/
  part_le : ∀ c ∈ clusters, c.density.part ≤ c.density.whole
  /-- Three hubs or more that are joined through hubs are in one cluster. The hubs are a component
  of the graph that hubs induce. -/
  complete : ∀ component : (g.simple.induce {n | 2 ≤ g.degree n}).ConnectedComponent,
    3 ≤ component.supp.ncard → ∃ c ∈ clusters, ∀ n ∈ component.supp, n.1 ∈ c.entities

theorem IsSimple.connected_of_mem_clusters (hg : g.IsSimple) {c : Cluster} (hc : c ∈ g.clusters) :
    (g.simple.induce {n | n ∈ c.entities}).Connected := by
  obtain ⟨_, s, _, _, hiff⟩ := hg.exists_of_mem_clusters hc
  have hset : {n | n ∈ c.entities} = {n | g.Reaches g.names s n} := Set.ext hiff
  rw [hset]
  exact hg.connected_reaches s

theorem inner_of_mem_clusters {c : Cluster} (hc : c ∈ g.clusters) :
    c.density.part = g.innerEdges c.entities :=
  (mem_clusters_iff.1 hc).2.2

/-- A cluster of some size could have an edge for every two of its entities. -/
theorem two_mul_whole_density (c : Cluster) :
    2 * c.density.whole = c.entities.length * (c.entities.length - 1) := by
  have hnat : 2 * c.possible = c.entities.length * (c.entities.length - 1) :=
    Nat.two_mul_div_two_of_even (Nat.even_mul_pred_self _)
  show 2 * (c.possible : ℤ) = _
  rcases Nat.eq_zero_or_pos c.entities.length with hzero | hpos
  · rw [hzero, Nat.zero_mul] at hnat
    rw [hzero]
    omega
  · rw [← Nat.cast_pred hpos]
    exact_mod_cast hnat

theorem IsSimple.areClusters (hg : g.IsSimple) : g.AreClusters g.clusters := by
  have hbounds : ∀ c ∈ g.clusters, c.entities.length ≤ g.innerEdges c.entities + 1 ∧
      g.innerEdges c.entities ≤ c.possible := fun c hc =>
    hg.innerEdges_bounds (hg.nodup_of_mem_clusters hc) (hg.connected_of_mem_clusters hc)
  exact
    { three_le := fun c hc => (mem_clusters_iff.1 hc).2.1
      nodup := fun c hc => hg.nodup_of_mem_clusters hc
      disjoint := hg.pairwise_disjoint_clusters
      connected := fun c hc => hg.connected_of_mem_clusters hc
      density_part := fun c hc => by rw [inner_of_mem_clusters hc, hg.innerEdges_eq_ncard]
      density_whole := fun c _ => two_mul_whole_density c
      le_part := fun c hc => inner_of_mem_clusters hc ▸ (hbounds c hc).1
      part_le := fun c hc => by
        rw [inner_of_mem_clusters hc]
        exact Int.ofNat_le.2 (hbounds c hc).2
      complete := hg.exists_cluster_of_component }

end ErDiagram.Graph

namespace ErDiagram.Diagram

/-- **The clusters of a diagram are disjoint and connected**, and hubs that are joined through
hubs are in one of them, if they are three or more. The density of each is the share of its edges,
and lies between that of a tree and that of a complete graph. -/
theorem areClusters_analyze (d : Diagram) :
    d.analyze.graph.AreClusters d.analyze.clusters :=
  (Graph.isSimple_ofDiagram d).areClusters

end ErDiagram.Diagram
