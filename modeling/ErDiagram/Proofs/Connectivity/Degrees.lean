import ErDiagram.Connectivity.Analysis
import ErDiagram.Proofs.Connectivity.Hubs
import Mathlib.Combinatorics.Enumerative.DoubleCounting

/-!
# The graph of a diagram and its degree classes

A graph is kept as a list of pairs of names, and what is asked of it is read off this list: the
neighbours of an entity, its degree, the places of the two ends of an edge. All of it says the
same thing, which is what the relationships say. Two entities are neighbours if a relationship
joins them in one direction or the other, so that the degree of an entity counts its partners;
hubs are the entities with two partners or more, and isolated are those with none.

The partners of an entity are a set that is read off the relationships (`Diagram.partners`). No
graph and no list occurs in it, and it is what the analysis is measured by. `Analysis.Exact` says
of each part of an analysis what it is in terms of partners and of the order of the declarations,
and leaves no part out that the analysis builds on its own.

Places take some care. An edge is a pair of places, and different pairs of names have different
pairs of places because names are listed once. The sum of the degrees is counted through pairs
with a marked end, each edge having two.
-/

namespace ErDiagram

/-! ## What relationships join

Partners are defined by relationships and without the graph. That the neighbours of an entity are
its partners is the link between what is computed and what a diagram says. -/

namespace Diagram

/-- **Whether a relationship joins two names**, in whichever direction. The names may be the same,
and need not be declared. -/
def Joins (d : Diagram) (m n : String) : Prop :=
  ∃ r ∈ d.relationships, (r.source = m ∧ r.target = n) ∨ (r.source = n ∧ r.target = m)

/-- **The partners of an entity**: the other entities that a relationship joins with it. An entity
is not its own partner, a name that is not declared is no partner and has none, and since this is
a set, how often two entities are joined does not count. -/
def partners (d : Diagram) (m : String) : Set String :=
  {n | m ∈ d.entityNames ∧ n ∈ d.entityNames ∧ m ≠ n ∧ d.Joins m n}

theorem mem_joinedPairs_iff_mem_partners {d : Diagram} {m n : String} :
    s(m, n) ∈ d.joinedPairs ↔ n ∈ d.partners m := by
  rw [mem_joinedPairs]
  constructor
  · rintro ⟨r, hr, ⟨hs, ht, hne⟩, hpair⟩
    rcases Sym2.eq_iff.1 hpair with ⟨rfl, rfl⟩ | ⟨rfl, rfl⟩
    · exact ⟨hs, ht, hne, r, hr, .inl ⟨rfl, rfl⟩⟩
    · exact ⟨ht, hs, hne.symm, r, hr, .inr ⟨rfl, rfl⟩⟩
  · rintro ⟨hm, hn, hne, r, hr, ⟨rfl, rfl⟩ | ⟨rfl, rfl⟩⟩
    · exact ⟨r, hr, ⟨hm, hn, hne⟩, rfl⟩
    · exact ⟨r, hr, ⟨hn, hm, hne.symm⟩, Sym2.eq_swap⟩

end Diagram

namespace Graph

variable {g : Graph} (d : Diagram)

/-- **Neighbours are partners.** -/
theorem mem_neighbours_ofDiagram {m n : String} :
    n ∈ (ofDiagram d).neighbours m ↔ n ∈ d.partners m := by
  rw [mem_neighbours, mem_pairs_ofDiagram, Diagram.mem_joinedPairs_iff_mem_partners]

theorem partners_eq_toFinset (n : String) :
    d.partners n = ((ofDiagram d).neighbours n).toFinset := by
  ext m
  rw [List.coe_toFinset, Set.mem_ofPred_eq, mem_neighbours_ofDiagram]

/-- **The degree of an entity is the number of its partners.** Repeated relationships do not raise
it, since neighbours are listed once. -/
theorem degree_ofDiagram (n : String) : (ofDiagram d).degree n = (d.partners n).ncard := by
  rw [partners_eq_toFinset, Set.ncard_coe_finset,
    List.toFinset_card_of_nodup ((isSimple_ofDiagram d).nodup_neighbours n)]
  rfl

/-- An entity without neighbours has no partners. -/
theorem degree_ofDiagram_eq_zero_iff {n : String} :
    (ofDiagram d).degree n = 0 ↔ d.partners n = ∅ := by
  have hfinite : (d.partners n).Finite := by
    rw [partners_eq_toFinset]
    exact Finset.finite_toSet _
  rw [degree_ofDiagram, Set.ncard_eq_zero hfinite]

/-- The first occurrences of the declared names are in the order of the declarations. -/
theorem pairwise_names_ofDiagram :
    (ofDiagram d).names.Pairwise fun m n => d.entityNames.idxOf m < d.entityNames.idxOf n := by
  rw [names_ofDiagram]
  exact pairwise_idxOf_eraseDups _

/-! ## Places

Edges are given by the places of names and not by the names. A place stands for its name as long
as names are listed once, which is so in the graph of every diagram. -/

/-- **A name and its place** say the same. -/
theorem getElem?_names_iff (hg : g.IsSimple) {i : ℕ} {n : String} :
    g.names[i]? = some n ↔ n ∈ g.names ∧ g.index n = i := by
  constructor
  · intro h
    obtain ⟨hi, rfl⟩ := List.getElem?_eq_some_iff.1 h
    exact ⟨List.getElem_mem hi, hg.nodup_names.idxOf_getElem i hi⟩
  · rintro ⟨hn, rfl⟩
    exact List.getElem?_idxOf hn

/-- The two ends of an edge are declared. -/
theorem IsSimple.mem_names_of_mem_pairs (hg : g.IsSimple) {m n : String} (h : s(m, n) ∈ g.pairs) :
    m ∈ g.names ∧ n ∈ g.names :=
  ⟨hg.declared n (mem_neighbours_comm.1 (mem_neighbours.2 h)), hg.declared m (mem_neighbours.2 h)⟩

/-- The places of the ends of an edge, the lesser place first. Taken this way around they are the
same for both directions, as the edge is. -/
def placesOf (g : Graph) (m n : String) : ℕ × ℕ :=
  (min (g.index m) (g.index n), max (g.index m) (g.index n))

/-- **The places of two names say which two names they are.** The first two have to be declared:
all names that are not have the same place. -/
theorem placesOf_eq_iff {a b m n : String} (ha : a ∈ g.names) (hb : b ∈ g.names) :
    g.placesOf a b = g.placesOf m n ↔ s(a, b) = s(m, n) := by
  have hindex : ∀ x ∈ g.names, ∀ y, g.index x = g.index y ↔ x = y := fun x hx y =>
    List.idxOf_inj hx
  rw [Sym2.eq_iff, ← hindex a ha, ← hindex b hb, ← hindex a ha, ← hindex b hb, placesOf, placesOf,
    Prod.mk.injEq]
  omega

theorem indexedEdges_perm (g : Graph) :
    g.indexedEdges.Perm (g.edges.map fun e => g.placesOf e.1 e.2) :=
  List.mergeSort_perm _ _

/-- **Two names are neighbours if the pair of their places is an edge.** -/
theorem placesOf_mem_indexedEdges_iff (hg : g.IsSimple) {m n : String} :
    g.placesOf m n ∈ g.indexedEdges ↔ n ∈ g.neighbours m := by
  rw [mem_neighbours, pairs, (indexedEdges_perm g).mem_iff, List.mem_map, List.mem_map]
  refine exists_congr fun e => and_congr_right fun he => ?_
  obtain ⟨ha, hb⟩ := hg.mem_names_of_mem_pairs (List.mem_map_of_mem he)
  exact placesOf_eq_iff ha hb

/-- No edge is listed twice. -/
theorem nodup_indexedEdges (hg : g.IsSimple) : g.indexedEdges.Nodup := by
  rw [(indexedEdges_perm g).nodup_iff, List.Nodup, List.pairwise_map]
  have hpairs : g.edges.Pairwise fun e f => s(e.1, e.2) ≠ s(f.1, f.2) :=
    List.pairwise_map.1 hg.nodup_pairs
  refine hpairs.imp_of_mem fun he _ hne hplaces => hne ?_
  obtain ⟨ha, hb⟩ := hg.mem_names_of_mem_pairs (List.mem_map_of_mem he)
  exact (placesOf_eq_iff ha hb).1 hplaces

/-- An edge is a pair of different places, the lesser one first. -/
theorem lt_of_mem_indexedEdges (hg : g.IsSimple) {e : ℕ × ℕ} (h : e ∈ g.indexedEdges) :
    e.1 < e.2 ∧ e.2 < g.names.length := by
  obtain ⟨⟨m, n⟩, he, rfl⟩ := List.mem_map.1 ((indexedEdges_perm g).mem_iff.1 h)
  have hpair : s(m, n) ∈ g.pairs := List.mem_map_of_mem he
  obtain ⟨hm, hn⟩ := hg.mem_names_of_mem_pairs hpair
  have hne : g.index m ≠ g.index n := fun heq => by
    obtain rfl := (List.idxOf_inj hm).1 heq
    exact hg.loopless m (mem_neighbours.2 hpair)
  have hmlt : g.index m < g.names.length := List.idxOf_lt_length_of_mem hm
  have hnlt : g.index n < g.names.length := List.idxOf_lt_length_of_mem hn
  show min (g.index m) (g.index n) < max (g.index m) (g.index n) ∧
    max (g.index m) (g.index n) < g.names.length
  omega

/-! ## The sum of the degrees -/

/-- **The degrees sum to twice the number of edges**: every edge is counted at both of its
ends. -/
theorem sum_degree (hg : g.IsSimple) :
    (g.names.map g.degree).sum = 2 * g.indexedEdges.length := by
  have hdegree : ∀ n, g.degree n = (g.pairs.toFinset.bipartiteAbove (fun n p => n ∈ p) n).card := by
    intro n
    have hfilter : g.pairs.toFinset.bipartiteAbove (fun n p => n ∈ p) n
        = (g.pairs.filter fun p => decide (n ∈ p)).toFinset := by
      rw [List.toFinset_filter]
      simp [Finset.bipartiteAbove]
    rw [hfilter, List.toFinset_card_of_nodup (hg.nodup_pairs.filter _), ← map_neighbours,
      List.length_map]
    rfl
  have hends : ∀ p ∈ g.pairs.toFinset,
      (g.names.toFinset.bipartiteBelow (fun n p => n ∈ p) p).card = 2 := by
    intro p hp
    induction p with | _ m n => ?_
    have hpair := List.mem_toFinset.1 hp
    obtain ⟨hm, hn⟩ := hg.mem_names_of_mem_pairs hpair
    have hne : m ≠ n := fun heq => hg.loopless m (mem_neighbours.2 (heq ▸ hpair))
    have htwo : g.names.toFinset.bipartiteBelow (fun n p => n ∈ p) s(m, n) = {m, n} := by
      ext x
      rw [Finset.mem_bipartiteBelow, List.mem_toFinset, Sym2.mem_iff, Finset.mem_insert,
        Finset.mem_singleton]
      refine and_iff_right_of_imp ?_
      rintro (rfl | rfl)
      · exact hm
      · exact hn
    rw [htwo, Finset.card_pair hne]
  calc (g.names.map g.degree).sum
    _ = ∑ n ∈ g.names.toFinset, g.degree n := (List.sum_toFinset _ hg.nodup_names).symm
    _ = ∑ p ∈ g.pairs.toFinset, (g.names.toFinset.bipartiteBelow (fun n p => n ∈ p) p).card := by
      simp only [hdegree]
      exact Finset.sum_card_bipartiteAbove_eq_sum_card_bipartiteBelow _
    _ = 2 * g.pairs.length := by
      rw [Finset.sum_const_nat hends, List.toFinset_card_of_nodup hg.nodup_pairs, Nat.mul_comm]
    _ = 2 * g.indexedEdges.length := by
      rw [length_pairs, (indexedEdges_perm g).length_eq, List.length_map]

end Graph

/-! ## Sorting by a number

Hubs are sorted by degree alone, with a sort that is stable. Stability is stated for each number
on its own, and the order by two keys is put together from there. -/

section ByNumber

variable {β : Type} (key : β → ℕ) (l : List β)

/-- The greater numbers come first. -/
theorem pairwise_mergeSort_key :
    (l.mergeSort fun a b => key b ≤ key a).Pairwise fun a b => key b ≤ key a := by
  have hsorted : (l.mergeSort fun a b => key b ≤ key a).Pairwise
      fun a b => decide (key b ≤ key a) = true :=
    List.pairwise_mergeSort (fun a b c => by simpa using fun hab hbc => Nat.le_trans hbc hab)
      (fun a b => by simpa using Nat.le_total (key b) (key a)) l
  exact hsorted.imp of_decide_eq_true

/-- **What has the same number stays in its order.** It is stability, in the form in which an
order by degree and declaration can be derived from it. -/
theorem filter_mergeSort_key (k : ℕ) :
    (l.mergeSort fun a b => key b ≤ key a).filter (key · = k) = l.filter (key · = k) := by
  have hequal : (l.filter (key · = k)).Pairwise fun a b => decide (key b ≤ key a) = true := by
    refine List.pairwise_of_forall_mem_list fun a ha b hb => ?_
    rw [of_decide_eq_true (List.mem_filter.1 ha).2, of_decide_eq_true (List.mem_filter.1 hb).2]
    exact decide_eq_true le_rfl
  have hsub := List.sublist_mergeSort
    (fun a b c => by simpa using fun hab hbc => Nat.le_trans hbc hab)
    (fun a b => by simpa using Nat.le_total (key b) (key a)) hequal List.filter_sublist
  have hsub' := hsub.filter (key · = k)
  rw [List.filter_filter] at hsub'
  simp only [Bool.and_self] at hsub'
  exact (hsub'.eq_of_length ((List.mergeSort_perm l _).filter _).symm.length_eq).symm

variable {l} in
/-- **A list that is in some order** is sorted by this order where the numbers are equal. A stable
sort by degree thus sorts by degree and then by declaration. -/
theorem pairwise_mergeSort_of_pairwise {R : β → β → Prop} (hl : l.Pairwise R) :
    (l.mergeSort fun a b => key b ≤ key a).Pairwise fun a b =>
      key b < key a ∨ (key a = key b ∧ R a b) := by
  rw [List.pairwise_iff_forall_sublist]
  intro a b hab
  have hle := (pairwise_mergeSort_key key l).sublist hab
  rw [List.pairwise_pair] at hle
  rcases Nat.lt_or_eq_of_le hle with hlt | heq
  · exact .inl hlt
  · have hkept := hab.filter (key · = key a)
    rw [filter_mergeSort_key, List.filter_eq_self.2 (by simp [heq])] at hkept
    exact .inr ⟨heq.symm, List.pairwise_pair.1 (hl.sublist (hkept.trans List.filter_sublist))⟩

end ByNumber

namespace Graph

variable {g : Graph}

/-- Names stand in the order of their places. -/
theorem IsSimple.pairwise_index (hg : g.IsSimple) {l : List String} (hl : l.Sublist g.names) :
    l.Pairwise fun m n => g.index m < g.index n :=
  (pairwise_idxOf hg.nodup_names).sublist hl

/-- **Hubs with more neighbours come first**, and else those that are declared first. The sort is
by degree alone; that declaration decides between equals comes from its being stable. -/
theorem IsSimple.pairwise_hubs (hg : g.IsSimple) :
    g.hubs.Pairwise fun h k =>
      k.degree < h.degree ∨ (h.degree = k.degree ∧ g.index h.entity < g.index k.entity) := by
  rw [hubs_eq_map, List.pairwise_map]
  exact pairwise_mergeSort_of_pairwise g.degree (hg.pairwise_index List.filter_sublist)

/-- **A hub is an entity with at least two neighbours**, and comes with them. -/
theorem mem_hubs_iff {h : Hub} :
    h ∈ g.hubs ↔
      (h.entity ∈ g.names ∧ 2 ≤ g.degree h.entity) ∧ h.neighbours = g.neighbours h.entity := by
  rw [hubs_eq_map, List.mem_map, ← mem_hubNames]
  constructor
  · rintro ⟨n, hn, rfl⟩
    exact ⟨hn, rfl⟩
  · rintro ⟨hn, hneighbours⟩
    refine ⟨h.entity, hn, ?_⟩
    rw [hub, ← hneighbours]

end Graph

/-! ## The analysis of a diagram -/

/-- **An analysis that says what the relationships say.** The fields come in three groups: the
names and their places; neighbours, edges and degrees, which are compared with each other and with
the partners of the diagram; and the degree classes, hubs and isolated entities, as sets and in
their order. Several of them follow from others. They are all there because each of these lists is
read by some other part of a layout, and what is to be known of it should stand in one place. -/
structure Analysis.Exact (a : Analysis) (d : Diagram) : Prop where
  /-- The names are those of the entities. Names that only a relationship has are left out. -/
  mem_names : ∀ n, n ∈ a.graph.names ↔ n ∈ d.entityNames
  /-- Each stands there once, in the order of the first declarations, however often a name is
  declared. -/
  pairwise_names : a.graph.names.Pairwise fun m n => d.entityNames.idxOf m < d.entityNames.idxOf n
  /-- The place of a name is where it stands, so that names and places stand for each other. -/
  getElem?_names : ∀ i n, a.graph.names[i]? = some n ↔ n ∈ d.entityNames ∧ a.graph.index n = i
  /-- Neighbours are neighbours of each other, as the direction of a relationship does not count. -/
  neighbours_comm : ∀ m n, n ∈ a.graph.neighbours m ↔ m ∈ a.graph.neighbours n
  /-- No entity is its own neighbour, even if a relationship joins it with itself. -/
  loopless : ∀ n, n ∉ a.graph.neighbours n
  /-- No neighbour is listed twice, even if several relationships join the same two entities. -/
  nodup_neighbours : ∀ n, (a.graph.neighbours n).Nodup
  /-- Neighbours are those whose places are an edge, the lesser place first. -/
  mem_edges : ∀ m ∈ d.entityNames, ∀ n ∈ d.entityNames,
    (min (a.graph.index m) (a.graph.index n), max (a.graph.index m) (a.graph.index n))
      ∈ a.graph.indexedEdges ↔ n ∈ a.graph.neighbours m
  /-- Neighbours are those that a relationship joins. -/
  mem_neighbours : ∀ m n, n ∈ a.graph.neighbours m ↔ n ∈ d.partners m
  /-- No edge is listed twice. -/
  nodup_edges : a.graph.indexedEdges.Nodup
  /-- An edge joins two different places, of which the lesser is its first. Both are places of
  names. -/
  edge_lt : ∀ e ∈ a.graph.indexedEdges, e.1 < e.2 ∧ e.2 < a.graph.names.length
  /-- The degree of an entity is the number of its partners. -/
  degree : ∀ n, a.graph.degree n = (d.partners n).ncard
  /-- The degrees sum to twice the number of edges, so that no edge is counted at one end only. -/
  sum_degree : (a.graph.names.map a.graph.degree).sum = 2 * a.graph.indexedEdges.length
  /-- The hubs are the entities with two partners or more, with their neighbours in the order of
  the graph. -/
  mem_hubs : ∀ h, h ∈ a.hubs ↔
    (h.entity ∈ d.entityNames ∧ 2 ≤ (d.partners h.entity).ncard) ∧
      h.neighbours = a.graph.neighbours h.entity
  /-- Those with more partners come first, and else those that are declared first. -/
  pairwise_hubs : a.hubs.Pairwise fun h k =>
    k.degree < h.degree ∨ (h.degree = k.degree ∧ a.graph.index h.entity < a.graph.index k.entity)
  /-- Isolated are the entities without a partner. -/
  mem_isolated : ∀ n, n ∈ a.isolated ↔ n ∈ d.entityNames ∧ d.partners n = ∅
  /-- They stand in the order of the entities. -/
  pairwise_isolated : a.isolated.Pairwise fun m n => a.graph.index m < a.graph.index n

/-- **The analysis of a diagram says what its relationships say**, repeated names and
relationships, self-relationships and undeclared ends included. -/
theorem Diagram.exact_analyze (d : Diagram) : d.analyze.Exact d := by
  have hg := Graph.isSimple_ofDiagram d
  have hnames : ∀ n, n ∈ (Graph.ofDiagram d).names ↔ n ∈ d.entityNames := fun n =>
    Graph.mem_names_ofDiagram d
  have hdegree := Graph.degree_ofDiagram d
  refine
    { mem_names := hnames
      pairwise_names := Graph.pairwise_names_ofDiagram d
      getElem?_names := fun i n => (Graph.getElem?_names_iff hg).trans (and_congr_left' (hnames n))
      neighbours_comm := fun m n => Graph.mem_neighbours_comm
      loopless := hg.loopless
      nodup_neighbours := hg.nodup_neighbours
      mem_edges := fun m _ n _ => Graph.placesOf_mem_indexedEdges_iff hg
      mem_neighbours := fun m n => Graph.mem_neighbours_ofDiagram d
      nodup_edges := Graph.nodup_indexedEdges hg
      edge_lt := fun e => Graph.lt_of_mem_indexedEdges hg
      degree := hdegree
      sum_degree := Graph.sum_degree hg
      mem_hubs := fun h => ?_
      pairwise_hubs := hg.pairwise_hubs
      mem_isolated := fun n => ?_
      pairwise_isolated := hg.pairwise_index List.filter_sublist }
  · rw [← hnames, ← hdegree]
    exact Graph.mem_hubs_iff
  · rw [← hnames, ← Graph.degree_ofDiagram_eq_zero_iff]
    exact List.mem_filter.trans (and_congr_right fun _ => beq_iff_eq)

end ErDiagram
