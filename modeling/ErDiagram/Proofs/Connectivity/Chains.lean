import ErDiagram.Proofs.Connectivity.Degrees

/-!
# Chains are disjoint paths

A chain goes on only where one unseen neighbour is left. So an entity of a chain is adjacent to
the next one and to none that comes later, and what it is adjacent to outside the chain is all
that its degree does not account for: the first and the last entity have one neighbour in the
chain, and those between them have two. A chain is linear if it accounts for all neighbours, and
then nothing outside is joined with it, so that it is a whole component.

`Direct` is what the recursion of `Graph.grow` gives: it is defined along the path in the same
way, and a path that is grown has it by one induction. Whether a path is linear is computed from
degrees, and a degree is turned into a statement about neighbours by the neighbours that `Direct`
knows already. From there on it is a statement about sets: a path that has all neighbours of its
entities is not left by any walk.

That a chain has a second entity is used throughout, and comes from the least length of a chain.
-/

namespace ErDiagram.Graph

variable {g : Graph}

/-! ## Paths without shortcuts

Whether a chain is linear is decided by how many neighbours its entities have, one by one. This
says something of the whole only because a chain has no shortcuts: an entity has no neighbours on
the path but those beside it. -/

/-- **A path without shortcuts**: every entity is adjacent to the next one, and to none that comes
later. It is stronger than being a path of neighbours, and is needed for counting: with a shortcut
the neighbours of an entity in the path would be more than the one before and the one after it. -/
inductive Direct (g : Graph) : List String → Prop
  | single (a : String) : Direct g [a]
  | cons {a b : String} {rest : List String} (hab : b ∈ g.neighbours a)
      (hrest : ∀ c ∈ rest, c ∉ g.neighbours a) (hdirect : Direct g (b :: rest)) :
      Direct g (a :: b :: rest)

theorem direct_cons_cons_iff {a b : String} {rest : List String} :
    g.Direct (a :: b :: rest) ↔
      b ∈ g.neighbours a ∧ (∀ c ∈ rest, c ∉ g.neighbours a) ∧ g.Direct (b :: rest) := by
  constructor
  · rintro ⟨⟩
    exact ⟨‹_›, ‹_›, ‹_›⟩
  · rintro ⟨hab, hrest, hdirect⟩
    exact .cons hab hrest hdirect

/-- **A path that is grown has no shortcuts**, as there was nothing else to go on to: what comes
later was unseen when the path went on, and a neighbour that is unseen is the one it goes to. -/
theorem direct_grow (accept : String → Bool) {unseen : List String} (hu : unseen.Nodup)
    (current : String) : g.Direct (current :: g.grow accept unseen current) := by
  induction unseen, current using grow.induct g accept with
  | case1 unseen current next hone haccept ih =>
    have honly : ∀ n, n ∈ g.neighbours current ∧ n ∈ unseen ↔ n = next := fun n => by
      rw [← List.mem_singleton, ← hone, List.mem_filter, List.contains_iff_mem]
    rw [grow_of_filter_eq hone, if_pos haccept]
    refine .cons ((honly next).2 rfl).1 (fun n hn hadj => ?_) (ih (hu.erase next))
    obtain ⟨hne, hunseen⟩ := hu.mem_erase_iff.1 (grow_subset _ _ _ hn)
    exact hne ((honly n).1 ⟨hadj, hunseen⟩)
  | case2 unseen current next hone haccept =>
    rw [grow_of_filter_eq hone, if_neg haccept]
    exact .single current
  | case3 unseen current hnone =>
    rw [grow_of_forall_filter_ne hnone]
    exact .single current

theorem Direct.isChain (hg : g.IsSimple) {path : List String} (h : g.Direct path) :
    path.IsChain g.simple.Adj := by
  induction h with
  | single a => exact .singleton a
  | cons hab _ _ ih => exact .cons_cons (hg.adj_iff.2 hab) ih

/-- What is acceptable on the way is all that a path goes on to. -/
theorem accept_of_mem_grow {accept : String → Bool} {unseen : List String} {current n : String}
    (h : n ∈ g.grow accept unseen current) : accept n = true := by
  induction unseen, current using grow.induct g accept with
  | case1 unseen current next hone haccept ih =>
    rw [grow_of_filter_eq hone, if_pos haccept] at h
    rcases List.mem_cons.1 h with rfl | h
    · exact haccept
    · exact ih h
  | case2 unseen current next hone haccept =>
    rw [grow_of_filter_eq hone, if_neg haccept] at h
    cases h
  | case3 unseen current hnone =>
    rw [grow_of_forall_filter_ne hnone] at h
    cases h

/-! ## Linear paths

The flag of a chain counts neighbours. For a path without shortcuts the count is right exactly if
no neighbour is off the path, and then nothing else is connected with it. -/

/-- An entity with a neighbour has no other exactly if its degree is one. -/
theorem IsSimple.degree_le_one_iff (hg : g.IsSimple) {n a : String} (ha : a ∈ g.neighbours n) :
    g.degree n ≤ 1 ↔ ∀ m ∈ g.neighbours n, m = a := by
  constructor
  · intro h m hm
    by_contra hne
    exact absurd (two_le_degree hm ha hne) (by omega)
  · exact fun h => hg.degree_le_length fun m hm => List.mem_singleton.2 (h m hm)

/-- An entity with two neighbours has no other exactly if its degree is two. -/
theorem IsSimple.degree_eq_two_iff (hg : g.IsSimple) {n a b : String} (ha : a ∈ g.neighbours n)
    (hb : b ∈ g.neighbours n) (hab : a ≠ b) :
    g.degree n = 2 ↔ ∀ m ∈ g.neighbours n, m = a ∨ m = b := by
  constructor
  · intro h m hm
    by_contra hne
    rw [not_or] at hne
    have hthree := length_le_degree (g := g) (n := n) (l := [m, a, b])
      (by simp [hne.1, hne.2, hab]) (by simp [hm, ha, hb])
    rw [h] at hthree
    exact Nat.not_succ_le_self 2 hthree
  · intro h
    have hle : g.degree n ≤ [a, b].length := hg.degree_le_length fun m hm => by simpa using h m hm
    exact Nat.le_antisymm hle (two_le_degree ha hb hab)

/-- **From the second entity on a path is linear** if it has all neighbours of what is there. The
induction is on the rest of the path, with the entity before at hand, which is a neighbour too. -/
theorem Direct.innerLinear_iff (hg : g.IsSimple) {a b : String} {rest : List String}
    (h : g.Direct (a :: b :: rest)) (hnodup : (a :: b :: rest).Nodup) :
    g.degree (rest.getLastD b) ≤ 1 ∧ g.innerLinear (b :: rest) = true ↔
      ∀ n ∈ b :: rest, g.neighbours n ⊆ a :: b :: rest := by
  induction rest generalizing a b with
  | nil =>
    have hba := mem_neighbours_comm.1 (direct_cons_cons_iff.1 h).1
    have hinner : g.innerLinear [b] = true := rfl
    rw [List.getLastD_nil, hg.degree_le_one_iff hba, and_iff_left hinner]
    simp only [List.mem_singleton, forall_eq]
    refine forall₂_congr fun m hm => ?_
    have hmb : m ≠ b := fun heq => hg.loopless b (heq ▸ hm)
    simp [hmb]
  | cons c rest ih =>
    obtain ⟨hab, haway, hdirect⟩ := direct_cons_cons_iff.1 h
    obtain ⟨hbc, hbaway, -⟩ := direct_cons_cons_iff.1 hdirect
    obtain ⟨hanot, hnodup'⟩ := List.nodup_cons.1 hnodup
    have hac : a ≠ c := fun heq => hanot (heq ▸ by simp)
    -- the second entity has the first and the third for neighbours on the path, and no others
    have hsecond : g.degree b = 2 ↔ g.neighbours b ⊆ a :: b :: c :: rest := by
      rw [hg.degree_eq_two_iff (mem_neighbours_comm.1 hab) hbc hac]
      refine forall₂_congr fun m hm => ?_
      have hmb : m ≠ b := fun heq => hg.loopless b (heq ▸ hm)
      have hmrest : m ∉ rest := fun hmem => hbaway m hmem hm
      simp [hmb, hmrest]
    -- the first is no neighbour of the later ones
    have hlater : (∀ n ∈ c :: rest, g.neighbours n ⊆ b :: c :: rest) ↔
        ∀ n ∈ c :: rest, g.neighbours n ⊆ a :: b :: c :: rest := by
      refine forall₂_congr fun n hn => forall₂_congr fun m hm => ?_
      have hma : m ≠ a := fun heq => haway n hn (mem_neighbours_comm.1 (heq ▸ hm))
      rw [List.mem_cons (a := m) (b := a), or_iff_right hma]
    have hinner : g.innerLinear (b :: c :: rest) = true ↔
        g.degree b = 2 ∧ g.innerLinear (c :: rest) = true := by
      rw [innerLinear, Bool.and_eq_true, beq_iff_eq]
      exact List.cons_ne_nil c rest
    rw [List.getLastD_cons, hinner, and_left_comm, ih hdirect hnodup', hsecond, hlater,
      List.forall_mem_cons (a := b)]

/-- **A path without shortcuts is linear exactly if it has all neighbours of its entities.** The
start is a case of its own, as there is no entity before it. -/
theorem Direct.isLinear_iff (hg : g.IsSimple) {a b : String} {rest : List String}
    (h : g.Direct (a :: b :: rest)) (hnodup : (a :: b :: rest).Nodup) :
    g.isLinear (a :: b :: rest) = true ↔
      ∀ n ∈ a :: b :: rest, g.neighbours n ⊆ a :: b :: rest := by
  obtain ⟨hab, haway, -⟩ := direct_cons_cons_iff.1 h
  have hfirst : g.degree a ≤ 1 ↔ g.neighbours a ⊆ a :: b :: rest := by
    rw [hg.degree_le_one_iff hab]
    refine forall₂_congr fun m hm => ?_
    have hma : m ≠ a := fun heq => hg.loopless a (heq ▸ hm)
    have hmrest : m ∉ rest := fun hmem => haway m hmem hm
    simp [hma, hmrest]
  rw [isLinear, Bool.and_eq_true, Bool.and_eq_true, decide_eq_true_eq, decide_eq_true_eq, and_assoc,
    List.getLastD_cons, h.innerLinear_iff hg hnodup, hfirst, List.forall_mem_cons (a := a)]

/-- What is closed under neighbours is not left by a walk. -/
theorem IsSimple.mem_of_walk (hg : g.IsSimple) {l : List String}
    (hclosed : ∀ n ∈ l, g.neighbours n ⊆ l) {a n : String} (p : g.simple.Walk a n) (ha : a ∈ l) :
    n ∈ l := by
  induction p with
  | nil => exact ha
  | cons hadj _ ih => exact ih (hclosed _ ha (hg.adj_iff.1 hadj))

/-- **A connected path has all neighbours of its entities exactly if it is a component.** This is
where lists end and Mathlib's connected components begin. -/
theorem IsSimple.closed_iff_component (hg : g.IsSimple) {path : List String} {a : String}
    (ha : a ∈ path) (hreach : ∀ n ∈ path, g.simple.Reachable a n) :
    (∀ n ∈ path, g.neighbours n ⊆ path) ↔
      ∃ component : g.simple.ConnectedComponent, ∀ n, n ∈ path ↔ n ∈ component.supp := by
  constructor
  · intro hclosed
    refine ⟨g.simple.connectedComponentMk a, fun n => ?_⟩
    rw [SimpleGraph.ConnectedComponent.mem_supp_iff, SimpleGraph.ConnectedComponent.eq,
      SimpleGraph.reachable_comm]
    exact ⟨hreach n, fun ⟨p⟩ => hg.mem_of_walk hclosed p ha⟩
  · rintro ⟨component, hcomponent⟩ n hn m hm
    rw [hcomponent] at hn ⊢
    exact component.mem_supp_of_adj_mem_supp hn (hg.adj_iff.2 hm)

/-! ## Chains -/

theorem three_le_of_mem_chains {c : Chain} (h : c ∈ g.chains) : 3 ≤ c.entities.length := by
  unfold chains at h
  obtain ⟨path, hpath, rfl⟩ := List.mem_map.1 h
  exact of_decide_eq_true (List.mem_filter.1 hpath).2

theorem isLinear_of_mem_chains {c : Chain} (h : c ∈ g.chains) :
    c.isLinear = g.isLinear c.entities := by
  unfold chains at h
  obtain ⟨path, -, rfl⟩ := List.mem_map.1 h
  rfl

/-- **No entity is on two paths**, as it is seen when the first one has been found. What is unseen
after a path has none of its entities, and the later paths are made of that. -/
theorem pairwise_disjoint_pathsFrom (unseen starts : List String) :
    (g.pathsFrom unseen starts).Pairwise List.Disjoint := by
  induction starts generalizing unseen with
  | nil => exact .nil
  | cons start rest ih =>
    rw [pathsFrom]
    split
    · refine List.pairwise_cons.2 ⟨fun path hpath n hn hn' => ?_, ih _⟩
      have hleft := (List.mem_filter.1 (subset_of_mem_pathsFrom hpath hn')).2
      rw [Bool.not_eq_true', ← Bool.not_eq_true, List.contains_iff_mem] at hleft
      exact hleft hn
    · exact ih unseen

theorem pairwise_disjoint_chains (g : Graph) :
    g.chains.Pairwise fun c k => c.entities.Disjoint k.entities := by
  rw [chains, List.pairwise_map]
  exact (pairwise_disjoint_pathsFrom g.names g.names).filter _

/-- **What the chains of a graph are.** The structure is about a list of chains, as the analysis
has it, so that it can say that no two of them meet. Whether a chain is linear is said without
degrees: it is one exactly if it is a whole component, which is what the word is to mean. -/
structure AreChains (g : Graph) (chains : List Chain) : Prop where
  /-- A chain has three entities at least; shorter paths are dropped when they are found. -/
  three_le : ∀ c ∈ chains, 3 ≤ c.entities.length
  /-- No entity is in it twice. -/
  nodup : ∀ c ∈ chains, c.entities.Nodup
  /-- Its entities have one neighbour or two, so that a chain never branches. -/
  degree : ∀ c ∈ chains, ∀ n ∈ c.entities, g.degree n = 1 ∨ g.degree n = 2
  /-- It goes from neighbour to neighbour. -/
  isChain : ∀ c ∈ chains, c.entities.IsChain g.simple.Adj
  /-- No entity is in two chains, since a path is taken from what no path before it has. -/
  disjoint : chains.Pairwise fun c k => c.entities.Disjoint k.entities
  /-- There are not more entities in the chains than there are in all, which bounds their coverage
  by the whole. -/
  sum_length : (chains.map (·.entities.length)).sum ≤ g.names.length
  /-- A chain is linear exactly if it is a component of the graph: nothing but the chain is
  connected with it. The flag itself is computed from neighbours. -/
  isLinear_iff : ∀ c ∈ chains, c.isLinear = true ↔
    ∃ component : g.simple.ConnectedComponent, ∀ n, n ∈ c.entities ↔ n ∈ component.supp

/-- The entities of a chain have one neighbour or two. -/
theorem IsSimple.degree_of_mem_chains (hg : g.IsSimple) {c : Chain} (h : c ∈ g.chains) {n : String}
    (hn : n ∈ c.entities) : g.degree n = 1 ∨ g.degree n = 2 := by
  obtain ⟨start, unseen, -, hstart, -, hdegree, hc⟩ := hg.exists_of_mem_chains h
  rw [hc] at hn
  rcases List.mem_cons.1 hn with rfl | hn
  · exact hdegree
  · have hne : n ≠ start := fun heq => hstart (heq ▸ grow_subset _ _ _ hn)
    have hpos := hg.degree_pos_of_reachable (hg.reachable_of_mem_grow hn).symm hne
    have hle : g.degree n ≤ 2 := of_decide_eq_true (accept_of_mem_grow hn)
    omega

theorem IsSimple.direct_of_mem_chains (hg : g.IsSimple) {c : Chain} (h : c ∈ g.chains) :
    g.Direct c.entities := by
  obtain ⟨start, unseen, hu, -, -, -, hc⟩ := hg.exists_of_mem_chains h
  rw [hc]
  exact direct_grow _ hu start

/-- **A chain is linear exactly if it is a component.** -/
theorem IsSimple.isLinear_chain_iff (hg : g.IsSimple) {c : Chain} (h : c ∈ g.chains) :
    c.isLinear = true ↔
      ∃ component : g.simple.ConnectedComponent, ∀ n, n ∈ c.entities ↔ n ∈ component.supp := by
  have hdirect := hg.direct_of_mem_chains h
  have hnodup := hg.nodup_of_mem_chains h
  have hreach := hg.reachable_of_mem_chains h
  have hlength := three_le_of_mem_chains h
  rw [isLinear_of_mem_chains h]
  obtain ⟨a, b, rest, hc⟩ : ∃ a b rest, c.entities = a :: b :: rest := by
    match c.entities, hlength with
    | a :: b :: rest, _ => exact ⟨a, b, rest, rfl⟩
  rw [hc] at hdirect hnodup hreach ⊢
  rw [hdirect.isLinear_iff hg hnodup]
  exact hg.closed_iff_component List.mem_cons_self (hreach a List.mem_cons_self)

/-- All chains together have not more entities than the graph. -/
theorem IsSimple.sum_length_chains_le (hg : g.IsSimple) :
    (g.chains.map (·.entities.length)).sum ≤ g.names.length := by
  have hnodup : (g.chains.flatMap (·.entities)).Nodup :=
    List.nodup_flatMap.2 ⟨fun c hc => hg.nodup_of_mem_chains hc, pairwise_disjoint_chains g⟩
  have hsub : g.chains.flatMap (·.entities) ⊆ g.names := fun n hn => by
    obtain ⟨c, hc, hn⟩ := List.mem_flatMap.1 hn
    exact subset_of_mem_chains hc hn
  rw [← List.length_flatMap]
  exact (List.subperm_of_subset hnodup hsub).length_le

end ErDiagram.Graph

namespace ErDiagram.Diagram

/-- **The chains of a diagram are disjoint paths**, and the linear ones are whole components.
There is no condition on the diagram. -/
theorem areChains_analyze (d : Diagram) :
    d.analyze.graph.AreChains d.analyze.chains := by
  have hg := Graph.isSimple_ofDiagram d
  exact
    { three_le := fun c hc => Graph.three_le_of_mem_chains hc
      nodup := fun c hc => hg.nodup_of_mem_chains hc
      degree := fun c hc n => hg.degree_of_mem_chains hc
      isChain := fun c hc => (hg.direct_of_mem_chains hc).isChain hg
      disjoint := Graph.pairwise_disjoint_chains _
      sum_length := hg.sum_length_chains_le
      isLinear_iff := fun c hc => hg.isLinear_chain_iff hc }

end ErDiagram.Diagram
