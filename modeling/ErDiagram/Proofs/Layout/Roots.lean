import ErDiagram.Proofs.Greatest
import ErDiagram.Proofs.Layout.Engine

/-!
# Distances from roots

The layers of all components hold every entity once, and the index of the layer of an entity is
its distance from the nearest root of its component. As a relationship changes this distance by
one at most, it joins entities of the same layer or of two layers that follow each other.

Roots are found by going through the members of a component. They are described here without a
component (`IsLayerRoot`): by which entities others point to, and by what is reachable from an
entity. Depth is described in the same way (`AtDepth`), as the least distance from a root that is
reachable. So the statement about layers speaks of the diagram, and the lists by which layers are
computed do not occur in it.

Ordering a layer by barycentres changes the order inside of it and nothing else. What is proved
about layers before they are ordered is carried over by this, layer by layer.
-/

namespace ErDiagram

open Layout Layout.Layered

/-! ## Roots -/

namespace Diagram

/-- Whether another entity points to an entity. A relationship of an entity with itself does not
count, so that it does not keep an entity from being a root. -/
def IsPointedAt (d : Diagram) (n : String) : Prop :=
  ∃ r ∈ d.relationships, r.target = n ∧ r.source ≠ n

/-- **Whether an entity is a root of its component**: no other one points to it, or others point
to all entities of the component and it is the earliest of those with the most neighbours. A
component may have many roots of the first kind, and if it has none, it has exactly one of the
second. -/
def IsLayerRoot (d : Diagram) (n : String) : Prop :=
  n ∈ d.entityNames ∧
    (¬ d.IsPointedAt n ∨
      ((∀ m, (Graph.ofDiagram d).simple.Reachable n m → d.IsPointedAt m) ∧
        ∀ m, (Graph.ofDiagram d).simple.Reachable n m →
          (Graph.ofDiagram d).degree m < (Graph.ofDiagram d).degree n ∨
            ((Graph.ofDiagram d).degree m = (Graph.ofDiagram d).degree n ∧
              d.entityNames.idxOf n ≤ d.entityNames.idxOf m)))

end Diagram

namespace Layout.Layered

variable {g : Graph} {names : List String}

/-- **The first with the most neighbours.** The definition goes through a list; this says which
one it finds, by degrees and places only. -/
theorem mostConnected?_eq_some_iff {l : List String}
    (hl : l.Pairwise fun a b => Engine.rank names a < Engine.rank names b) {n : String} :
    mostConnected? g l = some n ↔ n ∈ l ∧ ∀ m ∈ l, g.degree m < g.degree n ∨
      (g.degree m = g.degree n ∧ Engine.rank names n ≤ Engine.rank names m) := by
  cases l with
  | nil => simp [mostConnected?]
  | cons first rest =>
    obtain ⟨earlier, later, hsplit, hearlier, hlater⟩ :=
      exists_foldl_greatest g.degree first rest
    rw [mostConnected?, Option.some.injEq]
    generalize rest.foldl (fun best n => if g.degree best < g.degree n then n else best) first
      = best at *
    rw [hsplit] at hl ⊢
    have hbehind : ∀ m ∈ later, Engine.rank names best < Engine.rank names m :=
      (List.pairwise_cons.1 (List.pairwise_append.1 hl).2.1).1
    constructor
    · rintro rfl
      refine ⟨by simp, fun m hm => ?_⟩
      rcases List.mem_append.1 hm with hm | hm
      · exact .inl (hearlier m hm)
      · rcases List.mem_cons.1 hm with rfl | hm
        · exact .inr ⟨rfl, le_rfl⟩
        · exact (hlater m hm).lt_or_eq.imp_right fun h => ⟨h, (hbehind m hm).le⟩
    · rintro ⟨hn, hgreatest⟩
      have hbest := hgreatest best (by simp)
      rcases List.mem_append.1 hn with hn | hn
      · have := hearlier n hn
        omega
      · rcases List.mem_cons.1 hn with rfl | hn
        · rfl
        · have := hlater n hn
          have := hbehind n hn
          omega

/-- **The roots** are what no other name points to, or the first with the most neighbours. The
second case is that of a component in which every name is pointed to, as in a cycle. -/
theorem mem_roots_iff {d : Diagram} {members : List String} {n : String} :
    n ∈ roots g d.ends members ↔ n ∈ members ∧ (¬ d.IsPointedAt n ∨
      ((∀ m ∈ members, d.IsPointedAt m) ∧ mostConnected? g members = some n)) := by
  have hany : ∀ n, (d.ends.any fun e => e.2 == n && e.1 != e.2) = true ↔ d.IsPointedAt n := by
    intro n
    simp only [Diagram.ends, List.any_map, List.any_eq_true, Function.comp_apply,
      Bool.and_eq_true, beq_iff_eq, bne_iff_ne, Diagram.IsPointedAt]
    refine exists_congr fun r => and_congr_right fun _ => and_congr_right fun h => ?_
    rw [h]
  have hheads : ∀ n, n ∈ (members.filter fun n => !d.ends.any fun e => e.2 == n && e.1 != e.2) ↔
      n ∈ members ∧ ¬ d.IsPointedAt n := by
    intro n
    rw [List.mem_filter, Bool.not_eq_true', ← Bool.not_eq_true, hany]
  unfold roots
  dsimp only
  split
  · next hnone =>
    have hall : ∀ m ∈ members, d.IsPointedAt m := fun m hm => by
      by_contra hnot
      have hmem := (hheads m).2 ⟨hm, hnot⟩
      rw [List.isEmpty_iff.1 hnone] at hmem
      cases hmem
    rw [Option.mem_toList]
    constructor
    · exact fun h => ⟨mem_of_mostConnected? h, .inr ⟨hall, h⟩⟩
    · rintro ⟨hn, hnot | ⟨_, h⟩⟩
      · exact absurd (hall n hn) hnot
      · exact h
  · next hsome =>
    rw [hheads]
    refine and_congr_right fun _ => (or_iff_left fun hall => hsome ?_).symm
    rw [List.isEmpty_iff, List.eq_nil_iff_forall_not_mem]
    exact fun m hm => ((hheads m).1 hm).2 (hall.1 m ((hheads m).1 hm).1)

/-! ## Layers after they are ordered -/

theorem inLayer_iff_of_forall₂_perm {ls ls' : List (List String)}
    (h : List.Forall₂ List.Perm ls ls') {i : ℕ} {n : String} :
    InLayer ls i n ↔ InLayer ls' i n := by
  induction h generalizing i with
  | nil => rfl
  | cons hperm _ ih =>
    cases i with
    | zero => rw [inLayer_cons_zero, inLayer_cons_zero, hperm.mem_iff]
    | succ i => rw [inLayer_cons_succ, inLayer_cons_succ, ih]

/-- What holds of layers in any order holds of them when they are ordered. -/
theorem forall_mem_of_forall₂_perm {p : List String → Prop} {ls ls' : List (List String)}
    (hp : ∀ {l l' : List String}, l.Perm l' → p l' → p l) (h : List.Forall₂ List.Perm ls ls')
    (hls : ∀ l ∈ ls', p l) : ∀ l ∈ ls, p l := by
  induction h with
  | nil => exact hls
  | cons hperm _ ih =>
    rw [List.forall_mem_cons] at hls ⊢
    exact ⟨hp hperm hls.1, ih hls.2⟩

/-- **Ordering layers keeps them layers by distance.** Distance does not ask in which order a
layer lists its names. -/
theorem IsLayering.of_forall₂_perm {G : SimpleGraph String} {sources : List String}
    {ls ls' : List (List String)} (h : IsLayering G sources ls)
    (hperm : List.Forall₂ List.Perm ls' ls) : IsLayering G sources ls' where
  nodup := forall_mem_of_forall₂_perm (fun hp => hp.nodup_iff.2) hperm h.nodup
  ne_nil := forall_mem_of_forall₂_perm (fun hp hne hnil => hne (List.nil_perm.1 (hnil ▸ hp)))
    hperm h.ne_nil
  inLayer_iff i n := (inLayer_iff_of_forall₂_perm hperm).trans (h.inLayer_iff i n)

theorem forall₂_perm_sortLayers (before : List String) (ls : List (List String)) :
    List.Forall₂ List.Perm (sortLayers g before ls) ls := by
  induction ls generalizing before with
  | nil => exact .nil
  | cons layer ls ih => exact .cons (List.mergeSort_perm _ _) (ih _)

theorem forall₂_perm_layers (ends : List (String × String)) (members : List String) :
    List.Forall₂ List.Perm (layers g ends members) (rawLayers g ends members) := by
  unfold layers
  split
  · next h =>
    rw [h]
    exact .nil
  · next h =>
    rw [h]
    exact .cons (.refl _) (forall₂_perm_sortLayers _ _)

/-! ## The layers of all components

Layers are made for each component on its own. To speak of them together one needs to know
that no name is in two of them, and that the roots of a component are those that a name is
connected with. -/

/-- The layers of all components of a graph. -/
def allLayers (g : Graph) (ends : List (String × String)) (names : List String) :
    List (List (List String)) :=
  (components g (ordered names) (ordered names)).map (layers g ends)

/-- **Whether a name is in a layer of some index**, in whatever component. Layers with one index
lie at the same height in all components. -/
def HasLayer (parts : List (List (List String))) (n : String) (k : ℕ) : Prop :=
  ∃ ls ∈ parts, InLayer ls k n

section AllLayers

variable {ends : List (String × String)}

theorem isLayering_layers (ends : List (String × String)) (hg : g.IsSimple)
    (hnames : ∀ n, n ∈ g.names ↔ n ∈ names) {n : String} (hn : n ∈ names) :
    IsLayering g.simple (roots g ends (component g (ordered names) n))
      (layers g ends (component g (ordered names) n)) :=
  (Engine.isLayering_rawLayers ends hg hnames hn).of_forall₂_perm (forall₂_perm_layers ends _)

/-- **The layers of all components hold every name once.** -/
theorem perm_flatten_allLayers (hg : g.IsSimple) (hnames : ∀ n, n ∈ g.names ↔ n ∈ names) :
    (allLayers g ends names).flatten.flatten.Perm (ordered names) := by
  have hmem : ∀ c ∈ components g (ordered names) (ordered names), ∃ n ∈ names,
      c = component g (ordered names) n ∧
        ∀ m, m ∈ (layers g ends c).flatten ↔ m ∈ component g (ordered names) n := by
    intro c hc
    obtain ⟨n, hn, _, rfl⟩ := mem_components.1 hc
    exact ⟨n, mem_ordered.1 hn, rfl, fun m => mem_flatten_layers ends hn⟩
  rw [List.flatten_flatten]
  refine (List.perm_ext_iff_of_nodup (List.nodup_flatten.2 ⟨?_, ?_⟩) (nodup_ordered names)).2
    fun m => ?_
  · rw [allLayers, List.map_map]
    refine List.forall_mem_map.2 fun c hc => ?_
    obtain ⟨n, hn, rfl, _⟩ := hmem c hc
    exact (isLayering_layers ends hg hnames hn).nodup_flatten
  · rw [allLayers, List.map_map, List.pairwise_map]
    refine (disjoint_components (nodup_ordered names) (List.Subset.refl _)).imp_of_mem
      fun hc hc' hdisjoint m hm hm' => ?_
    obtain ⟨n, _, rfl, hiff⟩ := hmem _ hc
    obtain ⟨n', _, rfl, hiff'⟩ := hmem _ hc'
    exact hdisjoint ((hiff m).1 hm) ((hiff' m).1 hm')
  · rw [allLayers, List.map_map, ← List.flatMap_def, List.mem_flatMap]
    constructor
    · rintro ⟨c, hc, hm⟩
      obtain ⟨n, _, rfl, hiff⟩ := hmem c hc
      exact (component_sublist _ n).subset ((hiff m).1 hm)
    · intro hm
      obtain ⟨n, hn, hc, hmn⟩ := exists_mem_components (g := g) hm
      exact ⟨_, hc, (mem_flatten_layers ends hn).2 hmn⟩

/-- **The index of a layer is the distance** from the roots of the component. -/
theorem hasLayer_allLayers_iff (hg : g.IsSimple) (hnames : ∀ n, n ∈ g.names ↔ n ∈ names)
    {n : String} {k : ℕ} :
    HasLayer (allLayers g ends names) n k ↔ n ∈ names ∧
      AtDistance g.simple (roots g ends (component g (ordered names) n)) n k := by
  unfold HasLayer allLayers
  simp only [List.mem_map, exists_exists_and_eq_and]
  constructor
  · rintro ⟨c, hc, hn⟩
    obtain ⟨m, hm, _, rfl⟩ := mem_components.1 hc
    have hlayers := isLayering_layers ends hg hnames (mem_ordered.1 hm)
    have hnm := (mem_flatten_layers ends hm).1 (mem_flatten_iff_inLayer.2 ⟨k, hn⟩)
    rw [component_eq_of_linked hm ((mem_component hm).1 hnm).2]
    exact ⟨mem_ordered.1 ((component_sublist _ m).subset hnm), (hlayers.inLayer_iff k n).1 hn⟩
  · rintro ⟨hn, hat⟩
    obtain ⟨m, hm, hc, hnm⟩ := exists_mem_components (g := g) (mem_ordered.2 hn)
    have hlayers := isLayering_layers ends hg hnames (mem_ordered.1 hm)
    rw [component_eq_of_linked hm ((mem_component hm).1 hnm).2] at hat
    exact ⟨_, hc, (hlayers.inLayer_iff k n).2 hat⟩

end AllLayers

end Layout.Layered

namespace Diagram

variable {d : Diagram}

theorem rank_eq_idxOf {names : List String} (h : names.Nodup) {n : String} (hn : n ∈ names) :
    Engine.rank names n = names.idxOf n := by
  induction names using List.reverseRecOn with
  | nil => cases hn
  | append_singleton names a ih =>
    obtain ⟨hnames, _, hdisjoint⟩ := List.nodup_append.1 h
    rw [Engine.rank_concat, List.idxOf_append]
    by_cases hmem : n ∈ names
    · rw [if_neg (hdisjoint n hmem a (List.mem_singleton_self a)), if_pos hmem, ih hnames hmem]
    · obtain rfl := List.mem_singleton.1 ((List.mem_append.1 hn).resolve_left hmem)
      simp [hmem]

/-- The names of the graph of a diagram are those of the diagram. -/
theorem mem_names_graph (d : Diagram) (n : String) :
    n ∈ (Graph.ofDiagram d).names ↔ n ∈ d.entityNames :=
  Graph.mem_names_ofDiagram d

/-- **The roots of the component of an entity** are those that it is connected with. -/
theorem mem_roots_component_iff (h : d.entityNames.Nodup) {n r : String} (hn : n ∈ d.entityNames) :
    r ∈ roots (Graph.ofDiagram d) d.ends (component (Graph.ofDiagram d) (ordered d.entityNames) n) ↔
      d.IsLayerRoot r ∧ (Graph.ofDiagram d).simple.Reachable r n := by
  have hmem : ∀ {m}, m ∈ component (Graph.ofDiagram d) (ordered d.entityNames) n ↔
      (Graph.ofDiagram d).simple.Reachable n m :=
    mem_component_iff_reachable (Graph.isSimple_ofDiagram d)
      (fun k hk => mem_ordered.2 ((mem_names_graph d k).1 hk)) (mem_ordered.2 hn)
  have hsorted := (Engine.pairwise_ordered d.entityNames).sublist
    (component_sublist (g := Graph.ofDiagram d) _ n)
  have hdeclared : ∀ {m}, (Graph.ofDiagram d).simple.Reachable n m → m ∈ d.entityNames := fun hm =>
    mem_ordered.1 ((component_sublist _ n).subset (hmem.2 hm))
  rw [mem_roots_iff, mostConnected?_eq_some_iff hsorted, Diagram.IsLayerRoot]
  simp only [hmem]
  constructor
  · rintro ⟨hnr, hroot⟩
    refine ⟨⟨hdeclared hnr, hroot.imp_right ?_⟩, hnr.symm⟩
    rintro ⟨hall, _, hgreatest⟩
    refine ⟨fun m hm => hall m (hnr.trans hm), fun m hm => ?_⟩
    have := hgreatest m (hnr.trans hm)
    rwa [rank_eq_idxOf h (hdeclared hnr), rank_eq_idxOf h (hdeclared (hnr.trans hm))] at this
  · rintro ⟨⟨_, hroot⟩, hrn⟩
    refine ⟨hrn.symm, hroot.imp_right ?_⟩
    rintro ⟨hall, hgreatest⟩
    refine ⟨fun m hm => hall m (hrn.trans hm), hrn.symm, fun m hm => ?_⟩
    rw [rank_eq_idxOf h (hdeclared hrn.symm), rank_eq_idxOf h (hdeclared hm)]
    exact hgreatest m (hrn.trans hm)

/-- **The distance from the nearest root** that an entity is connected with. It is a relation and
not a function, since an entity has no depth if it is not declared. -/
def AtDepth (d : Diagram) (n : String) (k : ℕ) : Prop :=
  (∃ r, d.IsLayerRoot r ∧ (Graph.ofDiagram d).simple.Reachable r n ∧
    (Graph.ofDiagram d).simple.dist r n = k) ∧
  ∀ r, d.IsLayerRoot r → (Graph.ofDiagram d).simple.Reachable r n →
    k ≤ (Graph.ofDiagram d).simple.dist r n

theorem AtDepth.unique {n : String} {k k' : ℕ} (h : d.AtDepth n k) (h' : d.AtDepth n k') :
    k = k' := by
  obtain ⟨⟨r, hr, hreach, rfl⟩, hmin⟩ := h
  obtain ⟨⟨r', hr', hreach', rfl⟩, hmin'⟩ := h'
  exact Nat.le_antisymm (hmin r' hr' hreach') (hmin' r hr hreach)

/-- **Adjacent entities differ by one at most** in their distance from the roots. A path to the
one can be made longer by the edge between the two. -/
theorem AtDepth.le_add_one {m n : String} {k k' : ℕ} (h : d.AtDepth m k) (h' : d.AtDepth n k')
    (hadj : (Graph.ofDiagram d).simple.Adj m n) : k' ≤ k + 1 := by
  obtain ⟨⟨r, hr, hreach, rfl⟩, _⟩ := h
  have hdist : (Graph.ofDiagram d).simple.dist r n ≤ (Graph.ofDiagram d).simple.dist r m + 1 := by
    obtain ⟨p, hp⟩ := hreach.exists_walk_length_eq_dist
    rw [← hp, ← SimpleGraph.Walk.length_concat p hadj]
    exact SimpleGraph.dist_le _
  exact (h'.2 r hr (hreach.trans hadj.reachable)).trans hdist

/-- **The index of the layer of an entity is its distance from the nearest root.** Names have to
be declared once: where one is declared again, its place is that of the last declaration, and the
earliest root is not that of the first. -/
theorem hasLayer_iff_atDepth (h : d.entityNames.Nodup) {n : String} (hn : n ∈ d.entityNames)
    {k : ℕ} :
    HasLayer (allLayers (Graph.ofDiagram d) d.ends d.entityNames) n k ↔ d.AtDepth n k := by
  rw [hasLayer_allLayers_iff (Graph.isSimple_ofDiagram d) (mem_names_graph d), and_iff_right hn,
    AtDistance, AtDepth]
  simp only [mem_roots_component_iff h hn]
  constructor
  · rintro ⟨⟨r, ⟨hr, hreach⟩, p, rfl⟩, hmin⟩
    obtain ⟨q, hq⟩ := hreach.exists_walk_length_eq_dist
    refine ⟨⟨r, hr, hreach, Nat.le_antisymm (SimpleGraph.dist_le p) ?_⟩, fun r' hr' hreach' => ?_⟩
    · exact hq ▸ hmin r ⟨hr, hreach⟩ q
    · obtain ⟨q', hq'⟩ := hreach'.exists_walk_length_eq_dist
      exact hq' ▸ hmin r' ⟨hr', hreach'⟩ q'
  · rintro ⟨⟨r, hr, hreach, rfl⟩, hmin⟩
    exact ⟨⟨r, ⟨hr, hreach⟩, hreach.exists_walk_length_eq_dist⟩, fun r' hr' p =>
      (hmin r' hr'.1 hr'.2).trans (SimpleGraph.dist_le p)⟩

end Diagram

end ErDiagram
