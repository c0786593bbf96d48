import ErDiagram.Proofs.Connectivity.Distance
import ErDiagram.Proofs.Layout.Layered
import Mathlib.Data.List.Sort

/-!
# Layers are distances

Layers that are found by going from some entities to their neighbours hold the entities of one
distance each. Ordering a layer does not change what it holds, and entities that are joined are in
the same layer or in two that follow each other. Each component has its own layers, and together
they hold every name once.

What a search should give is said without a search: `IsLayering` and `IsComponents` speak of
distance and reachability in the simple graph of Mathlib, in any order. Both are used on two
sides. They are what a graph library promises, and they are what the searches of the layered
layout are proved to give. As layers by distance are determined up to the order inside of each
(`IsLayering.eq_of_sorted`), the two agree once both are in the order of the declarations.

The search is followed with an invariant, `Shell`: the last layer is what is at some distance, and
unseen is what is farther away.
-/

namespace ErDiagram.Layout.Layered

variable {g : Graph} {sources : List String}

/-- A list along which keys increase is determined by what is in it. With this, equal sets of
names become equal lists once they are sorted. -/
theorem eq_of_pairwise_lt {β : Type} {f : β → ℕ} {l l' : List β}
    (h : l.Pairwise fun a b => f a < f b) (h' : l'.Pairwise fun a b => f a < f b)
    (hmem : ∀ b, b ∈ l ↔ b ∈ l') : l = l' := by
  have : Std.Antisymm fun a b : β => f a < f b :=
    ⟨fun _ _ hab hba => absurd hab (Nat.lt_asymm hba)⟩
  have : Std.Irrefl fun a b : β => f a < f b := ⟨fun _ => Nat.lt_irrefl _⟩
  exact h.eq_of_mem_iff h' hmem

/-! ## Layerings -/

/-- **Whether a name is in the layer of some index.** Layers are counted from zero, so that the
index can be a distance. -/
def InLayer (ls : List (List String)) (i : ℕ) (n : String) : Prop :=
  ∃ l, ls[i]? = some l ∧ n ∈ l

@[simp] theorem not_inLayer_nil {i : ℕ} {n : String} : ¬ InLayer [] i n := by
  rintro ⟨_, h, _⟩
  cases h

@[simp] theorem inLayer_cons_zero {l : List String} {ls : List (List String)} {n : String} :
    InLayer (l :: ls) 0 n ↔ n ∈ l := by
  simp [InLayer]

@[simp] theorem inLayer_cons_succ {l : List String} {ls : List (List String)} {i : ℕ}
    {n : String} : InLayer (l :: ls) (i + 1) n ↔ InLayer ls i n := by
  simp [InLayer]

theorem mem_flatten_iff_inLayer {ls : List (List String)} {n : String} :
    n ∈ ls.flatten ↔ ∃ i, InLayer ls i n := by
  rw [List.mem_flatten]
  constructor
  · rintro ⟨l, hl, hn⟩
    obtain ⟨i, hi⟩ := List.mem_iff_getElem?.1 hl
    exact ⟨i, l, hi, hn⟩
  · rintro ⟨i, l, hi, hn⟩
    exact ⟨l, List.mem_of_getElem? hi, hn⟩

/-- **Layers by distance** from some vertices: the layer of an index holds what is at this
distance, each once, and no layer is empty. Without the last the layers would not be determined,
since empty ones could follow. What cannot be reached has no distance and is in no layer. -/
structure IsLayering (G : SimpleGraph String) (sources : List String)
    (ls : List (List String)) : Prop where
  /-- No name is in a layer twice. -/
  nodup : ∀ l ∈ ls, l.Nodup
  /-- No layer is empty, so that there are as many layers as there are distances. -/
  ne_nil : ∀ l ∈ ls, l ≠ []
  /-- The index of a layer is the distance of what is in it, and what is at a distance is in its
  layer. The order inside of a layer is left open. -/
  inLayer_iff : ∀ i n, InLayer ls i n ↔ AtDistance G sources n i

namespace IsLayering

variable {G : SimpleGraph String} {ls ls' : List (List String)}

theorem mem_flatten (h : IsLayering G sources ls) {n : String} :
    n ∈ ls.flatten ↔ ∃ i, AtDistance G sources n i := by
  simp only [mem_flatten_iff_inLayer, h.inLayer_iff]

/-- No name is in two layers. -/
theorem nodup_flatten (h : IsLayering G sources ls) : ls.flatten.Nodup := by
  refine List.nodup_flatten.2
    ⟨h.nodup, List.pairwise_iff_getElem.2 fun i j hi hj hij n hn hn' => ?_⟩
  have hati := (h.inLayer_iff i n).1 ⟨_, List.getElem?_eq_getElem hi, hn⟩
  have hatj := (h.inLayer_iff j n).1 ⟨_, List.getElem?_eq_getElem hj, hn'⟩
  exact hij.ne (hati.unique hatj)

/-- A layer that is there is not empty, so that another layering has one of the same names. -/
theorem exists_getElem?_eq_some (h : IsLayering G sources ls) (h' : IsLayering G sources ls')
    {i : ℕ} {l : List String} (hl : ls[i]? = some l) :
    ∃ l', ls'[i]? = some l' ∧ ∀ n : String, n ∈ l ↔ n ∈ l' := by
  have hiff : ∀ n, InLayer ls i n ↔ InLayer ls' i n := fun n =>
    (h.inLayer_iff i n).trans (h'.inLayer_iff i n).symm
  obtain ⟨n, hn⟩ := List.exists_mem_of_ne_nil l (h.ne_nil l (List.mem_of_getElem? hl))
  obtain ⟨l', hl', _⟩ := (hiff n).1 ⟨l, hl, hn⟩
  refine ⟨l', hl', fun m => ?_⟩
  simpa [InLayer, hl, hl'] using hiff m

/-- **Layers by distance are determined** by an order inside of each. Which names are in a layer
is a matter of distance, and a sorted list is determined by its members. -/
theorem eq_of_sorted {f : String → ℕ} (h : IsLayering G sources ls)
    (h' : IsLayering G sources ls') (hsorted : ∀ l ∈ ls, l.Pairwise fun a b => f a < f b)
    (hsorted' : ∀ l ∈ ls', l.Pairwise fun a b => f a < f b) : ls = ls' := by
  refine List.ext_getElem? fun i => ?_
  cases hi : ls[i]? with
  | some l =>
    obtain ⟨l', hl', hmem⟩ := h.exists_getElem?_eq_some h' hi
    rw [hl', eq_of_pairwise_lt (hsorted l (List.mem_of_getElem? hi))
      (hsorted' l' (List.mem_of_getElem? hl')) hmem]
  | none =>
    cases hi' : ls'[i]? with
    | none => rfl
    | some l' =>
      obtain ⟨l, hl, _⟩ := h'.exists_getElem?_eq_some h hi'
      rw [hi] at hl
      cases hl

end IsLayering

/-! ## What is reached, by distance

Layers are built one from the other. A layer holds what is at one distance, and unseen is what is
farther away: from this the next layer follows, and with it the same for one distance more. -/

theorem adjacent_iff_adj (hg : g.IsSimple) {a b : String} :
    g.adjacent a b = true ↔ g.simple.Adj a b := by
  rw [Graph.adjacent_iff_mem_pairs, ← Graph.mem_neighbours, hg.adj_iff]

/-- **A layer in the course of a search**: it holds what is at one distance, and unseen is what is
farther away. What is nearer is neither, and has been seen. Both directions are needed about what
is unseen: that nothing near is found again, and that nothing far is missed. -/
structure Shell (g : Graph) (sources : List String) (i : ℕ) (unseen layer : List String) :
    Prop where
  /-- The layer holds what is at this distance. -/
  mem_iff : ∀ n, n ∈ layer ↔ AtDistance g.simple sources n i
  /-- What is unseen is farther away. -/
  lt_unseen : ∀ n ∈ unseen, ∀ j, AtDistance g.simple sources n j → i < j
  /-- What is farther away is unseen. -/
  beyond : ∀ n j, AtDistance g.simple sources n j → i < j → n ∈ unseen

namespace Shell

variable {i : ℕ} {unseen layer : List String}

/-- **The next layer holds what is farther away by one.** Neighbours of a layer are as far away as
it, or by one more or less; the nearer ones have been seen. -/
theorem mem_layerAfter_iff (hg : g.IsSimple) (h : Shell g sources i unseen layer) {n : String} :
    n ∈ layerAfter g unseen layer ↔ AtDistance g.simple sources n (i + 1) := by
  rw [mem_layerAfter]
  constructor
  · rintro ⟨hn, m, hm, hadj⟩
    obtain ⟨j, hj, hat⟩ := ((h.mem_iff m).1 hm).exists_of_adj ((adjacent_iff_adj hg).1 hadj).symm
    exact Nat.le_antisymm hj (h.lt_unseen n hn j hat) ▸ hat
  · intro hat
    obtain ⟨m, hadj, hm⟩ := hat.exists_nearer
    exact ⟨h.beyond n _ hat (Nat.lt_succ_self i), m, (h.mem_iff m).2 hm,
      (adjacent_iff_adj hg).2 hadj.symm⟩

/-- From one layer to the next. -/
theorem next (hg : g.IsSimple) (h : Shell g sources i unseen layer) :
    Shell g sources (i + 1) (without unseen (layerAfter g unseen layer))
      (layerAfter g unseen layer) where
  mem_iff _ := h.mem_layerAfter_iff hg
  lt_unseen n hn j hat := by
    obtain ⟨hn, hnot⟩ := mem_without.1 hn
    refine lt_of_le_of_ne (h.lt_unseen n hn j hat) ?_
    rintro rfl
    exact hnot ((h.mem_layerAfter_iff hg).2 hat)
  beyond n j hat hj := by
    refine mem_without.2 ⟨h.beyond n j hat (Nat.lt_of_succ_lt hj), fun hn => ?_⟩
    exact hj.ne (((h.mem_layerAfter_iff hg).1 hn).unique hat)

/-- If there is no next layer, nothing is farther away. -/
theorem not_atDistance (hg : g.IsSimple) (h : Shell g sources i unseen layer)
    (hnone : layerAfter g unseen layer = []) (k : ℕ) (n : String) :
    ¬ AtDistance g.simple sources n (i + 1 + k) := by
  induction k generalizing n with
  | zero =>
    intro hat
    have hmem := (h.mem_layerAfter_iff hg).2 hat
    rw [hnone] at hmem
    cases hmem
  | succ k ih =>
    intro hat
    obtain ⟨m, _, hm⟩ := AtDistance.exists_nearer (i := i + 1 + k) hat
    exact ih m hm

/-- **The layers from one on** hold what is farther away, by one for each layer. -/
theorem inLayer_reach_iff (hg : g.IsSimple) (h : Shell g sources i unseen layer) (k : ℕ)
    (n : String) :
    InLayer (reach g unseen layer) k n ↔ AtDistance g.simple sources n (i + k) := by
  fun_induction reach g unseen layer generalizing i k with
  | case1 unseen layer hnone =>
    cases k with
    | zero => rw [inLayer_cons_zero, h.mem_iff, Nat.add_zero]
    | succ k =>
      rw [inLayer_cons_succ, ← Nat.add_assoc, Nat.add_right_comm]
      exact iff_of_false not_inLayer_nil (h.not_atDistance hg hnone k n)
  | case2 unseen layer _ ih =>
    cases k with
    | zero => rw [inLayer_cons_zero, h.mem_iff, Nat.add_zero]
    | succ k => rw [inLayer_cons_succ, ih (h.next hg), Nat.add_assoc, Nat.add_comm 1 k]

end Shell

theorem ne_nil_of_mem_reach {unseen layer : List String} (h : layer ≠ []) :
    ∀ l ∈ reach g unseen layer, l ≠ [] := by
  fun_induction reach g unseen layer with
  | case1 unseen layer _ => exact List.forall_mem_singleton.2 h
  | case2 unseen layer hne ih => exact List.forall_mem_cons.2 ⟨h, ih hne⟩

/-- The layers are parts of a list if those that they are made of are. -/
theorem sublist_of_mem_reach {unseen layer names : List String} (hlayer : layer.Sublist names)
    (hunseen : unseen.Sublist names) : ∀ l ∈ reach g unseen layer, l.Sublist names := by
  fun_induction reach g unseen layer with
  | case1 unseen layer _ => exact List.forall_mem_singleton.2 hlayer
  | case2 unseen layer _ ih =>
    exact List.forall_mem_cons.2
      ⟨hlayer, ih (List.filter_sublist.trans hunseen) (List.filter_sublist.trans hunseen)⟩

theorem nodup_of_mem_reach {unseen layer : List String} (hlayer : layer.Nodup)
    (hunseen : unseen.Nodup) : ∀ l ∈ reach g unseen layer, l.Nodup := by
  fun_induction reach g unseen layer with
  | case1 unseen layer _ => exact List.forall_mem_singleton.2 hlayer
  | case2 unseen layer _ ih =>
    exact List.forall_mem_cons.2 ⟨hlayer, ih (hunseen.filter _) (hunseen.filter _)⟩

/-- **Going on from some names gives layers by distance**, if all that can be reached is there to
be found. In the beginning the sources are the shell at distance zero. -/
theorem isLayering_reach (hg : g.IsSimple) {names : List String} (hnames : names.Nodup)
    (hsources : sources.Nodup) (hne : sources ≠ [])
    (hall : ∀ s ∈ sources, ∀ n, g.simple.Reachable s n → n ∈ names) :
    IsLayering g.simple sources (reach g (without names sources) sources) where
  nodup := nodup_of_mem_reach hsources (hnames.filter _)
  ne_nil := ne_nil_of_mem_reach hne
  inLayer_iff i n := by
    have hshell : Shell g sources 0 (without names sources) sources := by
      refine ⟨fun n => atDistance_zero_iff.symm, ?_, ?_⟩
      · rintro n hn (_ | j) hat
        · exact absurd (atDistance_zero_iff.1 hat) (mem_without.1 hn).2
        · exact Nat.succ_pos j
      · intro n j hat hj
        obtain ⟨⟨s, hs, p, _⟩, _⟩ := id hat
        refine mem_without.2 ⟨hall s hs n p.reachable, fun hn => ?_⟩
        exact hj.ne ((atDistance_zero_iff.2 hn).unique hat)
    rw [hshell.inLayer_reach_iff hg, Nat.zero_add]

/-! ## Components, by connections -/

/-- **The components of a graph**, in any order: lists of what is connected, which hold each name
of the graph once. Each list has a name in it from which all others are reached, so that no
component is empty. -/
structure IsComponents (g : Graph) (cs : List (List String)) : Prop where
  /-- No name is in a component twice. -/
  nodup : ∀ c ∈ cs, c.Nodup
  /-- No name is in two components. -/
  disjoint : cs.Pairwise List.Disjoint
  /-- A component holds what is connected with some name of it, and all of that. It follows that
  none is empty. -/
  connected : ∀ c ∈ cs, ∃ n ∈ c, ∀ m, m ∈ c ↔ g.simple.Reachable n m
  /-- The names of the components are those of the graph. -/
  mem_names_iff : ∀ n, n ∈ g.names ↔ ∃ c ∈ cs, n ∈ c

theorem linked_iff_reachable (hg : g.IsSimple) {names : List String} (hnames : g.names ⊆ names)
    {a b : String} : Linked g names a b ↔ g.simple.Reachable a b := by
  rw [SimpleGraph.reachable_iff_reflTransGen]
  have hstep : Step g names = g.simple.Adj := by
    ext a b
    rw [Step, adjacent_iff_adj hg, and_iff_left_iff_imp]
    exact fun h => ⟨hnames (hg.mem_names_of_adj h.symm), hnames (hg.mem_names_of_adj h)⟩
  rw [Linked, hstep]

/-- **A component holds what is connected** with the name it is made for. Between `Linked`, which
follows the search, and reachability in the simple graph there is no difference where all names of
the graph may be visited. -/
theorem mem_component_iff_reachable (hg : g.IsSimple) {names : List String}
    (hnames : g.names ⊆ names) {a b : String} (ha : a ∈ names) :
    b ∈ component g names a ↔ g.simple.Reachable a b := by
  rw [mem_component ha, linked_iff_reachable hg hnames]
  exact and_iff_right_of_imp fun h => ((linked_iff_reachable hg hnames).2 h).mem ha

/-- **No name is in two components.** Being linked is an equivalence, and a component is one of
its classes. -/
theorem disjoint_components {names l : List String} (hl : l.Nodup) (hsub : l ⊆ names) :
    (components g names l).Pairwise List.Disjoint := by
  induction l with
  | nil => exact .nil
  | cons n l ih =>
    obtain ⟨hn, hl⟩ := List.nodup_cons.1 hl
    have ih := ih hl fun m hm => hsub (List.mem_cons_of_mem n hm)
    rw [components]
    split
    · next hhead =>
      refine List.pairwise_cons.2 ⟨fun c hc m hm hm' => ?_, ih⟩
      obtain ⟨k, hk, hhead', rfl⟩ := mem_components.1 hc
      have hnames := hsub List.mem_cons_self
      have hknames := hsub (List.mem_cons_of_mem n hk)
      -- with a name in common they are the same, and start with the same name
      have hnk : Linked g names n k :=
        ((mem_component hnames).1 hm).2.trans ((mem_component hknames).1 hm').2.symm
      rw [component_eq_of_linked hnames hnk, hhead, Option.some.injEq] at hhead'
      exact hn (hhead' ▸ hk)
    · exact ih

theorem component_sublist (names : List String) (n : String) :
    (component g names n).Sublist names :=
  List.filter_sublist

end ErDiagram.Layout.Layered
