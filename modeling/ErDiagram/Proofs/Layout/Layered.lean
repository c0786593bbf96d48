import ErDiagram.Layout.Layered
import ErDiagram.Proofs.Connectivity.Graph
import ErDiagram.Proofs.OrderedMap
import Mathlib.Logic.Relation

/-!
# Layers place every entity

The layers of a component are found by going from a set of roots to neighbours that have not been
seen, until there are none. What is reached in this way is exactly what is linked with a root, so
that the layers of a component hold its members, and the components hold all names. A layered
layout therefore places every name of a diagram in which no relationship leaves the declared
names, whatever the distances of the frame are.

The search is a recursion on two lists, what is in the last layer and what is still unseen, and a
statement about its result is proved by following this recursion. Being linked is defined inside a
set of names (`Linked`), because the search stays inside one: the roots and what is unseen. For a
component the set is its own names, for the search for components it is all names, and inside a
component the two make no difference (`linked_component`).
-/

namespace ErDiagram.Layout.Layered

variable {g : Graph}

/-! ## Links inside a set of names

A component is found among the names that are left, so that links have to stay within a set. They
are the reflexive and transitive closure of steps between two names of the set. -/

/-- One step between two adjacent names of a set. -/
def Step (g : Graph) (s : List String) (a b : String) : Prop :=
  g.adjacent a b = true ∧ a ∈ s ∧ b ∈ s

/-- **Two names are linked inside a set** if steps between adjacent names of the set lead from the
one to the other. A name is linked with itself, also outside the set. -/
def Linked (g : Graph) (s : List String) : String → String → Prop :=
  Relation.ReflTransGen (Step g s)

theorem Step.symm {s : List String} {a b : String} (h : Step g s a b) : Step g s b a :=
  ⟨g.adjacent_comm a b ▸ h.1, h.2.2, h.2.1⟩

theorem Linked.symm {s : List String} {a b : String} (h : Linked g s a b) :
    Linked g s b a := by
  induction h with
  | refl => exact .refl
  | tail _ hs ih => exact .head hs.symm ih

/-- Links lead from names of the set to names of the set. -/
theorem Linked.mem {s : List String} {a b : String} (h : Linked g s a b) (ha : a ∈ s) :
    b ∈ s := by
  cases h with
  | refl => exact ha
  | tail _ hs => exact hs.2.2

/-! ## What the layers reach -/

theorem mem_layerAfter {unseen layer : List String} {n : String} :
    n ∈ layerAfter g unseen layer ↔ n ∈ unseen ∧ ∃ m ∈ layer, g.adjacent n m = true := by
  rw [layerAfter, List.mem_filter, List.any_eq_true]

theorem mem_without {l others : List String} {n : String} :
    n ∈ without l others ↔ n ∈ l ∧ n ∉ others := by
  simp [without]

/-- The layer that layers start from is among them. -/
theorem mem_flatten_reach_of_mem {unseen layer : List String} {n : String} (h : n ∈ layer) :
    n ∈ (reach g unseen layer).flatten := by
  unfold reach
  split <;> simp [h]

/-- **What has been reached is closed under neighbours.** A neighbour that is unseen when a name
is reached is in the next layer. -/
theorem mem_flatten_reach_of_adjacent {unseen layer : List String} {a b : String}
    (ha : a ∈ (reach g unseen layer).flatten) (hb : b ∈ unseen) (hab : g.adjacent b a = true) :
    b ∈ (reach g unseen layer).flatten := by
  fun_induction reach g unseen layer with
  | case1 unseen layer hnone =>
    rw [List.flatten_cons, List.flatten_nil, List.append_nil] at ha
    have hnext : b ∈ layerAfter g unseen layer := mem_layerAfter.2 ⟨hb, a, ha, hab⟩
    rw [hnone] at hnext
    cases hnext
  | case2 unseen layer _ ih =>
    rw [List.flatten_cons, List.mem_append] at ha ⊢
    right
    by_cases hnext : b ∈ layerAfter g unseen layer
    · exact mem_flatten_reach_of_mem hnext
    · -- a neighbour of this layer would be in the next one
      rcases ha with ha | ha
      · exact absurd (mem_layerAfter.2 ⟨hb, a, ha, hab⟩) hnext
      · exact ih ha (mem_without.2 ⟨hb, hnext⟩)

/-- Whatever is reached is linked with a name of the first layer. -/
theorem exists_linked_of_mem_reach {unseen layer s : List String} {b : String}
    (hlayer : ∀ n ∈ layer, n ∈ s) (hunseen : ∀ n ∈ unseen, n ∈ s)
    (hb : b ∈ (reach g unseen layer).flatten) : ∃ a ∈ layer, Linked g s a b := by
  fun_induction reach g unseen layer with
  | case1 unseen layer _ =>
    rw [List.flatten_cons, List.flatten_nil, List.append_nil] at hb
    exact ⟨b, hb, .refl⟩
  | case2 unseen layer _ ih =>
    rw [List.flatten_cons, List.mem_append] at hb
    rcases hb with hb | hb
    · exact ⟨b, hb, .refl⟩
    · have hnext : ∀ n ∈ layerAfter g unseen layer, n ∈ s := fun n hn =>
        hunseen n (mem_layerAfter.1 hn).1
      have hrest : ∀ n ∈ without unseen (layerAfter g unseen layer), n ∈ s := fun n hn =>
        hunseen n (mem_without.1 hn).1
      obtain ⟨c, hc, hcb⟩ := ih hnext hrest hb
      obtain ⟨_, a, ha, hca⟩ := mem_layerAfter.1 hc
      exact ⟨a, ha, .head ⟨g.adjacent_comm c a ▸ hca, hlayer a ha, hnext c hc⟩ hcb⟩

/-- **The layers reach exactly what is linked with the first of them**, inside the names that are
seen or unseen. One direction is the closure under neighbours, followed along a chain of steps;
the other follows the search. -/
theorem mem_flatten_reach_iff {unseen layer s : List String} {b : String}
    (hs : ∀ n, n ∈ s ↔ n ∈ layer ∨ n ∈ unseen) :
    b ∈ (reach g unseen layer).flatten ↔ ∃ a ∈ layer, Linked g s a b := by
  constructor
  · exact exists_linked_of_mem_reach (fun n hn => (hs n).2 (.inl hn))
      (fun n hn => (hs n).2 (.inr hn))
  · rintro ⟨a, ha, hab⟩
    induction hab with
    | refl => exact mem_flatten_reach_of_mem ha
    | tail _ hstep ih =>
      rcases (hs _).1 hstep.2.2 with hc | hc
      · exact mem_flatten_reach_of_mem hc
      · exact mem_flatten_reach_of_adjacent ih hc hstep.symm.1

/-! ## Components

A component is made for each name and kept at its first one. That names in one component have the
same component is what makes it a partition. -/

theorem mem_component {names : List String} {a b : String} (ha : a ∈ names) :
    b ∈ component g names a ↔ b ∈ names ∧ Linked g names a b := by
  have hs : ∀ n, n ∈ names ↔ n ∈ [a] ∨ n ∈ names.filter (· != a) := by
    intro n
    by_cases hn : n = a
    · simp [hn, ha]
    · simp [hn]
  rw [component, List.mem_filter, List.contains_iff_mem, mem_flatten_reach_iff hs]
  simp

/-- Two parts of a list with the same members are equal. -/
theorem filter_eq_of_mem_iff {l : List String} {p q : String → Bool}
    (h : ∀ n, n ∈ l.filter p ↔ n ∈ l.filter q) : l.filter p = l.filter q := by
  refine List.filter_congr fun n hn => Bool.eq_iff_iff.2 ?_
  have hpq := h n
  rwa [List.mem_filter, List.mem_filter, and_iff_right hn, and_iff_right hn] at hpq

/-- Linked names have the same component. -/
theorem component_eq_of_linked {names : List String} {a b : String} (ha : a ∈ names)
    (hab : Linked g names a b) : component g names b = component g names a := by
  refine filter_eq_of_mem_iff fun n => ?_
  show n ∈ component g names b ↔ n ∈ component g names a
  rw [mem_component ha, mem_component (hab.mem ha)]
  exact and_congr_right fun _ => ⟨fun h => hab.trans h, fun h => hab.symm.trans h⟩

theorem mem_components {names l c : List String} :
    c ∈ components g names l ↔
      ∃ n ∈ l, (component g names n).head? = some n ∧ component g names n = c := by
  induction l with
  | nil => simp [components]
  | cons m l ih =>
    rw [components]
    simp only [List.mem_cons, exists_eq_or_imp]
    split
    · next hm => rw [List.mem_cons, ih, and_iff_right hm, eq_comm]
    · next hm =>
      rw [ih]
      exact ⟨.inr, fun h => h.resolve_left fun h => hm h.1⟩

/-- **Every name is in a component**, that of the first name it is linked with. A component is
listed at its first name only, so that this one has to be found. -/
theorem exists_mem_components {names : List String} {n : String} (hn : n ∈ names) :
    ∃ m ∈ names, component g names m ∈ components g names names ∧
      n ∈ component g names m := by
  have hmem : n ∈ component g names n := (mem_component hn).2 ⟨hn, .refl⟩
  cases hc : component g names n with
  | nil =>
    rw [hc] at hmem
    cases hmem
  | cons m rest =>
    obtain ⟨hm, hnm⟩ := (mem_component hn).1 (hc ▸ List.mem_cons_self : m ∈ component g names n)
    have heq := component_eq_of_linked hn hnm
    refine ⟨m, hm, mem_components.2 ⟨m, hm, ?_, rfl⟩, heq ▸ hmem⟩
    rw [heq, hc]
    rfl

/-! ## Layers -/

theorem mem_of_mostConnected? {l : List String} {n : String}
    (h : mostConnected? g l = some n) : n ∈ l := by
  cases l with
  | nil => cases h
  | cons first rest =>
    rw [mostConnected?, Option.some.injEq] at h
    have hfold : ∀ (l : List String) (best : String),
        l.foldl (fun best n => if g.degree best < g.degree n then n else best) best
          ∈ best :: l := by
      intro l
      induction l with
      | nil => exact fun best => List.mem_cons_self
      | cons m l ih =>
        intro best
        rw [List.foldl_cons]
        split
        · exact List.mem_cons_of_mem best (ih m)
        · rcases List.mem_cons.1 (ih best) with hb | hb
          · rw [hb]
            exact List.mem_cons_self
          · exact List.mem_cons_of_mem best (List.mem_cons_of_mem m hb)
    exact h ▸ hfold rest first

/-- Roots are members. -/
theorem mem_of_mem_roots {ends : List (String × String)} {members : List String} {n : String}
    (h : n ∈ roots g ends members) : n ∈ members := by
  unfold roots at h
  dsimp only at h
  split at h
  · exact mem_of_mostConnected? (Option.mem_toList.1 h)
  · exact (List.mem_filter.1 h).1

/-- A component with members has a root. If others point to all of them, the one with the most
neighbours is taken, and there is one. -/
theorem exists_mem_roots (ends : List (String × String)) {members : List String}
    (h : members ≠ []) : ∃ n, n ∈ roots g ends members := by
  unfold roots
  dsimp only
  split
  · cases members with
    | nil => exact absurd rfl h
    | cons first rest => exact ⟨_, by rw [mostConnected?]; exact List.mem_singleton.2 rfl⟩
  · next hne => exact List.exists_mem_of_ne_nil _ fun he => hne (List.isEmpty_iff.2 he)

/-- Inside a component names are linked by members only. -/
theorem linked_component {names : List String} {m a b : String} (hm : m ∈ names)
    (ha : a ∈ component g names m) (hab : Linked g names a b) :
    Linked g (component g names m) a b := by
  induction hab with
  | refl => exact .refl
  | @tail b c hab hstep ih =>
    have hma := ((mem_component hm).1 ha).2
    have hb : b ∈ component g names m := (mem_component hm).2 ⟨hstep.2.1, hma.trans hab⟩
    have hc : c ∈ component g names m :=
      (mem_component hm).2 ⟨hstep.2.2, (hma.trans hab).tail hstep⟩
    exact ih.tail ⟨hstep.1, hb, hc⟩

theorem mem_roots_or_without {ends : List (String × String)} {members : List String}
    (n : String) :
    n ∈ members ↔ n ∈ roots g ends members ∨ n ∈ without members (roots g ends members) := by
  rw [mem_without]
  refine ⟨fun h => ?_, fun h => h.elim mem_of_mem_roots fun h => h.1⟩
  by_cases hr : n ∈ roots g ends members
  · exact .inl hr
  · exact .inr ⟨h, hr⟩

/-- **The layers of a component hold its members**, each of which is linked with a root. This is
where it is used that a component has a root at all: without one nothing would be reached. -/
theorem mem_flatten_rawLayers (ends : List (String × String)) {names : List String}
    {m n : String} (hm : m ∈ names) :
    n ∈ (rawLayers g ends (component g names m)).flatten ↔ n ∈ component g names m := by
  rw [rawLayers, mem_flatten_reach_iff mem_roots_or_without]
  constructor
  · rintro ⟨r, hr, hrn⟩
    exact hrn.mem (mem_of_mem_roots hr)
  · intro hn
    obtain ⟨r, hr⟩ := exists_mem_roots (g := g) ends (List.ne_nil_of_mem hn)
    have hrm := mem_of_mem_roots hr
    have hrn : Linked g names r n :=
      ((mem_component hm).1 hrm).2.symm.trans ((mem_component hm).1 hn).2
    exact ⟨r, hr, linked_component hm hrm hrn⟩

theorem mem_sortLayer {before layer : List String} {n : String} :
    n ∈ sortLayer g before layer ↔ n ∈ layer := by
  rw [sortLayer, List.mem_mergeSort]

/-- Ordering layers moves no name to another layer. -/
theorem mem_flatten_sortLayers {before : List String} {ls : List (List String)} {n : String} :
    n ∈ (sortLayers g before ls).flatten ↔ n ∈ ls.flatten := by
  induction ls generalizing before with
  | nil => rfl
  | cons layer ls ih =>
    rw [sortLayers, List.flatten_cons, List.flatten_cons, List.mem_append, List.mem_append, ih,
      mem_sortLayer]

theorem mem_flatten_layers (ends : List (String × String)) {names : List String}
    {m n : String} (hm : m ∈ names) :
    n ∈ (layers g ends (component g names m)).flatten ↔ n ∈ component g names m := by
  rw [← mem_flatten_rawLayers ends hm]
  unfold layers
  split
  · next h => rw [h]
  · next h =>
    rw [h, List.flatten_cons, List.flatten_cons, List.mem_append, List.mem_append,
      mem_flatten_sortLayers]

/-! ## Places -/

variable {α : Type} [Scalar α]

theorem mem_keys_placeLayer (f : Frame α) (offset : α) (wide index : Nat) (layer : List String)
    (m : PositionMap α) (x : String) :
    x ∈ (placeLayer f offset wide index layer m).keys ↔ x ∈ m.keys ∨ x ∈ layer := by
  have hgives : layer.zipIdx.flatMap (fun b => [b.1]) = layer := by
    rw [← List.map_eq_flatMap, List.zipIdx_map_fst]
  rw [placeLayer, OrderedMap.mem_keys_foldl (fun b => [b.1]), hgives]
  intro m b x
  rw [OrderedMap.mem_keys_insert, List.mem_singleton]

theorem mem_keys_placeComponent (f : Frame α) (offset : α) (ls : List (List String))
    (m : PositionMap α) (x : String) :
    x ∈ (placeComponent f offset ls m).keys ↔ x ∈ m.keys ∨ x ∈ ls.flatten := by
  have hgives : ls.zipIdx.flatMap Prod.fst = ls.flatten := by
    rw [List.flatMap_def, List.zipIdx_map_fst]
  rw [placeComponent, OrderedMap.mem_keys_foldl Prod.fst, hgives]
  exact fun m b x => mem_keys_placeLayer f offset _ _ b.1 m x

/-- **Components get places for all of their names**, and no others. -/
theorem mem_keys_placeComponents {f : Frame α} {offset : α}
    {parts : List (List (List String))} {m : PositionMap α} {x : String} :
    x ∈ (placeComponents f offset parts m).keys
      ↔ x ∈ m.keys ∨ ∃ ls ∈ parts, x ∈ ls.flatten := by
  induction parts generalizing offset m with
  | nil => simp [placeComponents]
  | cons ls parts ih =>
    simp only [List.mem_cons, exists_eq_or_imp]
    rw [placeComponents, ih, mem_keys_placeComponent, or_assoc]

/-! ## The whole layout -/

theorem mem_ordered {names : List String} {n : String} : n ∈ ordered names ↔ n ∈ names := by
  simp [ordered]

theorem nodup_ordered (names : List String) : (ordered names).Nodup :=
  List.pairwise_reverse.2 ((nodup_eraseDups _).imp Ne.symm)

end Layered

open Layered

variable {α : Type} [Scalar α]

/-- **No layered layout leaves a name out.** If every relationship between two names joins
declared ones, all names and no others get a place. In particular the count at the end of the
layout comes out right, and the layout is there. -/
theorem exists_layered? {g : Graph} (f : Layered.Frame α) {ends : List (String × String)}
    {names : List String} (h : isClosed names ends = true) :
    ∃ m, layered? f g ends names = some m ∧ ∀ n, n ∈ m.keys ↔ n ∈ names := by
  unfold layered?
  rw [if_pos h]
  dsimp only
  generalize hm : placeComponents f (Scalar.ofNat 0) _ OrderedMap.empty = m
  have hkeys : ∀ n, n ∈ m.keys ↔ n ∈ ordered names := by
    intro n
    rw [← hm, mem_keys_placeComponents]
    constructor
    · rintro (hn | ⟨ls, hls, hn⟩)
      · cases hn
      · obtain ⟨c, hc, rfl⟩ := List.mem_map.1 hls
        obtain ⟨k, hk, _, rfl⟩ := mem_components.1 hc
        exact ((mem_component hk).1 ((mem_flatten_layers ends hk).1 hn)).1
    · intro hn
      -- it is placed with the component of the first name that it is linked with
      obtain ⟨k, hk, hc, hnk⟩ := exists_mem_components (g := g) hn
      exact .inr ⟨_, List.mem_map_of_mem hc, (mem_flatten_layers ends hk).2 hnk⟩
  -- neither list has repetitions, so that equal members give equal lengths
  have hperm : m.keys.Perm (ordered names) :=
    (List.perm_ext_iff_of_nodup m.nodup_keys (nodup_ordered names)).2 hkeys
  rw [if_pos hperm.length_eq]
  exact ⟨m, rfl, fun n => (hkeys n).trans mem_ordered⟩

end ErDiagram.Layout
