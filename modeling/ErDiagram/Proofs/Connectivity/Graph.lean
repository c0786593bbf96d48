import ErDiagram.Connectivity.Structure
import ErDiagram.Proofs.FirstOccurrences
import Mathlib.Data.Finset.Dedup
import Mathlib.Data.Sym.Sym2

/-!
# The graph of a diagram, by its unordered pairs

A graph lists each pair of adjacent entities in one of its two directions. Read as unordered pairs
the list says all there is: the neighbours of an entity are the other ends of the pairs it is in.
The pairs of the graph of a diagram are those that the relationships join, each once, so that the
graph has no loops, and all that is adjacent is declared.

Unordered pairs (`Sym2`) take the direction out of the proofs. Whether an edge is there is a
membership instead of two comparisons, and that two graphs have the same edges is a permutation
whatever the directions are in which relationships were drawn. `Diagram.joinedPairs` is the same
for a diagram, as a finite set, in which repetitions do not count either.
-/

namespace ErDiagram

namespace Graph

/-- **The unordered pairs of adjacent entities.** -/
def pairs (g : Graph) : List (Sym2 String) := g.edges.map fun e => s(e.1, e.2)

theorem length_pairs (g : Graph) : g.pairs.length = g.edges.length := List.length_map _

theorem adjacent_iff_mem_pairs {g : Graph} {a b : String} :
    g.adjacent a b = true ↔ s(a, b) ∈ g.pairs := by
  rw [adjacent, List.any_eq_true, pairs, List.mem_map]
  refine exists_congr fun e => and_congr_right fun _ => ?_
  obtain ⟨x, y⟩ := e
  rw [Bool.or_eq_true, beq_iff_eq, beq_iff_eq, Prod.mk.injEq, Prod.mk.injEq, Sym2.eq_iff]

theorem adjacent_comm (g : Graph) (a b : String) : g.adjacent a b = g.adjacent b a := by
  rw [Bool.eq_iff_iff, adjacent_iff_mem_pairs, adjacent_iff_mem_pairs, Sym2.eq_swap]

/-! ## Neighbours

An edge is a pair in some direction, and its direction counts for nothing. So edges are taken as
unordered pairs, and neighbours are the other ends of the pairs that an entity is in. -/

/-- **The neighbours of an entity are the other ends of its pairs**, in the order of the
pairs. -/
theorem map_neighbours (g : Graph) (n : String) :
    (g.neighbours n).map (fun m => s(n, m)) = g.pairs.filter fun p => decide (n ∈ p) := by
  unfold neighbours pairs
  induction g.edges with
  | nil => rfl
  | cons e edges ih =>
    obtain ⟨a, b⟩ := e
    rw [List.filterMap_cons, List.map_cons]
    by_cases ha : a = n
    · rw [List.filter_cons_of_pos (by simp [ha]), ← ih]
      simp [otherEnd?, ha]
    by_cases hb : b = n
    · rw [List.filter_cons_of_pos (by simp [hb]), ← ih]
      simp [otherEnd?, ha, hb, Sym2.eq_swap]
    · have hnot : n ∉ s(a, b) := by
        rw [Sym2.mem_iff, not_or]
        exact ⟨Ne.symm ha, Ne.symm hb⟩
      rw [List.filter_cons_of_neg (by simpa using hnot), ← ih]
      simp [otherEnd?, ha, hb]

theorem pair_injective (n : String) : Function.Injective fun m => s(n, m) :=
  fun _ _ h => Sym2.congr_right.1 h

/-- **Neighbours are what is adjacent.** Pairs are unordered, whereas an edge is kept in the
direction in which it was read. -/
theorem mem_neighbours {g : Graph} {n m : String} :
    m ∈ g.neighbours n ↔ s(n, m) ∈ g.pairs := by
  rw [← List.mem_map_of_injective (pair_injective n), map_neighbours, List.mem_filter,
    decide_eq_true_eq]
  exact and_iff_left (Sym2.mem_mk_left n m)

/-- The same pairs in another order give the same neighbours in another order. -/
theorem neighbours_perm {g h : Graph} (hp : g.pairs.Perm h.pairs) (n : String) :
    (g.neighbours n).Perm (h.neighbours n) := by
  rw [← List.map_perm_map_iff (pair_injective n), map_neighbours, map_neighbours]
  exact hp.filter _

/-- Whether both ends of a pair are among some entities. -/
def within (members : List String) : Sym2 String → Bool :=
  Sym2.lift ⟨fun a b => members.contains a && members.contains b, fun _ _ => Bool.and_comm _ _⟩

/-- The edges inside a set of entities are the pairs with both ends in it. -/
theorem innerEdges_eq_countP (g : Graph) (members : List String) :
    g.innerEdges members = g.pairs.countP (within members) := by
  rw [pairs, List.countP_map, List.countP_eq_length_filter]
  rfl

/-! ## The graph of a diagram

A graph is built by adding names and then pairs. One lemma says what a pair adds, and one says
what all of them do, from any graph on; the graph of a diagram is the case in which there was
nothing but names. -/

@[simp] theorem names_addEdge (g : Graph) (a b : String) : (g.addEdge a b).names = g.names := by
  unfold addEdge
  split <;> rfl

/-- Whether two names are the ends of an edge that a graph can have. -/
def Joinable (g : Graph) (a b : String) : Prop := a ∈ g.names ∧ b ∈ g.names ∧ a ≠ b

/-- **One relationship adds its pair**, unless it is there or cannot be. It cannot be if an end is
not declared or if both ends are the same. -/
theorem pairs_addEdge (g : Graph) (a b : String) :
    (g.Joinable a b ∧ s(a, b) ∉ g.pairs ∧ (g.addEdge a b).pairs = g.pairs ++ [s(a, b)]) ∨
      (¬ (g.Joinable a b ∧ s(a, b) ∉ g.pairs) ∧ (g.addEdge a b).pairs = g.pairs) := by
  have hcond : (g.names.contains a && g.names.contains b && a != b && !g.adjacent a b) = true
      ↔ g.Joinable a b ∧ s(a, b) ∉ g.pairs := by
    rw [← adjacent_iff_mem_pairs, Joinable]
    simp [and_assoc]
  unfold addEdge
  split
  · next h =>
    obtain ⟨hj, hp⟩ := hcond.1 h
    exact .inl ⟨hj, hp, List.map_append⟩
  · next h => exact .inr ⟨fun hj => h (hcond.2 hj), rfl⟩

theorem mem_pairs_addEdge {g : Graph} {a b : String} {p : Sym2 String} :
    p ∈ (g.addEdge a b).pairs ↔ p ∈ g.pairs ∨ (g.Joinable a b ∧ p = s(a, b)) := by
  rcases pairs_addEdge g a b with ⟨hj, _, h⟩ | ⟨hnot, h⟩
  · rw [h, List.mem_append, List.mem_singleton, and_iff_right hj]
  · rw [h]
    refine ⟨.inl, fun hp => hp.elim id fun hp => ?_⟩
    obtain ⟨hj, rfl⟩ := hp
    by_contra hmem
    exact hnot ⟨hj, hmem⟩

theorem nodup_pairs_addEdge {g : Graph} (hg : g.pairs.Nodup) (a b : String) :
    (g.addEdge a b).pairs.Nodup := by
  rcases pairs_addEdge g a b with ⟨_, hp, h⟩ | ⟨_, h⟩
  · rw [h]
    exact List.nodup_append.2 ⟨hg, List.nodup_singleton _, fun p hmem q hq => by
      rw [List.mem_singleton.1 hq]
      rintro rfl
      exact hp hmem⟩
  · rw [h]
    exact hg

/-- **What a run of relationships adds.** The names stay, no pair comes twice, and a pair is there
in the end if it was there before or a relationship has brought it. -/
theorem foldl_addEdge (rels : List Relationship) (g : Graph) :
    let h := rels.foldl (fun g r => g.addEdge r.source r.target) g
    h.names = g.names ∧ (g.pairs.Nodup → h.pairs.Nodup) ∧
      ∀ p, p ∈ h.pairs ↔
        p ∈ g.pairs ∨ ∃ r ∈ rels, g.Joinable r.source r.target ∧ p = s(r.source, r.target) := by
  induction rels generalizing g with
  | nil => simp
  | cons r rels ih =>
    obtain ⟨hnames, hnodup, hmem⟩ := ih (g.addEdge r.source r.target)
    refine ⟨hnames.trans (names_addEdge g _ _), fun hg => hnodup (nodup_pairs_addEdge hg _ _),
      fun p => ?_⟩
    rw [List.foldl_cons, hmem, mem_pairs_addEdge]
    simp only [Joinable, names_addEdge, List.mem_cons, exists_eq_or_imp, or_assoc]

/-- Names are listed once, in the order of their first declarations. -/
theorem ofNames_eq (names : List String) : ofNames names = ⟨names.eraseDups, []⟩ := by
  induction names using List.reverseRecOn with
  | nil => rfl
  | append_singleton names a ih =>
    rw [ofNames, List.foldl_append, ← ofNames, ih, List.foldl_cons, List.foldl_nil, addName,
      eraseDups_concat]
    by_cases h : a ∈ names <;> simp [h]

end Graph

namespace Diagram

/-- **The unordered pairs of different declared entities that a relationship joins.** It is a
set that can be computed, so that two given diagrams can be shown to have the same one by
deciding it. -/
def joinedPairs (d : Diagram) : Finset (Sym2 String) :=
  ((d.relationships.filter fun r =>
    d.entityNames.contains r.source && d.entityNames.contains r.target && r.joins).map
      fun r => s(r.source, r.target)).toFinset

theorem mem_joinedPairs {d : Diagram} {p : Sym2 String} :
    p ∈ d.joinedPairs ↔ ∃ r ∈ d.relationships,
      (r.source ∈ d.entityNames ∧ r.target ∈ d.entityNames ∧ r.source ≠ r.target) ∧
        p = s(r.source, r.target) := by
  simp only [joinedPairs, List.mem_toFinset, List.mem_map, List.mem_filter, Bool.and_eq_true,
    List.contains_iff_mem, Relationship.joins, bne_iff_ne, and_assoc, @eq_comm _ p]

end Diagram

namespace Graph

variable (d : Diagram)

theorem names_ofDiagram : (ofDiagram d).names = d.entityNames.eraseDups := by
  rw [ofDiagram, (foldl_addEdge d.relationships _).1, ofNames_eq]

theorem mem_names_ofDiagram {n : String} : n ∈ (ofDiagram d).names ↔ n ∈ d.entityNames := by
  rw [names_ofDiagram, List.mem_eraseDups]

theorem nodup_names_ofDiagram : (ofDiagram d).names.Nodup := by
  rw [names_ofDiagram]
  exact nodup_eraseDups _

/-- **The pairs of the graph are those that the relationships join.** The ends have to be
declared, and to be different. -/
theorem mem_pairs_ofDiagram {p : Sym2 String} :
    p ∈ (ofDiagram d).pairs ↔ p ∈ d.joinedPairs := by
  rw [ofDiagram, (foldl_addEdge d.relationships _).2.2, ofNames_eq, Diagram.mem_joinedPairs]
  simp [pairs, Joinable]

/-- **No pair is listed twice.** -/
theorem nodup_pairs_ofDiagram : (ofDiagram d).pairs.Nodup := by
  rw [ofDiagram]
  refine (foldl_addEdge d.relationships _).2.1 ?_
  rw [ofNames_eq]
  exact List.nodup_nil

/-- Neighbours are declared. -/
theorem mem_names_of_mem_neighbours {n m : String} (h : m ∈ (ofDiagram d).neighbours n) :
    m ∈ (ofDiagram d).names := by
  rw [mem_neighbours, mem_pairs_ofDiagram, Diagram.mem_joinedPairs] at h
  obtain ⟨r, _, ⟨hs, ht, _⟩, h⟩ := h
  rw [mem_names_ofDiagram]
  rcases Sym2.eq_iff.1 h with ⟨_, rfl⟩ | ⟨_, rfl⟩
  · exact ht
  · exact hs

end Graph

end ErDiagram
