import ErDiagram.Connectivity.Adjacency
import ErDiagram.Proofs.Connectivity.Degrees
import ErDiagram.Proofs.OrderedMap

/-!
# A numbered graph says what the list of pairs says

The graph of a diagram is built in two ways, as a list of pairs of names and with numbers, a table
of the numbers and lists of neighbours. `Represents` is the relation between the two: the table has
the places of the names, the lists of neighbours are those of the pairs, and so are the edges. It is
an equation for each part, which leaves no freedom: a list of pairs has one numbered graph.

The relation holds of the graphs without entities, and it is kept by each of the two steps that
build them. For a name this is immediate, since no edges are there yet that could have to be
renumbered. For a relationship the point is that both sides pass over it for the same reasons. On
the one side the question is whether two names are the same and whether their pair is in the list,
on the other whether two numbers are and whether their edge is in the set, and the answers agree
because different names have different places.

What is known of the graph by names then holds of the numbers (`Exact`): the lists of neighbours,
each of which is written on its own, are symmetric, and they agree with the set of edges.
-/

namespace ErDiagram

/-- **Changing one place of a list that lists a function.** The places of a list without repetitions
are told apart by what stands there, so that the change is one of the function. What is not in the
list has the place behind it, where there is nothing to change. -/
theorem modify_idxOf_map {α β : Type} [DecidableEq α] {l : List α} (hl : l.Nodup) (x : α)
    (f : α → β) (change : β → β) :
    (l.map f).modify (l.idxOf x) change = l.map fun y => if y = x then change (f y) else f y := by
  refine List.ext_getElem? fun i => ?_
  rw [List.getElem?_modify, List.getElem?_map, List.getElem?_map]
  cases hi : l[i]? with
  | none => rfl
  | some y =>
    have hplace : l.idxOf x = i ↔ y = x := by
      obtain ⟨hlt, rfl⟩ := List.getElem?_eq_some_iff.1 hi
      rw [← List.idxOf_inj (List.getElem_mem hlt), hl.idxOf_getElem i hlt, eq_comm]
    simp only [Option.map_some, Option.map_eq_map, hplace]

namespace Adjacency

variable {a : Adjacency} {g : Graph}

/-- **A numbered graph that says what a list of pairs says.** Each field determines one part of
the numbered graph, so that the relation is a function from lists of pairs: a step on the one side
and the same step on the other can be compared part by part, and no invariant of the numbered
graph has to be carried beside it. -/
structure Represents (a : Adjacency) (g : Graph) : Prop where
  /-- Both have the same names in the same order. -/
  names : a.names = g.names
  /-- The table gives each name its place, and nothing else a number. So it can be asked whether a
  name is known, and not only where it is. -/
  index : ∀ n i, a.index.get? n = some i ↔ n ∈ g.names ∧ g.index n = i
  /-- The lists of neighbours are those of the names, by their places. There they are a function
  of the edges, and here they are kept along with them. -/
  neighbours : a.neighbours = g.names.map fun n => (g.neighbours n).map g.index
  /-- The edges are the pairs, by their places. -/
  edges : a.edges = g.edges.map fun e => g.placesOf e.1 e.2

/-! ## Names

While names are numbered there are no edges, so that only the table and the list of names have to
agree. A name that has a number already is left alone on both sides. -/

theorem Represents.contains_iff (h : a.Represents g) {n : String} :
    a.index.contains n = true ↔ n ∈ g.names := by
  rw [OrderedMap.contains_iff_mem_keys]
  constructor
  · intro hn
    obtain ⟨i, hi⟩ := OrderedMap.exists_get?_of_mem_keys hn
    exact ((h.index n i).1 hi).1
  · exact fun hn => OrderedMap.mem_keys_of_get?_eq_some ((h.index n _).2 ⟨hn, rfl⟩)

/-- **Numbering a name** adds it to the names, as long as nothing is joined. The numbers of the
other names stay, since a new name comes last. -/
theorem Represents.number (h : a.Represents g) (hnone : g.edges = []) (name : String) :
    (a.number name).Represents (g.addName name) := by
  unfold Adjacency.number Graph.addName
  by_cases hname : name ∈ g.names
  · rw [if_pos (h.contains_iff.2 hname), if_pos (List.contains_iff_mem.2 hname)]
    exact h
  rw [if_neg (mt h.contains_iff.1 hname), if_neg (mt List.contains_iff_mem.1 hname)]
  refine ⟨by rw [h.names], fun n i => ?_, ?_, by rw [h.edges, hnone]; rfl⟩
  · -- the new name has the number behind all others
    show (a.index.insert name a.names.length).get? n = some i
      ↔ n ∈ g.names ++ [name] ∧ (g.names ++ [name]).idxOf n = i
    rw [OrderedMap.get?_insert, List.mem_append, List.mem_singleton, h.names]
    by_cases hn : n = name
    · subst hn
      simp [List.idxOf_append_of_notMem hname]
    · rw [if_neg hn, h.index n i, or_iff_left hn]
      exact and_congr_right fun hmem => by rw [List.idxOf_append_of_mem hmem]; rfl
  · simp [h.neighbours, Graph.neighbours, hnone]

/-! ## Relationships

A relationship changes two lists of neighbours and the list of edges. On the other side it is one
pair at the end of a list, from which the neighbours of its ends are computed anew. -/

/-- The neighbours of an entity when one more pair is joined: the new one comes last, at each of
the two ends. The numbered graph appends to two of its lists for this. -/
theorem neighbours_concat (g : Graph) (s t n : String) :
    ({ g with edges := g.edges ++ [(s, t)] } : Graph).neighbours n
      = g.neighbours n ++ (Graph.otherEnd? n (s, t)).toList := by
  unfold Graph.neighbours
  rw [List.filterMap_append]
  cases h : Graph.otherEnd? n (s, t) <;> simp [h]

/-- **Two lists of neighbours are changed**, one for each end, and these are the ones in which the
new pair makes a difference. The ends have to be different: a list that is changed twice would
have its own number in it. -/
theorem modify_neighbours (hg : g.names.Nodup) {s t : String} (hne : s ≠ t) :
    ((g.names.map fun n => (g.neighbours n).map g.index).modify (g.index s)
        (· ++ [g.index t])).modify (g.index t) (· ++ [g.index s])
      = g.names.map fun n =>
          (({ g with edges := g.edges ++ [(s, t)] } : Graph).neighbours n).map g.index := by
  rw [Graph.index, modify_idxOf_map hg, Graph.index, modify_idxOf_map hg]
  refine List.map_congr_left fun n _ => ?_
  rw [neighbours_concat]
  by_cases hns : n = s
  · subst hns
    simp [Graph.otherEnd?, hne, Graph.index]
  by_cases hnt : n = t
  · subst hnt
    simp [Graph.otherEnd?, hns, Ne.symm hns, Graph.index]
  · simp [Graph.otherEnd?, hns, hnt, Ne.symm hns, Ne.symm hnt]

/-- **A relationship is passed over for the same reasons.** Its ends are declared here; if one is
not, neither side comes to ask. -/
theorem Represents.passesOver_iff (h : a.Represents g) {s t : String} (hs : s ∈ g.names)
    (ht : t ∈ g.names) :
    (g.index s == g.index t || a.edges.contains (g.placesOf s t)) = true ↔
      s = t ∨ g.adjacent s t = true := by
  have hsame : g.index s = g.index t ↔ s = t := List.idxOf_inj hs
  have hknown : g.placesOf s t ∈ a.edges ↔ g.adjacent s t = true := by
    rw [h.edges, Graph.adjacent_iff_mem_pairs, Graph.pairs, List.mem_map, List.mem_map]
    refine exists_congr fun e => and_congr_right fun _ => ?_
    rw [eq_comm, Graph.placesOf_eq_iff hs ht, eq_comm]
  rw [Bool.or_eq_true, beq_iff_eq, List.contains_iff_mem, hsame, hknown]

/-- **Linking the numbers of two names** makes the names adjacent. The two numbers are those of
the names in a list without repetitions, so that no other names are affected. -/
theorem Represents.link (h : a.Represents g) (hg : g.names.Nodup) {s t : String} (hs : s ∈ g.names)
    (ht : t ∈ g.names) : (a.link (g.index s) (g.index t)).Represents (g.addEdge s t) := by
  have hpasses := h.passesOver_iff hs ht
  unfold Graph.placesOf at hpasses
  unfold Adjacency.link Graph.addEdge
  dsimp only
  by_cases hold : s = t ∨ g.adjacent s t = true
  · -- both sides pass over the relationship
    rw [if_pos (hpasses.2 hold), if_neg]
    · exact h
    · rcases hold with rfl | hadjacent
      · simp
      · simp [hadjacent]
  · obtain ⟨hne, hfresh⟩ := not_or.1 hold
    rw [if_neg (mt hpasses.1 hold), if_pos]
    · refine ⟨h.names, h.index, ?_, ?_⟩
      · refine Eq.trans ?_ (modify_neighbours hg hne)
        rw [← h.neighbours]
      · show a.edges ++ _ = (g.edges ++ [(s, t)]).map _
        rw [h.edges, List.map_append]
        rfl
    · simp [hs, ht, hne, hfresh]

/-- **A relationship is read alike.** A name without a number is not declared, and then neither side
takes the relationship. -/
theorem Represents.join (h : a.Represents g) (hg : g.names.Nodup) (s t : String) :
    (a.join s t).Represents (g.addEdge s t) := by
  have hmissing : ∀ n, a.index.get? n = none → n ∉ g.names := fun n hn hmem => by
    rw [(h.index n _).2 ⟨hmem, rfl⟩] at hn
    cases hn
  have hskipped : ¬ (s ∈ g.names ∧ t ∈ g.names) → g.addEdge s t = g := fun hnot => by
    unfold Graph.addEdge
    refine if_neg fun hall => hnot ?_
    simp only [Bool.and_eq_true, List.contains_iff_mem] at hall
    exact hall.1.1
  unfold Adjacency.join
  cases hi : a.index.get? s with
  | none =>
    rw [hskipped fun hboth => hmissing s hi hboth.1]
    exact h
  | some i =>
    cases hj : a.index.get? t with
    | none =>
      rw [hskipped fun hboth => hmissing t hj hboth.2]
      exact h
    | some j =>
      obtain ⟨hs, rfl⟩ := (h.index s i).1 hi
      obtain ⟨ht, rfl⟩ := (h.index t j).1 hj
      exact h.link hg hs ht

/-! ## Diagrams -/

/-- The entities of a diagram are numbered as they are listed. -/
theorem represents_ofNames (names : List String) :
    (names.foldl number {}).Represents (Graph.ofNames names) := by
  induction names using List.reverseRecOn with
  | nil =>
    refine ⟨rfl, fun n i => ?_, rfl, rfl⟩
    exact iff_of_false nofun fun h => List.not_mem_nil h.1
  | append_singleton names name ih =>
    have hnone : (Graph.ofNames names).edges = [] := by rw [Graph.ofNames_eq]
    rw [List.foldl_append, Graph.ofNames, List.foldl_append]
    exact ih.number hnone name

theorem Represents.foldl_join (h : a.Represents g) (hg : g.names.Nodup)
    (rels : List Relationship) :
    (rels.foldl (fun a r => a.join r.source r.target) a).Represents
      (rels.foldl (fun g r => g.addEdge r.source r.target) g) := by
  induction rels generalizing a g with
  | nil => exact h
  | cons r rels ih => exact ih (h.join hg _ _) (by rwa [Graph.names_addEdge])

/-- **The two graphs of a diagram say the same**, whatever its entities and relationships are. The
names come first, by induction on their list, and then the relationships, by induction on theirs;
the step lemmas carry the relation through both folds. -/
theorem represents_ofDiagram (d : Diagram) :
    (Adjacency.ofDiagram d).Represents (Graph.ofDiagram d) := by
  refine (represents_ofNames d.entityNames).foldl_join ?_ d.relationships
  rw [Graph.ofNames_eq]
  exact nodup_eraseDups _

/-! ## What the numbers say

The correspondence is a means. What is wanted of the numbered graph is said here without the graph
it corresponds to, in terms of the diagram. -/

/-- **The neighbours of a number** are the numbers of the neighbours of its name. Both are put as
numbers that have names, and not as places of names, so that the two ends look the same. -/
theorem Represents.mem_neighboursOf (h : a.Represents g) (hg : g.IsSimple) {i j : ℕ} :
    j ∈ a.neighboursOf i ↔
      ∃ m n, g.names[i]? = some m ∧ g.names[j]? = some n ∧ n ∈ g.neighbours m := by
  have hplaces : j ∈ a.neighboursOf i ↔
      ∃ m n, g.names[i]? = some m ∧ n ∈ g.neighbours m ∧ g.index n = j := by
    rw [neighboursOf, h.neighbours, List.getElem?_map]
    cases g.names[i]? with
    | none => simp
    | some m => simp
  rw [hplaces]
  refine exists_congr fun m => exists_congr fun n => and_congr_right fun _ => ?_
  rw [Graph.getElem?_names_iff hg]
  exact ⟨fun ⟨hn, hj⟩ => ⟨⟨hg.declared m hn, hj⟩, hn⟩, fun ⟨⟨_, hj⟩, hn⟩ => ⟨hn, hj⟩⟩

/-- No neighbour is listed twice, since different neighbours of a name have different places. -/
theorem Represents.nodup_neighboursOf (h : a.Represents g) (hg : g.IsSimple) (i : ℕ) :
    (a.neighboursOf i).Nodup := by
  rw [neighboursOf, h.neighbours, List.getElem?_map]
  cases g.names[i]? with
  | none => exact List.nodup_nil
  | some m =>
    refine (hg.nodup_neighbours m).map_on fun x hx y _ hxy => ?_
    exact (List.idxOf_inj (hg.declared m hx)).1 hxy

/-- The edges are those of the graph by names, which lists them in increasing order. -/
theorem Represents.edges_perm (h : a.Represents g) : a.edges.Perm g.indexedEdges := by
  rw [h.edges]
  exact (Graph.indexedEdges_perm g).symm

/-- **Numbers are neighbours if they are an edge**, the lesser one first. What is no number of a
name is excluded on the right, where a pair of places could be written for it all the same. -/
theorem Represents.mem_edges_iff (h : a.Represents g) (hg : g.IsSimple) {i j : ℕ} :
    j ∈ a.neighboursOf i ↔
      (min i j, max i j) ∈ a.edges ∧ i < a.names.length ∧ j < a.names.length := by
  -- for two numbers of names, an edge is a pair of places
  have hpair : ∀ m n, g.names[i]? = some m → g.names[j]? = some n →
      ((min i j, max i j) ∈ a.edges ↔ n ∈ g.neighbours m) := fun m n hm hn => by
    obtain ⟨-, rfl⟩ := (Graph.getElem?_names_iff hg).1 hm
    obtain ⟨-, rfl⟩ := (Graph.getElem?_names_iff hg).1 hn
    rw [h.edges_perm.mem_iff]
    exact Graph.placesOf_mem_indexedEdges_iff hg
  rw [h.mem_neighboursOf hg, h.names]
  constructor
  · rintro ⟨m, n, hm, hn, hnm⟩
    exact ⟨(hpair m n hm hn).2 hnm, (List.getElem?_eq_some_iff.1 hm).1,
      (List.getElem?_eq_some_iff.1 hn).1⟩
  · rintro ⟨hedge, hi, hj⟩
    have hm := List.getElem?_eq_getElem hi
    have hn := List.getElem?_eq_getElem hj
    exact ⟨_, _, hm, hn, (hpair _ _ hm hn).1 hedge⟩

/-- **Every edge is in two of the lists of neighbours**, as it is for the names: a list of
neighbours is as long as the one of the name. -/
theorem Represents.sum_length (h : a.Represents g) (hg : g.IsSimple) :
    (a.neighbours.map List.length).sum = 2 * a.edges.length := by
  rw [h.edges_perm.length_eq, ← Graph.sum_degree hg, h.neighbours, List.map_map]
  refine congrArg List.sum (List.map_congr_left fun n _ => ?_)
  exact List.length_map _

/-- **A numbered graph whose parts agree with each other and with a diagram.** Each part is written
on its own while the graph is built, and each of them is stated here in terms of another one or of
the relationships, so that none can be wrong alone. -/
structure Exact (a : Adjacency) (d : Diagram) : Prop where
  /-- The table of numbers is the inverse of the list of names, in both directions: no name has
  two numbers, and no number two names. -/
  index : ∀ n i, a.index.get? n = some i ↔ a.names[i]? = some n
  /-- There is a list of neighbours for each number. -/
  length_neighbours : a.neighbours.length = a.names.length
  /-- The neighbours of a number are the numbers of the partners of its name. Both numbers have
  names, so that nothing stands in a list that is no number at all. -/
  mem_neighboursOf : ∀ i j, j ∈ a.neighboursOf i ↔
    ∃ m n, a.names[i]? = some m ∧ a.names[j]? = some n ∧ n ∈ d.partners m
  /-- The two ends of an edge have each other as neighbours, though the two lists are changed one
  after the other. -/
  neighboursOf_comm : ∀ i j, j ∈ a.neighboursOf i ↔ i ∈ a.neighboursOf j
  /-- No number is its own neighbour. -/
  loopless : ∀ i, i ∉ a.neighboursOf i
  /-- No neighbour is listed twice. -/
  nodup_neighboursOf : ∀ i, (a.neighboursOf i).Nodup
  /-- The edges are the pairs of neighbours, the lesser number first. That both are numbers of
  names has to be said for the direction from right to left. -/
  mem_edges : ∀ i j, j ∈ a.neighboursOf i ↔
    (min i j, max i j) ∈ a.edges ∧ i < a.names.length ∧ j < a.names.length
  /-- No edge is there twice. -/
  nodup_edges : a.edges.Nodup
  /-- Every edge is counted at both of its ends. -/
  sum_length : (a.neighbours.map List.length).sum = 2 * a.edges.length

/-- **The numbered graph of a diagram is exact.** It is carried over from the graph by the
correspondence, and is not proved again. -/
theorem exact_ofDiagram (d : Diagram) : (Adjacency.ofDiagram d).Exact d := by
  have h := represents_ofDiagram d
  have hg := Graph.isSimple_ofDiagram d
  refine
    { index := fun n i => by rw [h.index, h.names, Graph.getElem?_names_iff hg]
      length_neighbours := by rw [h.neighbours, h.names, List.length_map]
      mem_neighboursOf := fun i j => ?_
      neighboursOf_comm := fun i j => ?_
      loopless := fun i hi => ?_
      nodup_neighboursOf := h.nodup_neighboursOf hg
      mem_edges := fun i j => h.mem_edges_iff hg
      nodup_edges := h.edges_perm.nodup_iff.2 (Graph.nodup_indexedEdges hg)
      sum_length := h.sum_length hg }
  · simp only [h.mem_neighboursOf hg, h.names, Graph.mem_neighbours_ofDiagram]
  · rw [h.mem_neighboursOf hg, h.mem_neighboursOf hg]
    constructor <;>
      exact fun ⟨m, n, hm, hn, hnm⟩ => ⟨n, m, hn, hm, Graph.mem_neighbours_comm.1 hnm⟩
  · obtain ⟨m, n, hm, hn, hnm⟩ := (h.mem_neighboursOf hg).1 hi
    cases hm.symm.trans hn
    exact hg.loopless m hnm

end Adjacency

end ErDiagram
