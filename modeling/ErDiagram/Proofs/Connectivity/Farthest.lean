import ErDiagram.Connectivity.Analysis
import ErDiagram.Proofs.Connectivity.Search

/-!
# Of the farthest entities, a search ends at the one that it finds last

A breadth-first search finds what can be reached, and links each entity to a neighbour that is
nearer by one. The links lead back to the start along a shortest path, whichever entity they are
followed from.

The nearer entities are found first, so that those at the greatest distance stand together at the
end of what is found. A search does not know that it has come to them, and returns the entity that
it visits last. That is one of the farthest, as it should be, but where several are equally far it
is not the first of them, and it is the others that are left out of a backbone.

So the statement has two parts. One holds of all diagrams: what is found, in which order, and that
what is returned is farthest. The other says which of the farthest it is. It is the last one in
the order of discovery, and hence the first one just if there is no other; the kite at the end is
a diagram in which there is.
-/

namespace ErDiagram.Graph

variable {g : Graph} {sources : List String} {start : String}

/-! ## Links

Each entity that is found is linked to the one that it was found from. What a link says about
distances was shown for the trace of a search, and is read off here for the list that a search
gives. -/

/-- **An entity that a search has found** is a source, or is linked to one that is nearer by one.
The trace says this of each entity when it is found, and later entities do not change it. -/
theorem Traced.link_cases {found : List Found} (h : Traced g sources found) {f : Found}
    (hf : f ∈ found) :
    (f.parent = none ∧ f.entity ∈ sources) ∨
      ∃ f' ∈ found, ∃ i, f.parent = some f'.entity ∧ g.simple.Adj f'.entity f.entity ∧
        AtDistance g.simple sources f'.entity i ∧ AtDistance g.simple sources f.entity (i + 1) := by
  induction h with
  | nil => cases hf
  | source _ hn _ ih =>
    rcases List.mem_cons.1 hf with rfl | hf
    · exact .inl ⟨rfl, hn⟩
    · exact (ih hf).imp_right fun ⟨f', hf', hlink⟩ => ⟨f', List.mem_cons_of_mem _ hf', hlink⟩
  | @step _ f' i _ _ hf' hadj hat hat' _ ih =>
    rcases List.mem_cons.1 hf with rfl | hf
    · exact .inr ⟨f', List.mem_cons_of_mem _ hf', i, rfl, hadj, hat, hat'⟩
    · exact (ih hf).imp_right fun ⟨f', hf', hlink⟩ => ⟨f', List.mem_cons_of_mem _ hf', hlink⟩

theorem Traced.nodup {found : List Found} (h : Traced g sources found) :
    (found.map (·.entity)).Nodup := by
  have hcons : ∀ {f : Found} {earlier : List Found}, (∀ f' ∈ earlier, f'.entity ≠ f.entity) →
      (earlier.map (·.entity)).Nodup → ((f :: earlier).map (·.entity)).Nodup := by
    intro f earlier hfresh hnodup
    refine List.nodup_cons.2 ⟨fun hmem => ?_, hnodup⟩
    obtain ⟨f', hf', heq⟩ := List.mem_map.1 hmem
    exact hfresh f' hf' heq
  induction h with
  | nil => exact List.nodup_nil
  | source _ _ hfresh ih => exact hcons hfresh ih
  | step _ _ _ _ _ hfresh ih => exact hcons hfresh ih

/-- **The links of a search**: only the start has none, and any other leads to an entity that is
nearer by one. -/
theorem link_cases_of_mem_search (hg : g.IsSimple) (hs : start ∈ g.names) {f : Found}
    (hf : f ∈ g.search start) :
    (f.parent = none ∧ f.entity = start) ∨
      ∃ f' ∈ g.search start, f.parent = some f'.entity ∧ g.simple.Adj f'.entity f.entity ∧
        g.simple.dist start f.entity = g.simple.dist start f'.entity + 1 := by
  rcases (traced_search hg hs).link_cases (List.mem_reverse.2 hf) with ⟨hnone, hstart⟩ | hlinked
  · exact .inl ⟨hnone, List.mem_singleton.1 hstart⟩
  · obtain ⟨f', hf', i, hparent, hadj, hat, hat'⟩ := hlinked
    refine .inr ⟨f', List.mem_reverse.1 hf', hparent, hadj, ?_⟩
    rw [(atDistance_singleton_iff.1 hat).2, (atDistance_singleton_iff.1 hat').2]

/-! ## Breadth-first searches -/

/-- **What a breadth-first search finds**, in order. The order is a part of it, since the search
returns its last item; the links are a part of it, since the path is read off them. Nothing is
said about the order among entities of the same distance, which is that of the neighbours. -/
structure IsBreadthFirst (g : Graph) (start : String) (found : List Found) : Prop where
  /-- It is what can be reached, the start included. -/
  mem_iff : ∀ n, n ∈ found.map (·.entity) ↔ g.simple.Reachable start n
  /-- Nothing is found twice. -/
  nodup : (found.map (·.entity)).Nodup
  /-- Nothing but the start is without a link, so that every way back ends there. -/
  parent_eq_none_iff : ∀ f ∈ found, f.parent = none ↔ f.entity = start
  /-- A link leads to a neighbour that has been found too and is nearer by one. -/
  of_parent_eq_some : ∀ f ∈ found, ∀ m, f.parent = some m → m ∈ found.map (·.entity) ∧
    g.simple.Adj m f.entity ∧ g.simple.dist start f.entity = g.simple.dist start m + 1
  /-- The links of an entity lead back along a shortest path. The walk goes from the start to the
  entity, and what is followed back is its support in reverse. -/
  exists_walk : ∀ f ∈ found, ∃ p : g.simple.Walk start f.entity,
    p.length = g.simple.dist start f.entity ∧ pathBack f.entity found.reverse = p.support.reverse
  /-- The nearer entities are found first. Equally distant ones may come in any order, which
  depends on the order of neighbours. -/
  pairwise_dist : found.Pairwise fun f f' =>
    g.simple.dist start f.entity ≤ g.simple.dist start f'.entity

theorem IsSimple.isBreadthFirst (hg : g.IsSimple) (hs : start ∈ g.names) :
    g.IsBreadthFirst start (g.search start) where
  mem_iff _ := List.mem_map.trans (exists_mem_search_iff hg hs)
  nodup := by
    have hnodup := (traced_search hg hs).nodup
    rwa [List.map_reverse, List.nodup_reverse] at hnodup
  parent_eq_none_iff f hf := by
    rcases link_cases_of_mem_search hg hs hf with ⟨hnone, hstart⟩ | ⟨f', _, hparent, _, hdist⟩
    · exact iff_of_true hnone hstart
    · -- what is linked is one step away at least, and the start is not
      refine iff_of_false (by rw [hparent]; exact Option.some_ne_none _) fun heq => ?_
      rw [heq, SimpleGraph.dist_self] at hdist
      cases hdist
  of_parent_eq_some f hf m hm := by
    rcases link_cases_of_mem_search hg hs hf with ⟨hnone, _⟩ | ⟨f', hf', hparent, hadj, hdist⟩
    · rw [hnone] at hm
      cases hm
    · obtain rfl : f'.entity = m := Option.some.inj (hparent.symm.trans hm)
      exact ⟨List.mem_map_of_mem hf', hadj, hdist⟩
  exists_walk f hf := by
    obtain ⟨p, hlength, hback⟩ := exists_walk_pathBack hg hs hf
    exact ⟨p, hlength, List.reverse_eq_iff.1 hback⟩
  pairwise_dist := pairwise_dist_search hg hs

/-! ## The farthest entities

Several entities may be equally far away. Which one is returned is a matter of the order in which
they are found, and this order is compared with that of their places in the list. -/

/-- The entities that a search finds, in the order of their discovery. -/
def discovered (g : Graph) (start : String) : List String :=
  (g.search start).map (·.entity)

/-- **An entity that is as far away as any** that can be reached. There may be several. -/
def IsFarthest (g : Graph) (start n : String) : Prop :=
  g.simple.Reachable start n ∧
    ∀ m, g.simple.Reachable start m → g.simple.dist start m ≤ g.simple.dist start n

theorem isFarthest_lastFound (hg : g.IsSimple) (hs : start ∈ g.names) :
    g.IsFarthest start (g.lastFound start) := by
  obtain ⟨p, -⟩ := exists_walk_farthestPath hg hs
  exact ⟨p.reachable, fun n hn => dist_le_lastFound hg hs hn⟩

/-- **The entity that is returned is found after all others.** It is the last of the list, and no
name is in the list twice. -/
theorem idxOf_discovered_le (hg : g.IsSimple) (hs : start ∈ g.names) {n : String}
    (hn : g.simple.Reachable start n) :
    (g.discovered start).idxOf n ≤ (g.discovered start).idxOf (g.lastFound start) := by
  have hsearch := hg.isBreadthFirst hs
  have hmem : n ∈ g.discovered start := (hsearch.mem_iff n).2 hn
  have hnodup : (g.discovered start).Nodup := hsearch.nodup
  obtain ⟨found, f, hsplit, hlast⟩ := exists_search_eq g start
  have horder : g.discovered start = found.map (·.entity) ++ [g.lastFound start] := by
    rw [discovered, hsplit, hlast, List.map_append]
    rfl
  rw [horder] at hmem hnodup ⊢
  exact idxOf_le_of_nodup_concat hnodup hmem

/-- **The first of the farthest entities is returned only where it is the only one**: what is
found last can be found first only if there is no other. -/
theorem forall_idxOf_lastFound_le_iff (hg : g.IsSimple) (hs : start ∈ g.names) :
    (∀ n, g.IsFarthest start n →
      (g.discovered start).idxOf (g.lastFound start) ≤ (g.discovered start).idxOf n) ↔
      ∀ n, g.IsFarthest start n → n = g.lastFound start := by
  refine forall_congr' fun n => imp_congr_right fun hn => ⟨fun hle => ?_, fun heq => heq ▸ le_rfl⟩
  have hmem : n ∈ g.discovered start := ((hg.isBreadthFirst hs).mem_iff n).2 hn.1
  exact (List.idxOf_inj hmem).1 (Nat.le_antisymm (idxOf_discovered_le hg hs hn.1) hle)

end ErDiagram.Graph

namespace ErDiagram.Diagram

/-- **A search is breadth-first and returns the last of the farthest entities**, to which the path
leads that is kept. It returns the first of them only where there is no other. -/
theorem isBreadthFirst_search (d : Diagram) {start : String} (hs : start ∈ d.analyze.graph.names) :
    let g := d.analyze.graph
    g.IsBreadthFirst start (g.search start) ∧
      (∃ p : g.simple.Walk start (g.lastFound start),
        p.length = g.simple.dist start (g.lastFound start) ∧ g.farthestPath start = p.support) ∧
      g.IsFarthest start (g.lastFound start) ∧
      (∀ n, g.IsFarthest start n →
        (g.discovered start).idxOf n ≤ (g.discovered start).idxOf (g.lastFound start)) ∧
      ((∀ n, g.IsFarthest start n →
          (g.discovered start).idxOf (g.lastFound start) ≤ (g.discovered start).idxOf n) ↔
        ∀ n, g.IsFarthest start n → n = g.lastFound start) := by
  have hg : d.analyze.graph.IsSimple := Graph.isSimple_ofDiagram d
  obtain ⟨p, hlength, hpath, -⟩ := Graph.exists_walk_farthestPath hg hs
  exact ⟨hg.isBreadthFirst hs, ⟨p, hlength, hpath⟩, Graph.isFarthest_lastFound hg hs,
    fun n hn => Graph.idxOf_discovered_le hg hs hn.1, Graph.forall_idxOf_lastFound_le_iff hg hs⟩

/-- **A kite**: a triangle of three entities, one of which is joined with a fourth. -/
def kite : Diagram where
  entities := ["A", "B", "C", "D"].map fun n => { name := n }
  relationships := [("A", "B"), ("A", "C"), ("A", "D"), ("C", "D")].map fun e =>
    { source := e.1, target := e.2, cardinality := ⟨.one, .one⟩ }

/-- From the entity outside the triangle, the other two are found last, both from the same one. -/
theorem search_kite : kite.analyze.graph.search "B"
    = [⟨"B", none⟩, ⟨"A", some "B"⟩, ⟨"C", some "A"⟩, ⟨"D", some "A"⟩] := by
  have hB : kite.analyze.graph.search "B"
      = ⟨"B", none⟩ :: kite.analyze.graph.searchFrom ["C", "D"] [⟨"A", some "B"⟩] :=
    Graph.searchFrom_cons _ _ _
  have hA : kite.analyze.graph.searchFrom ["C", "D"] [⟨"A", some "B"⟩]
      = ⟨"A", some "B"⟩ :: kite.analyze.graph.searchFrom [] [⟨"C", some "A"⟩, ⟨"D", some "A"⟩] :=
    Graph.searchFrom_cons _ _ _
  rw [hB, hA, Graph.searchFrom_nil_left]

theorem lastFound_kite : kite.analyze.graph.lastFound "B" = "D" := by
  rw [Graph.lastFound, search_kite]
  rfl

theorem discovered_kite : kite.analyze.graph.discovered "B" = ["B", "A", "C", "D"] := by
  rw [Graph.discovered, search_kite]
  rfl

/-- The one of the two that is found first is as far away as the other. -/
theorem isFarthest_kite : kite.analyze.graph.IsFarthest "B" "C" := by
  have hg : kite.analyze.graph.IsSimple := Graph.isSimple_ofDiagram kite
  have hs : "B" ∈ kite.analyze.graph.names := by decide
  have hsearch := hg.isBreadthFirst hs
  rw [search_kite] at hsearch
  obtain ⟨-, -, hC⟩ := hsearch.of_parent_eq_some ⟨"C", some "A"⟩ (by decide) "A" rfl
  obtain ⟨-, -, hD⟩ := hsearch.of_parent_eq_some ⟨"D", some "A"⟩ (by decide) "A" rfl
  refine ⟨(hsearch.mem_iff "C").1 (by decide), fun n hn => ?_⟩
  have hlast := Graph.dist_le_lastFound hg hs hn
  rw [lastFound_kite] at hlast
  exact hlast.trans (hD.trans hC.symm).le

/-- In the kite, a search from outside the triangle returns the second of two that are equally
far. -/
theorem isBreadthFirst_search_kite :
    let g := kite.analyze.graph
    "B" ∈ g.names ∧
      g.IsBreadthFirst "B" [⟨"B", none⟩, ⟨"A", some "B"⟩, ⟨"C", some "A"⟩, ⟨"D", some "A"⟩] ∧
      g.IsFarthest "B" "D" ∧ g.IsFarthest "B" "C" ∧
      (g.discovered "B").idxOf "C" ≤ (g.discovered "B").idxOf "D" ∧
      ¬ ∀ n, g.IsFarthest "B" n → (g.discovered "B").idxOf "D" ≤ (g.discovered "B").idxOf n := by
  have hs : "B" ∈ kite.analyze.graph.names := by decide
  obtain ⟨hsearch, -, hfarthest, hlast, hfirst⟩ := isBreadthFirst_search kite hs
  rw [lastFound_kite] at hfarthest hlast hfirst
  rw [search_kite] at hsearch
  refine ⟨hs, hsearch, hfarthest, isFarthest_kite, hlast "C" isFarthest_kite, ?_⟩
  exact fun h => absurd (hfirst.1 h "C" isFarthest_kite) (by decide)

/-- **Of several farthest entities the first is not returned**, and the backbone ends at another. -/
theorem not_first_lastFound :
    (kite.analyze.graph.discovered "B" = ["B", "A", "C", "D"] ∧
      kite.analyze.graph.lastFound "B" = "D" ∧
      kite.analyze.graph.backbone = ["B", "A", "D"]) ∧
      ¬ ∀ d : Diagram, ∀ start ∈ d.analyze.graph.names, ∀ n, d.analyze.graph.IsFarthest start n →
        (d.analyze.graph.discovered start).idxOf (d.analyze.graph.lastFound start)
          ≤ (d.analyze.graph.discovered start).idxOf n := by
  have hstarts : kite.analyze.graph.backboneStarts = ["B"] := by decide
  have hpath : kite.analyze.graph.farthestPath "B" = ["B", "A", "D"] := by
    rw [Graph.farthestPath, search_kite]
    decide
  have hbackbone : kite.analyze.graph.backbone = ["B", "A", "D"] := by
    rw [Graph.backbone, hstarts, List.foldl_cons, List.foldl_nil, hpath]
    rfl
  refine ⟨⟨discovered_kite, lastFound_kite, hbackbone⟩, fun h => ?_⟩
  have hle := h kite "B" (by decide) "C" isFarthest_kite
  rw [discovered_kite, lastFound_kite] at hle
  exact absurd hle (by decide)

end ErDiagram.Diagram
