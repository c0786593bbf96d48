import ErDiagram.Proofs.Layout.Order

/-!
# When the layered engine fails

The engine looks up the place of every name that is in its graph. A name that is mentioned but not
declared has none, and a name that is declared has one; this is the only look-up that can fail. A
graph library that does what its documentation says therefore makes the engine succeed exactly if
all relationships between two names join declared ones, and the layers do not depend on the order
in which the library lists components and names.

The library is a parameter, and `GraphLibrary.Documented` is all that is known about it. It says
what the answers contain and leaves open in which order, so that what is proved holds for every
library that keeps the promise. That the promise can be kept is shown by a library of our own
(`GraphLibrary.own`), which is made of the searches of the layered layout.

The proof goes along the engine. Between declared names its graph is the graph of the diagram;
sorting what the library answers gives the components and the layers in the order of the
declarations, which is the order in which `Layered.components` and `Layered.rawLayers` have them;
and the barycentres agree, although the engine looks at the ranks of all earlier layers and the
layered layout at one, since the neighbours of a name in earlier layers are all in the last of
these. Where a name is not declared, the components cannot be sorted, and nothing after that is
reached.
-/

namespace ErDiagram.Layout

open Layered

/-! ## What a graph library promises

The layers of a component can be had from a graph library. What is assumed of it is that
components and layers are right, as sets; nothing is assumed about the order in which it lists
names. -/

/-- **What a graph library promises**: it finds the components of a graph, and the layers around
some of its names. Nothing is said about orders. Layers are only promised for what the engine
asks, some names of the graph, each once: what a library does with others is left open, and an
error is as good as an answer there. -/
structure GraphLibrary.Documented (lib : GraphLibrary) : Prop where
  /-- The components are found, in some order, each with its names in some order. -/
  components : ∀ g : Graph, g.IsSimple → ∃ cs, lib.components g = some cs ∧ IsComponents g cs
  /-- The layers are found, if there are sources and they are names of the graph. For others
  nothing is documented, and nothing is assumed. -/
  bfsLayers : ∀ g : Graph, g.IsSimple → ∀ sources ⊆ g.names, sources.Nodup → sources ≠ [] →
    ∃ ls, lib.bfsLayers g sources = some ls ∧ IsLayering g.simple sources ls

namespace Engine

variable {names : List String} {ends : List (String × String)}

/-! ## The graph of the engine -/

theorem isSimple_addEnds {g : Graph} (hg : g.IsSimple) (e : String × String) :
    (addEnds g e).IsSimple := by
  unfold addEnds
  split
  · exact hg
  · exact ((hg.addName e.1).addName e.2).addEdge e.1 e.2

theorem isSimple_graph : (graph names ends).IsSimple :=
  List.foldlRecOn ends addEnds (Graph.isSimple_ofNames names) fun _ hg e _ => isSimple_addEnds hg e

theorem mem_names_addName {g : Graph} {a n : String} :
    n ∈ (g.addName a).names ↔ n ∈ g.names ∨ n = a := by
  unfold Graph.addName
  split
  · next h =>
    rw [List.contains_iff_mem] at h
    exact ⟨.inl, fun hn => hn.elim id fun hn => hn ▸ h⟩
  · rw [List.mem_append, List.mem_singleton]

theorem mem_names_addEnds {g : Graph} {e : String × String} {n : String} :
    n ∈ (addEnds g e).names ↔ n ∈ g.names ∨ (e.1 ≠ e.2 ∧ (n = e.1 ∨ n = e.2)) := by
  unfold addEnds
  split
  · next h => simp [h]
  · next h =>
    rw [Graph.names_addEdge, mem_names_addName, mem_names_addName, or_assoc, and_iff_right h]

/-- **The names of the graph** are those that are declared and those that are joined. -/
theorem mem_names_graph {n : String} :
    n ∈ (graph names ends).names ↔
      n ∈ names ∨ ∃ e ∈ ends, e.1 ≠ e.2 ∧ (n = e.1 ∨ n = e.2) := by
  unfold graph
  induction ends using List.reverseRecOn with
  | nil => simp [Graph.ofNames_eq]
  | append_singleton ends e ih =>
    rw [List.foldl_append, List.foldl_cons, List.foldl_nil, mem_names_addEnds, ih]
    simp only [List.mem_append, List.mem_singleton, or_and_right, exists_or, exists_eq_left,
      or_assoc]

theorem isClosed_iff :
    isClosed names ends = true ↔ ∀ e ∈ ends, e.1 ≠ e.2 → e.1 ∈ names ∧ e.2 ∈ names := by
  simp only [isClosed, List.all_eq_true, Bool.or_eq_true, beq_iff_eq, Bool.and_eq_true,
    List.contains_iff_mem, ← or_iff_not_imp_left]

theorem addEnds_eq_addEdge {g : Graph} {e : String × String}
    (h : e.1 ≠ e.2 → e.1 ∈ g.names ∧ e.2 ∈ g.names) : addEnds g e = g.addEdge e.1 e.2 := by
  unfold addEnds
  split
  · next heq => simp [Graph.addEdge, heq]
  · next hne =>
    have hdeclared : ∀ n ∈ g.names, g.addName n = g := fun n hn => by
      rw [Graph.addName, if_pos (List.contains_iff_mem.2 hn)]
    rw [hdeclared _ (h hne).1, hdeclared _ (h hne).2]

/-- Names that are there already are not added, so that the fold which makes the graph is then one
over edges. -/
theorem foldl_addEnds {g : Graph}
    (h : ∀ e ∈ ends, e.1 ≠ e.2 → e.1 ∈ g.names ∧ e.2 ∈ g.names) :
    ends.foldl addEnds g = ends.foldl (fun g e => g.addEdge e.1 e.2) g := by
  induction ends generalizing g with
  | nil => rfl
  | cons e ends ih =>
    obtain ⟨he, hends⟩ := List.forall_mem_cons.1 h
    rw [List.foldl_cons, List.foldl_cons, addEnds_eq_addEdge he]
    exact ih (by simpa using hends)

/-- **Between declared names** the graph of the engine is the graph of which entities are
joined. -/
theorem graph_eq_ofDiagram {d : Diagram} (h : isClosed d.entityNames d.ends = true) :
    graph d.entityNames d.ends = Graph.ofDiagram d := by
  rw [isClosed_iff] at h
  rw [graph, foldl_addEnds, Diagram.ends, List.foldl_map]
  · rfl
  · simpa [Graph.ofNames_eq] using h

/-! ## The layers of a component

The engine sorts what the library gives, and layers by distance are determined by an order inside
of each. So the library is no longer seen in the result. -/

variable {g : Graph} {sources : List String}

/-- Equal comparisons on what is sorted give equal results. The two ways to compute a barycentre
agree on the names of a layer and not on all names, so that the comparisons cannot be proved equal
as functions. -/
theorem mergeSort_congr {le le' : String → String → Bool} {l : List String}
    (h : ∀ a ∈ l, ∀ b ∈ l, le a b = le' a b) : l.mergeSort le = l.mergeSort le' := by
  simpa using List.map_mergeSort (f := id) h

/-- **Of the layers before, only the last one counts** for the order of a layer. The names before
have smaller distances and so smaller indices, and a neighbour of a name is at most one nearer
than the name itself; the ranks of all earlier layers add nothing. The induction is on the layers
that are left, with the earlier ones as an accumulator. -/
theorem sweep_eq_sortLayers (hg : g.IsSimple) {i : ℕ} {earlier : List (String × ℕ)}
    {before : List String} {ls : List (List String)}
    (hearlier : ∀ e ∈ earlier, ∃ j < i, AtDistance g.simple sources e.1 j)
    (hbefore : ∀ n ∈ before, AtDistance g.simple sources n i)
    (hls : ∀ k n, InLayer ls k n → AtDistance g.simple sources n (i + 1 + k)) :
    sweep g (earlier ++ before.zipIdx) ls = sortLayers g before ls := by
  induction ls generalizing i earlier before with
  | nil => rfl
  | cons layer ls ih =>
    have hlayer : ∀ n ∈ layer, AtDistance g.simple sources n (i + 1) := fun n hn =>
      hls 0 n (inLayer_cons_zero.2 hn)
    -- a neighbour in an earlier layer would be too near
    have hcentre : ∀ n ∈ layer,
        Engine.barycentre g (earlier ++ before.zipIdx) n = Layered.barycentre g before n := by
      intro n hn
      have hnone :
          (earlier.filterMap fun e => if g.adjacent n e.1 then some e.2 else none) = [] := by
        refine List.filterMap_eq_nil_iff.2 fun e he => if_neg fun hadj => ?_
        obtain ⟨j, hj, hat⟩ := hearlier e he
        have hle := hat.le_add_one (hlayer n hn) ((adjacent_iff_adj hg).1 hadj).symm
        omega
      rw [Engine.barycentre, List.filterMap_append, hnone, List.nil_append]
      rfl
    have hsort : (layer.mergeSort fun a b =>
        meanLe (Engine.barycentre g (earlier ++ before.zipIdx) a)
          (Engine.barycentre g (earlier ++ before.zipIdx) b)) = sortLayer g before layer :=
      mergeSort_congr fun a ha b hb => by rw [hcentre a ha, hcentre b hb]
    rw [sweep, sortLayers, hsort]
    refine congrArg _ (ih (i := i + 1) ?_ ?_ ?_)
    · intro e he
      rcases List.mem_append.1 he with he | he
      · obtain ⟨j, hj, hat⟩ := hearlier e he
        exact ⟨j, Nat.lt_succ_of_lt hj, hat⟩
      · exact ⟨i, Nat.lt_succ_self i, hbefore e.1 (List.fst_mem_of_mem_zipIdx he)⟩
    · exact fun n hn => hlayer n (mem_sortLayer.1 hn)
    · intro k n hn
      have hat := hls (k + 1) n (inLayer_cons_succ.2 hn)
      rwa [Nat.add_comm k 1, ← Nat.add_assoc] at hat

theorem roots_sublist (g : Graph) (ends : List (String × String)) (members : List String) :
    (roots g ends members).Sublist members := by
  unfold roots
  dsimp only
  split
  · cases h : mostConnected? g members with
    | none => exact List.nil_sublist _
    | some n => exact List.singleton_sublist.2 (mem_of_mostConnected? h)
  · exact List.filter_sublist

/-- **A component has its layers by distance from its roots.** -/
theorem isLayering_rawLayers (ends : List (String × String)) (hg : g.IsSimple)
    (hnames : ∀ n, n ∈ g.names ↔ n ∈ names) {n : String} (hn : n ∈ names) :
    IsLayering g.simple (roots g ends (component g (ordered names) n))
      (rawLayers g ends (component g (ordered names) n)) := by
  have hmem : ∀ {m}, m ∈ component g (ordered names) n ↔ g.simple.Reachable n m :=
    mem_component_iff_reachable hg (fun k hk => mem_ordered.2 ((hnames k).1 hk)) (mem_ordered.2 hn)
  have hnodup := (nodup_ordered names).sublist (component_sublist (g := g) _ n)
  have hsub := roots_sublist g ends (component g (ordered names) n)
  obtain ⟨r, hr⟩ := exists_mem_roots (g := g) ends (List.ne_nil_of_mem (hmem.2 (.refl n)))
  refine isLayering_reach hg hnodup (hnodup.sublist hsub) (List.ne_nil_of_mem hr)
    fun s hs m hsm => ?_
  exact hmem.2 ((hmem.1 (hsub.subset hs)).trans hsm)

/-- The layers of the library, each in order, are those that are found by going on from the
roots. -/
theorem map_inOrder_eq_rawLayers (hg : g.IsSimple) (hnames : ∀ n, n ∈ g.names ↔ n ∈ names)
    {n : String} (hn : n ∈ names) {ls : List (List String)}
    (hls : IsLayering g.simple (roots g ends (component g (ordered names) n)) ls) :
    (∀ l ∈ ls, l ⊆ names) ∧
      ls.map (inOrder names) = rawLayers g ends (component g (ordered names) n) := by
  have hraw := isLayering_rawLayers ends hg hnames hn
  have hdeclared : ∀ l ∈ ls, l ⊆ names := fun l hl m hm => by
    have hflat := hraw.mem_flatten.2 (hls.mem_flatten.1 (List.mem_flatten_of_mem hl hm))
    exact mem_ordered.1
      ((component_sublist _ n).subset ((mem_flatten_rawLayers ends (mem_ordered.2 hn)).1 hflat))
  have hsorted : (component g (ordered names) n).Pairwise fun a b => rank names a < rank names b :=
    (pairwise_ordered names).sublist (component_sublist _ n)
  refine ⟨hdeclared, IsLayering.eq_of_sorted (f := rank names) ⟨?_, ?_, fun i m => ?_⟩ hraw ?_ ?_⟩
  · exact List.forall_mem_map.2 fun l _ => (nodup_ordered names).filter _
  · refine List.forall_mem_map.2 fun l hl => ?_
    obtain ⟨m, hm⟩ := List.exists_mem_of_ne_nil l (hls.ne_nil l hl)
    exact List.ne_nil_of_mem ((mem_inOrder (hdeclared l hl)).2 hm)
  · rw [← hls.inLayer_iff i m, InLayer, InLayer, List.getElem?_map]
    constructor
    · rintro ⟨_, hl, hm⟩
      obtain ⟨l, hli, rfl⟩ := Option.map_eq_some_iff.1 hl
      exact ⟨l, hli, (mem_inOrder (hdeclared l (List.mem_of_getElem? hli))).1 hm⟩
    · rintro ⟨l, hl, hm⟩
      exact ⟨inOrder names l, by rw [hl]; rfl,
        (mem_inOrder (hdeclared l (List.mem_of_getElem? hl))).2 hm⟩
  · exact List.forall_mem_map.2 fun l _ => pairwise_inOrder names l
  · exact fun l hl => hsorted.sublist
      (sublist_of_mem_reach (roots_sublist g ends _) List.filter_sublist l hl)

/-- Ordering the layers by the ranks of all earlier ones is ordering each by the one before. -/
theorem exists_rawLayers_eq_cons (ends : List (String × String)) (hg : g.IsSimple)
    (hnames : ∀ n, n ∈ g.names ↔ n ∈ names) {n : String} (hn : n ∈ names) :
    ∃ top rest, rawLayers g ends (component g (ordered names) n) = top :: rest ∧
      layers g ends (component g (ordered names) n) = top :: sweep g top.zipIdx rest := by
  have hraw := isLayering_rawLayers ends hg hnames hn
  have hself := (mem_flatten_rawLayers (g := g) ends (mem_ordered.2 hn)).2
    ((mem_component (mem_ordered.2 hn)).2 ⟨mem_ordered.2 hn, .refl⟩)
  cases htop : rawLayers g ends (component g (ordered names) n) with
  | nil =>
    rw [htop] at hself
    cases hself
  | cons top rest =>
    rw [htop] at hraw
    have htopAt := fun m hm => (hraw.inLayer_iff 0 m).1 (inLayer_cons_zero.2 hm)
    have hrestAt : ∀ k m, InLayer rest k m → AtDistance g.simple _ m (0 + 1 + k) := fun k m hm => by
      rw [Nat.zero_add, Nat.add_comm]
      exact (hraw.inLayer_iff (k + 1) m).1 (inLayer_cons_succ.2 hm)
    have hsweep : sweep g ([] ++ top.zipIdx) rest = sortLayers g top rest :=
      sweep_eq_sortLayers hg nofun htopAt hrestAt
    rw [List.nil_append] at hsweep
    exact ⟨top, rest, rfl, by rw [layers, htop, hsweep]⟩

/-- **A component gets its layers**, whatever the orders are in which the library lists names. The
orders are put right by sorting, and the sort has different keys for different names. -/
theorem componentLayers_eq_ok {lib : GraphLibrary} (hlib : lib.Documented) (hg : g.IsSimple)
    (hnames : ∀ n, n ∈ g.names ↔ n ∈ names) {cs : List (List String)} (hcs : IsComponents g cs)
    {c : List String} (hc : c ∈ cs) :
    componentLayers lib g ends (order names) c = .ok (layers g ends (inOrder names c)) := by
  obtain ⟨n, hnc, _⟩ := hcs.connected c hc
  have hsub : c ⊆ names := fun m hm => (hnames m).1 ((hcs.mem_names_iff m).2 ⟨c, hc, hm⟩)
  have hn := hsub hnc
  have hroots := roots_sublist g ends (component g (ordered names) n)
  obtain ⟨r, hr⟩ := exists_mem_roots (g := g) ends
    (List.ne_nil_of_mem ((mem_component (mem_ordered.2 hn)).2 ⟨mem_ordered.2 hn, .refl⟩))
  obtain ⟨ls, hfound, hls⟩ := hlib.bfsLayers g hg (roots g ends (component g (ordered names) n))
    (fun m hm => (hnames m).2 (mem_ordered.1 ((component_sublist _ n).subset (hroots.subset hm))))
    (((nodup_ordered names).sublist (component_sublist _ n)).sublist hroots) (List.ne_nil_of_mem hr)
  obtain ⟨hdeclared, hmap⟩ := map_inOrder_eq_rawLayers hg hnames hn hls
  obtain ⟨top, rest, htop, hlayers⟩ := exists_rawLayers_eq_cons ends hg hnames hn
  have hsorted : ls.mapM (sortBy (place (order names))) = .ok (top :: rest) := by
    rw [← htop, ← hmap]
    exact Except.mapM_eq_ok fun l hl => sortBy_place (hls.nodup l hl) (hdeclared l hl)
  rw [componentLayers, sortBy_place (hcs.nodup c hc) hsub,
    inOrder_eq_component hg hnames hcs hc hnc, hlayers]
  simp only [hfound, ask, hsorted, bind, Except.bind]
  rfl

/-! ## When the engine succeeds -/

variable {lib : GraphLibrary}

/-- The names of the graph are the declared ones if all ends are. -/
theorem mem_names_graph_of_isClosed (h : isClosed names ends = true) {n : String} :
    n ∈ (graph names ends).names ↔ n ∈ names := by
  rw [mem_names_graph, or_iff_left_iff_imp]
  rintro ⟨e, he, hne, hn⟩
  obtain ⟨h₁, h₂⟩ := isClosed_iff.1 h e he hne
  rcases hn with rfl | rfl
  · exact h₁
  · exact h₂

/-- **Between declared names the layers are found**, and do not depend on the library. -/
theorem parts_eq_ok (hlib : lib.Documented) (h : isClosed names ends = true) :
    parts lib ends names = .ok ((components (graph names ends) (ordered names) (ordered names)).map
      (layers (graph names ends) ends)) := by
  have hnames := fun n => mem_names_graph_of_isClosed (n := n) h
  obtain ⟨cs, hfound, hcs⟩ := hlib.components (graph names ends) isSimple_graph
  obtain ⟨cs', hsort, hperm, hmap⟩ := exists_sortBy_leastPlace isSimple_graph hnames hcs
  have hlayers : cs'.mapM (componentLayers lib (graph names ends) ends (order names))
      = .ok (cs'.map fun c => layers (graph names ends) ends (inOrder names c)) :=
    Except.mapM_eq_ok fun c hc =>
      componentLayers_eq_ok hlib isSimple_graph hnames hcs (hperm.mem_iff.1 hc)
  simp only [parts, hfound, ask, bind, Except.bind, hsort, hlayers, ← hmap, List.map_map]
  rfl

/-- **A name that is joined but not declared has no place**, so that the components cannot be
sorted. Which name the error is about depends on the order in which the library lists components,
and is not said. -/
theorem exists_parts_eq_error (hlib : lib.Documented) (h : ¬ isClosed names ends = true) :
    ∃ e, parts lib ends names = .error e := by
  obtain ⟨n, hn, hnot⟩ : ∃ n ∈ (graph names ends).names, n ∉ names := by
    by_contra hall
    push Not at hall
    refine h (isClosed_iff.2 fun e he hne => ⟨hall _ ?_, hall _ ?_⟩) <;>
      exact mem_names_graph.2 (.inr ⟨e, he, hne, by simp⟩)
  obtain ⟨cs, hfound, hcs⟩ := hlib.components (graph names ends) isSimple_graph
  obtain ⟨c, hc, hnc⟩ := (hcs.mem_names_iff n).1 hn
  obtain ⟨e, he⟩ := Except.exists_mapM_eq_error hnc (place_of_notMem hnot)
  have hleast : leastPlace (order names) c = .error e := by
    rw [leastPlace, he]
    rfl
  obtain ⟨e, he⟩ := exists_sortBy_eq_error hc hleast
  refine ⟨e, ?_⟩
  simp only [parts, hfound, ask, bind, Except.bind, he]

end Engine

/-! ## A graph library of our own

Assumptions about a library are worth little if none can meet them. The searches that are defined
here already are such a library. -/

/-- **The searches of the layered layout** as a graph library. It shows that
`GraphLibrary.Documented` can be kept, and it is what the examples are computed with. -/
def GraphLibrary.own : GraphLibrary where
  components g := some (Layered.components g g.names g.names)
  bfsLayers g sources := some (reach g (without g.names sources) sources)

theorem GraphLibrary.own_documented : GraphLibrary.own.Documented where
  components g hg := by
    refine ⟨_, rfl, ?_, disjoint_components hg.nodup_names (List.Subset.refl _), ?_, fun n => ?_⟩
    · intro c hc
      obtain ⟨n, _, _, rfl⟩ := mem_components.1 hc
      exact hg.nodup_names.sublist (component_sublist _ n)
    · intro c hc
      obtain ⟨n, hn, hhead, rfl⟩ := mem_components.1 hc
      exact ⟨n, List.mem_of_head? hhead,
        fun m => mem_component_iff_reachable hg (List.Subset.refl _) hn⟩
    · constructor
      · intro hn
        obtain ⟨m, _, hc, hnm⟩ := exists_mem_components (g := g) hn
        exact ⟨_, hc, hnm⟩
      · rintro ⟨c, hc, hnc⟩
        obtain ⟨m, _, _, rfl⟩ := mem_components.1 hc
        exact (component_sublist _ m).subset hnc
  bfsLayers g hg sources hsources hnodup hne :=
    ⟨_, rfl, isLayering_reach hg hg.nodup_names hnodup hne fun _ hs _ hreach =>
      hg.mem_names_of_reachable (hsources hs) hreach⟩

/-! ## The fallback

The grid stands in where the engine fails, and it fails only where a relationship between two
names has an end that is not declared. -/

section Fallback

variable {α : Type} [Scalar α] {lib : GraphLibrary} {names : List String}
  {ends : List (String × String)}

/-- **The engine places all names between declared ends**, as the layered layout does. The two
maps are equal, so that what is proved of the one holds of the other. -/
theorem exists_engine_eq_ok (hlib : lib.Documented) (f : Layered.Frame α)
    (h : isClosed names ends = true) :
    ∃ m, engine lib f ends names = .ok m ∧
      layered? f (Engine.graph names ends) ends names = some m ∧ ∀ n, n ∈ m.keys ↔ n ∈ names := by
  obtain ⟨m, hm, hkeys⟩ := exists_layered? (g := Engine.graph names ends) f h
  refine ⟨m, ?_, hm, hkeys⟩
  rw [engine, Engine.parts_eq_ok hlib h, Engine.keys_order]
  unfold layered? at hm
  rw [if_pos h] at hm
  dsimp only at hm
  have hlength : (ordered names).length = names.eraseDups.length := by
    rw [ordered, List.length_reverse]
    exact length_eraseDups_congr fun n => List.mem_reverse
  rw [hlength] at hm
  split at hm
  · next hsize =>
    cases hm
    exact if_pos hsize
  · cases hm

theorem exists_engine_eq_error (hlib : lib.Documented) (f : Layered.Frame α)
    (h : ¬ isClosed names ends = true) : ∃ e, engine lib f ends names = .error e := by
  obtain ⟨e, he⟩ := Engine.exists_parts_eq_error hlib h
  exact ⟨e, by rw [engine, he]; rfl⟩

end Fallback

end ErDiagram.Layout

namespace ErDiagram.Diagram

open Layout

variable {lib : GraphLibrary}

theorem isClosed_ends_iff {d : Diagram} :
    Layered.isClosed d.entityNames d.ends = true ↔
      ∀ r ∈ d.relationships, r.source ≠ r.target →
        r.source ∈ d.entityNames ∧ r.target ∈ d.entityNames := by
  rw [Engine.isClosed_iff, ends, List.forall_mem_map]

/-- **The layered layout falls back to a grid exactly where it must.** If a relationship between
two names mentions one that is not declared, the engine fails and the layout is the grid; if none
does, the engine succeeds and places all names, and this is the layout.

In both cases the layout with a library is the one that runs without any. For the second case this
needs the graph of the analysis to be that of the diagram, since the layered layout reads the
analysis where the engine builds a graph of its own. -/
theorem layeredBy_eq_grid_or_engine (hlib : lib.Documented) (d : Diagram) (hd : d.entities ≠ [])
    (a : Analysis) (s : Settings) :
    ((∃ r ∈ d.relationships, r.source ≠ r.target ∧
        (r.source ∉ d.entityNames ∨ r.target ∉ d.entityNames)) →
      (∃ e, engine lib (s.layerFrame a.pattern) d.ends d.entityNames = .error e) ∧
      layeredBy lib a d.ends d.entityNames s
        = grid s.gridFrame (columnsFor d.entityNames.length) a.graph d.entityNames ∧
      raw .layered a d.ends d.entityNames s = raw .grid a d.ends d.entityNames s) ∧
    ((¬ ∃ r ∈ d.relationships, r.source ≠ r.target ∧
        (r.source ∉ d.entityNames ∨ r.target ∉ d.entityNames)) →
      ∃ m, engine lib (s.layerFrame a.pattern) d.ends d.entityNames = .ok m ∧
        layeredBy lib a d.ends d.entityNames s = m ∧ m.keys.Perm d.entityNames.eraseDups ∧
        (a.graph = Graph.ofDiagram d →
          raw .layered a d.ends d.entityNames s = .ok (.ofPositions m))) := by
  have hnames : ¬ d.entityNames.isEmpty = true := by
    simpa [entityNames] using hd
  have hclosed : (¬ ∃ r ∈ d.relationships, r.source ≠ r.target ∧
      (r.source ∉ d.entityNames ∨ r.target ∉ d.entityNames)) ↔
        Layered.isClosed d.entityNames d.ends = true := by
    rw [isClosed_ends_iff]
    push Not
    rfl
  constructor
  · intro hopen
    have hopen : ¬ Layered.isClosed d.entityNames d.ends = true := fun h => hclosed.2 h hopen
    obtain ⟨e, he⟩ := exists_engine_eq_error hlib (s.layerFrame a.pattern) hopen
    refine ⟨⟨e, he⟩, by rw [layeredBy, if_neg hnames, he], ?_⟩
    rw [raw, raw, layeredOrGrid, layered?, if_neg hopen]
  · intro h
    have h := hclosed.1 h
    obtain ⟨m, hm, hlayered, hkeys⟩ := exists_engine_eq_ok hlib (s.layerFrame a.pattern) h
    refine ⟨m, hm, by rw [layeredBy, if_neg hnames, hm], ?_, fun ha => ?_⟩
    · exact (List.perm_ext_iff_of_nodup m.nodup_keys (nodup_eraseDups _)).2 fun n =>
        (hkeys n).trans List.mem_eraseDups.symm
    · rw [Engine.graph_eq_ofDiagram h, ← ha] at hlayered
      rw [raw, if_neg hnames, layeredOrGrid, hlayered]

/-- A diagram with a relationship to a name that is not declared. -/
def dangling : Diagram where
  entities := [{ name := "A" }, { name := "B" }]
  relationships := [{ source := "A", target := "X", cardinality := ⟨.one, .one⟩ }]

/-- A diagram with a name that is declared twice, relationships in a circle, a relationship of an
entity with itself, and two components. -/
def tangled : Diagram where
  entities := [{ name := "A" }, { name := "B" }, { name := "A" }, { name := "C" }]
  relationships :=
    [{ source := "A", target := "B", cardinality := ⟨.one, .one⟩ },
      { source := "B", target := "A", cardinality := ⟨.one, .one⟩ },
      { source := "C", target := "C", cardinality := ⟨.one, .one⟩ }]

theorem layeredBy_eq_grid_or_engine_samples :
    (∃ e, engine .own (({} : Settings).layerFrame dangling.analyze.pattern) dangling.ends
      dangling.entityNames = .error e) ∧
    ∃ m, engine .own (({} : Settings).layerFrame tangled.analyze.pattern) tangled.ends
      tangled.entityNames = .ok m ∧ m.keys.Perm ["A", "B", "C"] := by
  constructor
  · exact ((layeredBy_eq_grid_or_engine GraphLibrary.own_documented dangling (by decide)
      dangling.analyze {}).1 (by decide)).1
  · obtain ⟨m, hm, _, hkeys, _⟩ := (layeredBy_eq_grid_or_engine GraphLibrary.own_documented tangled
      (by decide) tangled.analyze {}).2 (by decide)
    exact ⟨m, hm, hkeys⟩

end ErDiagram.Diagram
