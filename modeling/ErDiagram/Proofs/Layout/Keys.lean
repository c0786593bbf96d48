import ErDiagram.Layout.Placement
import ErDiagram.Proofs.Connectivity.Declared
import ErDiagram.Proofs.Layout.Layered
import ErDiagram.Proofs.Layout.Missing
import ErDiagram.Proofs.Refinement.Keys

/-!
# A layout places exactly the entities

Every strategy places what the analysis has found, and the analysis finds only declared entities,
so that nothing else gets a place. What a strategy has left out is filled in at the end. Hence the
entities of a diagram and the keys of its layout are the same names, each of which is a key once,
whichever strategy places them and however the diagram repeats names or refers to names that it
does not declare.

So for each strategy only one direction has to be proved, that its steps add no name that is not
declared. The other one is the same for all, since the last step asks for every declared name.
Both are stated for a computation that has a result, and for maps that may have keys without a
point; whether there is a result is the subject of `ErDiagram.Proofs.Layout.Finite`.

What the analysis finds is assumed to be declared (`Analysis.Within`) rather than computed, so
that the lemmas about the strategies do not depend on how hubs, chains and clusters are found.
-/

namespace ErDiagram.Layout

variable {names : List String}

/-! ## The radial strategy

The strategy has six steps, and each goes through a list of hubs, chains, clusters or entities.
All of these are named by the analysis, so that no step leaves the declared names. -/

namespace Radial

variable {o : Measures} {g : Graph} {minDistance : Float}

theorem keys_placeHubs_subset {count index : Nat} {hubs : List Hub} {m m' : PositionMap Float}
    (h : placeHubs o minDistance count index hubs m = .ok m') (hm : m.keys ⊆ names)
    (hhubs : ∀ h ∈ hubs, h.entity ∈ names) : m'.keys ⊆ names := by
  induction hubs generalizing index m with
  | nil =>
    cases h
    exact hm
  | cons hub rest ih =>
    obtain ⟨hhub, hrest⟩ := List.forall_mem_cons.1 hhubs
    rw [placeHubs] at h
    obtain ⟨p, _, h⟩ := Except.bind_eq_ok.1 h
    exact ih h (OrderedMap.keys_insert_subset hm hhub p) hrest

theorem keys_placeAllHubs_subset {hubs : List Hub} {m : PositionMap Float}
    (h : placeAllHubs o minDistance hubs = .ok m) (hhubs : ∀ h ∈ hubs, h.entity ∈ names) :
    m.keys ⊆ names := by
  cases hubs with
  | nil =>
    cases h
    exact List.nil_subset names
  | cons first rest =>
    obtain ⟨hfirst, hrest⟩ := List.forall_mem_cons.1 hhubs
    exact keys_placeHubs_subset h
      (OrderedMap.keys_insert_subset (List.nil_subset names) hfirst o.centre) hrest

theorem keys_placeOutward_subset {origin : Point Float} {angle : Float} {step : Nat}
    {entities : List String} {m m' : PositionMap Float}
    (h : placeOutward o origin angle step entities m = .ok m') (hm : m.keys ⊆ names)
    (he : entities ⊆ names) : m'.keys ⊆ names := by
  induction entities generalizing step m with
  | nil =>
    cases h
    exact hm
  | cons name rest ih =>
    obtain ⟨hname, hrest⟩ := List.cons_subset.1 he
    rw [placeOutward] at h
    split at h
    · exact ih h hm hrest
    · obtain ⟨p, _, h⟩ := Except.bind_eq_ok.1 h
      exact ih h (OrderedMap.keys_insert_subset hm hname p) hrest

/-- The chains that hang on hubs are placed, and the others given back. A later step places these,
so that they have to be followed as well. -/
theorem keys_placeChains_subset {hubs : List String} {index : Nat} {chains free : List Chain}
    {m m' : PositionMap Float} (h : placeChains o g hubs index chains m = .ok (m', free))
    (hm : m.keys ⊆ names) (hc : ∀ c ∈ chains, c.entities ⊆ names) :
    m'.keys ⊆ names ∧ ∀ c ∈ free, c.entities ⊆ names := by
  induction chains generalizing index m m' free with
  | nil =>
    cases h
    exact ⟨hm, hc⟩
  | cons c rest ih =>
    obtain ⟨hhead, hrest⟩ := List.forall_mem_cons.1 hc
    rw [placeChains] at h
    split at h
    · obtain ⟨⟨m₁, free₁⟩, hrec, h⟩ := Except.bind_eq_ok.1 h
      cases h
      obtain ⟨hkeys, hfree⟩ := ih hrec hm hrest
      exact ⟨hkeys, List.forall_mem_cons.2 ⟨hhead, hfree⟩⟩
    · obtain ⟨m₁, hout, h⟩ := Except.bind_eq_ok.1 h
      exact ih h (keys_placeOutward_subset hout hm hhead) hrest

theorem keys_placeInRow_subset {y : Float} {step : Nat} {entities : List String}
    {m : PositionMap Float} (hm : m.keys ⊆ names) (he : entities ⊆ names) :
    (placeInRow o y step entities m).keys ⊆ names := by
  induction entities generalizing step m with
  | nil => exact hm
  | cons name rest ih =>
    obtain ⟨hname, hrest⟩ := List.cons_subset.1 he
    rw [placeInRow]
    split
    · exact ih hm hrest
    · exact ih (OrderedMap.keys_insert_subset hm hname _) hrest

theorem keys_placeFreeChains_subset {rowHeight : Float} {chains : List Chain}
    {m : PositionMap Float} (hm : m.keys ⊆ names) (hc : ∀ c ∈ chains, c.entities ⊆ names) :
    (placeFreeChains o rowHeight chains m).keys ⊆ names :=
  OrderedMap.keys_foldl_subset hm fun _ hm e he =>
    keys_placeInRow_subset hm (hc e.1 (List.fst_mem_of_mem_zipIdx he))

theorem keys_placeAround_subset {centre : Point Float} {radius : Float}
    {places : List (String × Float)} {m m' : PositionMap Float}
    (h : placeAround centre radius places m = .ok m') (hm : m.keys ⊆ names)
    (hp : ∀ e ∈ places, e.1 ∈ names) : m'.keys ⊆ names := by
  induction places generalizing m with
  | nil =>
    cases h
    exact hm
  | cons e rest ih =>
    obtain ⟨hname, hrest⟩ := List.forall_mem_cons.1 hp
    rw [placeAround] at h
    obtain ⟨p, _, h⟩ := Except.bind_eq_ok.1 h
    exact ih h (OrderedMap.keys_insert_subset hm hname p) hrest

theorem keys_placeSatellites_subset {first : Bool} {hub : Hub} {m m' : PositionMap Float}
    (h : placeSatellites o g first hub m = .ok m') (hm : m.keys ⊆ names)
    (hn : hub.neighbours ⊆ names) : m'.keys ⊆ names := by
  unfold placeSatellites at h
  split at h
  · cases h
    exact hm
  dsimp only at h
  split at h
  · cases h
    exact hm
  · obtain ⟨angles, _, h⟩ := Except.bind_eq_ok.1 h
    -- satellites are neighbours
    exact keys_placeAround_subset h hm fun e he =>
      hn (List.mem_filter.1 (List.of_mem_zip he).1).1

theorem keys_placeAllSatellites_subset {main : Option String} {hubs : List Hub}
    {m m' : PositionMap Float} (h : placeAllSatellites o g main hubs m = .ok m')
    (hm : m.keys ⊆ names) (hn : ∀ h ∈ hubs, h.neighbours ⊆ names) : m'.keys ⊆ names := by
  induction hubs generalizing m with
  | nil =>
    cases h
    exact hm
  | cons hub rest ih =>
    obtain ⟨hhub, hrest⟩ := List.forall_mem_cons.1 hn
    rw [placeAllSatellites] at h
    obtain ⟨m₁, hm₁, h⟩ := Except.bind_eq_ok.1 h
    exact ih h (keys_placeSatellites_subset hm₁ hm hhub) hrest

theorem keys_placeClusters_subset {index : Nat} {clusters : List Cluster}
    {m m' : PositionMap Float} (h : placeClusters o minDistance index clusters m = .ok m')
    (hm : m.keys ⊆ names) (hc : ∀ c ∈ clusters, c.entities ⊆ names) : m'.keys ⊆ names := by
  induction clusters generalizing index m with
  | nil =>
    cases h
    exact hm
  | cons c rest ih =>
    obtain ⟨hhead, hrest⟩ := List.forall_mem_cons.1 hc
    rw [placeClusters] at h
    split at h
    · exact ih h hm hrest
    · obtain ⟨m₁, hm₁, h⟩ := Except.bind_eq_ok.1 h
      have hplaced : m₁.keys ⊆ names :=
        keys_placeAround_subset hm₁ hm fun e he => hhead (List.of_mem_zip he).1
      exact ih h hplaced hrest

theorem keys_placeInSquare_subset {columns index : Nat} {entities : List String}
    {m m' : PositionMap Float} (h : placeInSquare o columns index entities m = .ok m')
    (hm : m.keys ⊆ names) (he : entities ⊆ names) : m'.keys ⊆ names := by
  induction entities generalizing index m with
  | nil =>
    cases h
    exact hm
  | cons name rest ih =>
    obtain ⟨hname, hrest⟩ := List.cons_subset.1 he
    rw [placeInSquare] at h
    obtain ⟨p, _, h⟩ := Except.bind_eq_ok.1 h
    exact ih h (OrderedMap.keys_insert_subset hm hname p) hrest

theorem keys_placeIsolated_subset {isolated : List String} {m m' : PositionMap Float}
    (h : placeIsolated o isolated m = .ok m') (hm : m.keys ⊆ names) (hi : isolated ⊆ names) :
    m'.keys ⊆ names :=
  keys_placeInSquare_subset h hm fun _ hn => hi (List.mem_filter.1 hn).1

end Radial

/-- **A radial layout has the declared names.** Each step stays within them, and what they leave
out is filled in. -/
theorem mem_keys_radial {a : Analysis} (ha : a.Within names) {s : Settings} {m : SpotMap}
    (h : radial a names s = .ok m) (n : String) : n ∈ m.keys ↔ n ∈ names := by
  unfold radial at h
  dsimp only at h
  obtain ⟨m₁, h₁, h⟩ := Except.bind_eq_ok.1 h
  obtain ⟨⟨m₂, free⟩, h₂, h⟩ := Except.bind_eq_ok.1 h
  obtain ⟨m₃, h₃, h⟩ := Except.bind_eq_ok.1 h
  obtain ⟨m₄, h₄, h⟩ := Except.bind_eq_ok.1 h
  obtain ⟨m₅, h₅, h⟩ := Except.bind_eq_ok.1 h
  have hk₁ := Radial.keys_placeAllHubs_subset h₁ ha.hubs
  obtain ⟨hk₂, hfree⟩ := Radial.keys_placeChains_subset h₂ hk₁ ha.chains
  have hk₃ := Radial.keys_placeAllSatellites_subset h₃ hk₂ ha.hubNeighbours
  have hk₄ := Radial.keys_placeClusters_subset h₄
    (Radial.keys_placeFreeChains_subset hk₃ hfree) ha.clusters
  have hk₅ := Radial.keys_placeIsolated_subset h₅ hk₄ ha.isolated
  rw [mem_keys_fillMissing h, SpotMap.keys_ofPositions]
  exact or_iff_right_of_imp fun hn => hk₅ hn

/-! ## The chain strategy -/

namespace Chain

variable {g : Graph}

theorem keys_addBranches_subset {anchor : Point Float} {branch : Nat} {starts : List String}
    {m : PositionMap Float} (hg : g.names ⊆ names) (hm : m.keys ⊆ names) (hs : starts ⊆ names) :
    (addBranches g anchor branch starts m).keys ⊆ names := by
  induction starts generalizing branch m with
  | nil => exact hm
  | cons first rest ih =>
    obtain ⟨hfirst, hrest⟩ := List.cons_subset.1 hs
    rw [addBranches]
    split
    · exact ih hm hrest
    · refine ih ?_ hrest
      refine OrderedMap.keys_foldl_subset hm fun m' hm' e he =>
        OrderedMap.keys_insert_subset hm' ?_ _
      -- a branch goes on to names of the graph
      rcases List.mem_cons.1 (List.fst_mem_of_mem_zipIdx he) with hname | hname
      · exact hname ▸ hfirst
      · exact hg (List.mem_filter.1 (Graph.grow_subset _ _ _ hname)).1

theorem keys_addAllBranches_subset (backbone : List String) {m : PositionMap Float}
    (hg : g.names ⊆ names) (hn : ∀ n, g.neighbours n ⊆ names) (hm : m.keys ⊆ names) :
    (addAllBranches g backbone m).keys ⊆ names := by
  refine OrderedMap.keys_foldl_subset hm fun m' hm' name _ => ?_
  split
  · exact keys_addBranches_subset hg hm' (hn name)
  · exact hm'

theorem keys_addRemainder_subset (backbone : List String) (rowHeight : Float)
    {m : PositionMap Float} (hm : m.keys ⊆ names) :
    (addRemainder names backbone rowHeight m).keys ⊆ names :=
  OrderedMap.keys_foldl_subset hm fun _ hm _ he =>
    OrderedMap.keys_insert_subset hm (List.mem_filter.1 (List.fst_mem_of_mem_zipIdx he)).1 _

theorem map_fst_backbonePlaces (backbone : List String) :
    (backbonePlaces backbone).map Prod.fst = backbone := by
  unfold backbonePlaces
  rw [List.map_map]
  exact List.zipIdx_map_fst 0 backbone

end Chain

/-- **A layout along the backbone has the declared names.** -/
theorem mem_keys_chain {g : Graph} (hg : g.names ⊆ names) (hn : ∀ n, g.neighbours n ⊆ names)
    {rowHeight : Float} {random : Twister} {m : SpotMap}
    (h : chain g names rowHeight random = .ok m) (n : String) : n ∈ m.keys ↔ n ∈ names := by
  have hbackbone :
      (OrderedMap.ofList (Chain.backbonePlaces g.backbone)).keys ⊆ names := fun x hx => by
    rw [OrderedMap.mem_keys_ofList, Chain.map_fst_backbonePlaces] at hx
    exact hg (Graph.backbone_subset g hx)
  have hkeys := Chain.keys_addRemainder_subset g.backbone rowHeight
    (Chain.keys_addAllBranches_subset g.backbone hg hn hbackbone)
  rw [mem_keys_fillMissing h, SpotMap.keys_ofPositions]
  exact or_iff_right_of_imp fun hn => hkeys hn

/-! ## The other strategies -/

theorem Force.keys_snapAll_subset {places : List (String × Point Float)}
    {m m' : PositionMap Float} (h : Force.snapAll places m = .ok m') (hm : m.keys ⊆ names)
    (hp : ∀ e ∈ places, e.1 ∈ names) : m'.keys ⊆ names := by
  induction places generalizing m with
  | nil =>
    cases h
    exact hm
  | cons e rest ih =>
    obtain ⟨hname, hrest⟩ := List.forall_mem_cons.1 hp
    rw [Force.snapAll] at h
    obtain ⟨p, _, h⟩ := Except.bind_eq_ok.1 h
    exact ih h (OrderedMap.keys_insert_subset hm hname p) hrest

/-- **A layout by forces has the declared names.** All entities are placed before anything moves,
and moving keeps the keys. -/
theorem mem_keys_force {g : Graph} {s : Settings} {m : SpotMap}
    (h : force g names s = .ok m) (n : String) : n ∈ m.keys ↔ n ∈ names := by
  unfold force at h
  split at h
  · cases h
    rfl
  · next name =>
    cases h
    rw [OrderedMap.mem_keys_insert, List.mem_singleton]
    exact or_iff_right List.not_mem_nil
  · dsimp only at h
    obtain ⟨ps, _, h⟩ := Except.bind_eq_ok.1 h
    obtain ⟨m₁, hsnap, h⟩ := Except.bind_eq_ok.1 h
    have hkeys : m₁.keys ⊆ names := Force.keys_snapAll_subset hsnap (List.nil_subset names)
      fun e he => (List.of_mem_zip he).1
    rw [mem_keys_fillMissing h, SpotMap.keys_ofPositions]
    exact or_iff_right_of_imp fun hn => hkeys hn

/-- **A grid has the declared names.** Every name has a cell, and nothing else has. -/
theorem mem_keys_grid (f : Frame Float) (columns : Int) (g : Graph) (names : List String)
    (n : String) : n ∈ (grid f columns g names).keys ↔ n ∈ names := by
  unfold grid
  rw [OrderedMap.mem_keys_ofList, List.map_map, ← List.mem_mergeSort (l := names)]
  exact iff_of_eq (congrArg (n ∈ ·) (List.zipIdx_map_fst 0 (byDegree g names)))

/-- **A layered layout has the declared names**, also where a grid stands in for it. -/
theorem mem_keys_layeredOrGrid (a : Analysis) (ends : List (String × String))
    (names : List String) (s : Settings) (n : String) :
    n ∈ (layeredOrGrid a ends names s).keys ↔ n ∈ names := by
  unfold layeredOrGrid
  split
  · next m hm =>
    have hclosed : Layered.isClosed names ends = true := by
      unfold layered? at hm
      split at hm
      · next h => exact h
      · cases hm
    obtain ⟨m', hm', hkeys⟩ := exists_layered? (g := a.graph) (s.layerFrame a.pattern) hclosed
    cases hm.symm.trans hm'
    exact hkeys n
  · exact mem_keys_grid _ _ _ _ n

/-! ## All strategies -/

/-- **Whatever the strategy, the declared names get places**, and no others. -/
theorem mem_keys_raw {t : Strategy} {a : Analysis} (ha : a.Within names)
    {ends : List (String × String)} {s : Settings} {m : SpotMap}
    (h : raw t a ends names s = .ok m) (n : String) : n ∈ m.keys ↔ n ∈ names := by
  unfold raw at h
  split at h
  · next hempty =>
    cases h
    rw [List.isEmpty_iff.1 hempty]
    rfl
  · cases t with
    | radial => exact mem_keys_radial ha h n
    | chain => exact mem_keys_chain ha.graph ha.neighbours h n
    | force => exact mem_keys_force h n
    | layered =>
      cases h
      rw [SpotMap.keys_ofPositions]
      exact mem_keys_layeredOrGrid a ends names s n
    | grid =>
      cases h
      rw [SpotMap.keys_ofPositions]
      exact mem_keys_grid _ _ _ names n

end ErDiagram.Layout

namespace ErDiagram.Diagram

open Layout

/-- The keys of what a strategy and the filling in place, for any analysis that finds declared
names only. -/
theorem mem_keys_spots {d : Diagram} {a : Analysis} (ha : a.Within d.entityNames) {t : Strategy}
    {s : Settings} {m : SpotMap} (h : d.spots a t s = .ok m) (n : String) :
    n ∈ m.keys ↔ n ∈ d.entityNames := by
  unfold spots at h
  obtain ⟨m₁, hraw, h⟩ := Except.bind_eq_ok.1 h
  rw [mem_keys_fillMissing h, mem_keys_raw ha hraw, or_self]

/-- **No entity is lost, invented or placed twice.** By whichever strategy and settings a diagram
is placed, the keys are its different names, each once – for entities without a point too –, and
refining the places keeps the keys and their order. The diagram may repeat a name and mention
names that it does not declare; `eraseDups` counts a repeated name once. -/
theorem keys_layout (d : Diagram) (t : Strategy) (s : Settings) :
    (∀ m, d.spots d.analyze t s = .ok m → m.keys.Perm d.entityNames.eraseDups) ∧
      ∀ p, d.layout d.analyze t s = .ok p →
        p.keys.Perm d.entityNames.eraseDups ∧
          ∀ o : Refinement.Options Float, (Refinement.refine o d.ends p).keys = p.keys := by
  have hspots : ∀ m, d.spots d.analyze t s = .ok m → m.keys.Perm d.entityNames.eraseDups := by
    intro m h
    refine (List.perm_ext_iff_of_nodup m.nodup_keys (nodup_eraseDups _)).2 fun n => ?_
    rw [List.mem_eraseDups]
    exact mem_keys_spots d.analyze_within h n
  refine ⟨hspots, fun p h => ?_⟩
  unfold layout at h
  obtain ⟨m, hm, hp⟩ := Except.bind_eq_ok.1 h
  rw [SpotMap.keys_of_positions_eq_ok hp]
  exact ⟨hspots m hm, fun o =>
    (Refinement.keys_refine o d.ends p).trans (SpotMap.keys_of_positions_eq_ok hp)⟩

/-- A repeated name, a self-relationship, and an end that is not declared. -/
def careless : Diagram where
  entities := [{ name := "A" }, { name := "A", weak := true }, { name := "B" }]
  relationships := [
    { source := "A", target := "A", cardinality := ⟨.one, .one⟩ },
    { source := "A", target := "C", cardinality := ⟨.one, .one⟩ },
    { source := "A", target := "B", cardinality := ⟨.one, .zeroOrMany⟩ }]

theorem keys_layout_careless :
    ∃ m p, careless.spots careless.analyze .grid {} = .ok m ∧ m.keys.Perm ["A", "B"] ∧
      careless.layout careless.analyze .grid {} = .ok p ∧ p.keys.Perm ["A", "B"] ∧
      (Refinement.refine (Settings.refinement {}) careless.ends p).keys = p.keys := by
  -- sorting is not evaluated, but there is nothing to sort
  have hsort : byDegree careless.analyze.graph careless.entityNames = ["A", "A", "B"] :=
    List.mergeSort_of_pairwise (by decide)
  have hok : (careless.layout careless.analyze .grid {}).isOk = true := by
    unfold layout spots raw
    dsimp only
    unfold grid
    rw [hsort]
    decide +kernel
  obtain ⟨p, hp⟩ := Except.exists_eq_ok_of_isOk hok
  obtain ⟨m, hm, _⟩ := Except.bind_eq_ok.1 hp
  obtain ⟨hspots, hlayout⟩ := keys_layout careless .grid {}
  have hnames : careless.entityNames.eraseDups = ["A", "B"] := by decide
  exact ⟨m, p, hm, hnames ▸ hspots m hm, hp, hnames ▸ (hlayout p hp).1, (hlayout p hp).2 _⟩

end ErDiagram.Diagram
