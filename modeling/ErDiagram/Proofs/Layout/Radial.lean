import ErDiagram.Layout.Radial
import ErDiagram.Proofs.Connectivity.Hubs
import ErDiagram.Proofs.Geometry.Finite
import ErDiagram.Proofs.Layout.Missing

/-!
# Each kind of entity has its place in a radial layout

A radial layout takes several steps, and each of them passes over what is placed already. The
steps for hubs come first, and since every chain and every cluster has a hub, no chain is free and
no cluster is left for a zone of its own. So what decides where an entity goes is how many
neighbours it has: two or more and it is a hub; one that is a hub, and it goes outward with a
chain or is a satellite; none, and it is in the square of isolated entities. What is filled in at
the end are the pairs of entities that have only each other.

The steps are computations that may fail, by a coordinate that cannot be rounded, and a later one
may fail where an earlier one has not. So each step has a name for what is there after it
(`afterHubs` to `afterIsolated`), and what is said of a step is said of these, whether or not the
whole layout has a result. That the steps are those of the layout is `radial_eq`.

All steps do the same kind of thing: they add finite places behind those that are there
(`Places`). This is transitive, and each step has a lemma that says which names it adds. Which
names these are in terms of the diagram is then a question about its graph: hubs are the entities
of degree two or more, a satellite has one neighbour, which is a hub, and so on.
-/

namespace ErDiagram.Layout

/-! ## Steps that place

All steps are of one kind: they add places at the end of a map. What follows is what can be said
of such steps in general, for one name, for a list of names and for steps in a row. -/

/-- **What a step of a layout does**: some names get finite places, after the names that have one.
Nothing that has a place is moved.

That the old entries are a prefix of the new ones says three things at once: none is lost, none is
moved, and they keep their order. The names that are added may have had a place already, and need
not be new; a step is only asked which names have a place after it. -/
structure Places (m : PositionMap Float) (added : List String) (m' : PositionMap Float) :
    Prop where
  /-- What was there stays, with its places and in its order. Later steps ask the map from its
  beginning. -/
  isPrefix : m.entries <+: m'.entries
  /-- The names are there. -/
  mem_keys : ∀ n, n ∈ m'.keys ↔ n ∈ m.keys ∨ n ∈ added
  /-- Places that are new are finite, which is what filling in goes by later: it moves what is
  not. -/
  finite : ∀ e ∈ m'.entries, e ∈ m.entries ∨ e.2.isFinite = true

namespace Places

variable {m m' m'' : PositionMap Float} {n : String} {l l' : List String}

theorem refl (m : PositionMap Float) : Places m [] m :=
  ⟨List.prefix_refl _, fun n => by simp, fun _ he => .inl he⟩

theorem trans (h : Places m l m') (h' : Places m' l' m'') : Places m (l ++ l') m'' where
  isPrefix := h.isPrefix.trans h'.isPrefix
  mem_keys n := by rw [h'.mem_keys, h.mem_keys, List.mem_append, or_assoc]
  finite e he := by
    rcases h'.finite e he with he | he
    · exact h.finite e he
    · exact .inr he

/-- One name gets a place. -/
theorem insert (hn : n ∉ m.keys) {p : Point Float} (hp : p.isFinite = true) :
    Places m [n] (m.insert n p) where
  isPrefix := by
    rw [OrderedMap.entries_insert_of_notMem hn]
    exact List.prefix_append _ _
  mem_keys x := by rw [OrderedMap.mem_keys_insert, List.mem_singleton]
  finite e he := by
    rw [OrderedMap.entries_insert_of_notMem hn] at he
    rcases List.mem_append.1 he with he | he
    · exact .inl he
    · rw [List.mem_singleton.1 he]
      exact .inr hp

/-- One name after the other gets a place. -/
theorem cons (hnew : (m.keys ++ n :: l).Nodup) {p : Point Float} (hp : p.isFinite = true)
    (h : ((m.insert n p).keys ++ l).Nodup → Places (m.insert n p) l m') :
    Places m (n :: l) m' := by
  have hn : n ∉ m.keys := fun hmem => List.disjoint_of_nodup_append hnew hmem List.mem_cons_self
  refine (insert hn hp).trans (h ?_)
  rw [OrderedMap.keys_insert, if_neg hn, List.append_assoc]
  exact hnew

/-- Names that have a place already need not be named. A step may be given more names than it
places, as a chain that starts at a hub is. -/
theorem congr (h : Places m l m') (hl : ∀ n, n ∉ m.keys → (n ∈ l ↔ n ∈ l')) :
    Places m l' m' where
  isPrefix := h.isPrefix
  mem_keys n := by
    rw [h.mem_keys]
    by_cases hn : n ∈ m.keys
    · simp [hn]
    · simp [hn, hl n hn]
  finite := h.finite

theorem mem_of_mem (h : Places m l m') (hn : n ∈ m.keys) : n ∈ m'.keys :=
  (h.mem_keys n).2 (.inl hn)

end Places

namespace Radial

variable {o : Measures} {g : Graph} {minDistance : Float}

theorem contains_eq_false_iff {m : PositionMap Float} {n : String} :
    m.contains n = false ↔ n ∉ m.keys := by
  rw [← Bool.not_eq_true, OrderedMap.contains_iff_mem_keys]

/-- Names that are not placed go behind those that are. -/
theorem nodup_keys_append {m : PositionMap Float} {l : List String} (hl : l.Nodup)
    (hnew : ∀ n ∈ l, n ∉ m.keys) : (m.keys ++ l).Nodup :=
  List.nodup_append'.2 ⟨m.nodup_keys, hl, fun n hkey hmem => hnew n hmem hkey⟩

/-! ## Hubs -/

theorem isFinite_centre (n : ℕ) : (measures n).centre.isFinite = true := by
  unfold measures
  dsimp only
  split <;> decide +kernel

theorem isFinite_freeOnRing {uniform step : Float} {others : List (Point Float)}
    {fallback p : Point Float} {left turn : ℕ} (hf : fallback.isFinite = true)
    (h : freeOnRing o minDistance uniform step others fallback left turn = .ok p) :
    p.isFinite = true := by
  induction left generalizing turn with
  | zero =>
    rw [← Except.ok.inj h]
    exact hf
  | succ left ih =>
    rw [freeOnRing] at h
    obtain ⟨q, hq, h⟩ := Except.bind_eq_ok.1 h
    split at h
    · rw [← Except.ok.inj h]
      exact Point.isFinite_of_snapped hq
    · exact ih h

theorem isFinite_hubPlace {count index : ℕ} {m : PositionMap Float} {hub : Hub} {p : Point Float}
    (h : hubPlace o minDistance count m index hub = .ok p) : p.isFinite = true := by
  unfold hubPlace at h
  obtain ⟨q, hq, h⟩ := Except.bind_eq_ok.1 h
  have hfinite := Point.isFinite_of_snapped hq
  split at h
  · exact isFinite_freeOnRing hfinite h
  · rw [← Except.ok.inj h]
    exact hfinite

theorem placeHubs_places {count index : ℕ} {hubs : List Hub} {m m' : PositionMap Float}
    (h : placeHubs o minDistance count index hubs m = .ok m')
    (hnew : (m.keys ++ hubs.map (·.entity)).Nodup) : Places m (hubs.map (·.entity)) m' := by
  induction hubs generalizing index m with
  | nil =>
    rw [← Except.ok.inj h]
    exact .refl m
  | cons hub rest ih =>
    rw [placeHubs] at h
    obtain ⟨p, hp, h⟩ := Except.bind_eq_ok.1 h
    exact .cons hnew (isFinite_hubPlace hp) (ih h)

/-- **The hubs are placed**, the first of them in the centre, which no other hub can take from it:
a name is a hub once. -/
theorem placeAllHubs_places {hubs : List Hub} {m : PositionMap Float}
    (ho : o.centre.isFinite = true) (hn : (hubs.map (·.entity)).Nodup)
    (h : placeAllHubs o minDistance hubs = .ok m) :
    Places .empty (hubs.map (·.entity)) m ∧
      ∀ hub ∈ hubs.head?, m.get? hub.entity = some o.centre := by
  cases hubs with
  | nil =>
    rw [← Except.ok.inj h]
    exact ⟨.refl _, fun _ hhub => absurd hhub (by simp)⟩
  | cons first rest =>
    have hempty : first.entity ∉ (.empty : PositionMap Float).keys := List.not_mem_nil
    have hfirst := Places.insert hempty ho
    have hrest := placeHubs_places h (by
      rw [OrderedMap.keys_insert, if_neg hempty]
      exact hn)
    refine ⟨hfirst.trans hrest, fun hub hhub => ?_⟩
    rw [List.head?_cons, Option.mem_some_iff] at hhub
    rw [← hhub]
    refine OrderedMap.get?_of_isPrefix hrest.isPrefix ?_
    rw [OrderedMap.get?_insert, if_pos rfl]

/-! ## Chains

Chains are drawn outward from a hub that is placed. The step keeps those without such a hub for
later, and it is shown that there are none. -/

theorem placeOutward_places {origin : Point Float} {angle : Float} {step : ℕ}
    {entities : List String} {m m' : PositionMap Float}
    (h : placeOutward o origin angle step entities m = .ok m') : Places m entities m' := by
  induction entities generalizing step m with
  | nil =>
    rw [← Except.ok.inj h]
    exact .refl m
  | cons name rest ih =>
    rw [placeOutward] at h
    split at h
    · next hplaced =>
      rw [OrderedMap.contains_iff_mem_keys] at hplaced
      refine (ih h).congr fun n hn => ?_
      rw [List.mem_cons, or_iff_right]
      rintro rfl
      exact hn hplaced
    · next hmissing =>
      rw [OrderedMap.contains_iff_mem_keys] at hmissing
      obtain ⟨p, hp, h⟩ := Except.bind_eq_ok.1 h
      exact (Places.insert hmissing (Point.isFinite_of_snapped hp)).trans (ih h)

/-- A chain with a hub that is placed hangs on a hub. Which one does not matter here. -/
theorem isSome_anchor? {hubs l : List String} {m : PositionMap Float} {n : String} (hn : n ∈ l)
    (hhub : n ∈ hubs) (hm : n ∈ m.keys) : (anchor? g hubs m l).isSome = true := by
  induction l with
  | nil => cases hn
  | cons name rest ih =>
    rw [anchor?]
    dsimp only
    split
    · rfl
    · next hname =>
      split
      · rfl
      · refine ih ((List.mem_cons.1 hn).resolve_left ?_)
        rintro rfl
        refine hname ?_
        rw [Bool.and_eq_true, List.contains_iff_mem, OrderedMap.contains_iff_mem_keys]
        exact ⟨hhub, hm⟩

/-- **No chain is free** if each has a hub that is placed. The hub of a chain may be one of its
own entities, and stays placed while earlier chains are drawn. -/
theorem placeChains_places {hubs : List String} {index : ℕ} {chains : List Chain}
    {m : PositionMap Float} {r : PositionMap Float × List Chain}
    (hc : ∀ c ∈ chains, ∃ n ∈ c.entities, n ∈ hubs ∧ n ∈ m.keys)
    (h : placeChains o g hubs index chains m = .ok r) :
    r.2 = [] ∧ Places m (chains.flatMap (·.entities)) r.1 := by
  induction chains generalizing index m with
  | nil =>
    rw [← Except.ok.inj h]
    exact ⟨rfl, .refl m⟩
  | cons c rest ih =>
    rw [List.forall_mem_cons] at hc
    obtain ⟨⟨n, hn, hhub, hm⟩, hrest⟩ := hc
    obtain ⟨a, ha⟩ := Option.isSome_iff_exists.1 (isSome_anchor? (g := g) hn hhub hm)
    rw [placeChains, ha] at h
    obtain ⟨m₁, hm₁, h⟩ := Except.bind_eq_ok.1 h
    have hout := placeOutward_places hm₁
    obtain ⟨hfree, hplaces⟩ := ih (fun c hc => by
      obtain ⟨n, hn, hhub, hm⟩ := hrest c hc
      exact ⟨n, hn, hhub, hout.mem_of_mem hm⟩) h
    exact ⟨hfree, hout.trans hplaces⟩

/-! ## Satellites -/

theorem placeAround_places {centre : Point Float} {radius : Float}
    {places : List (String × Float)} {m m' : PositionMap Float}
    (hnew : (m.keys ++ places.map Prod.fst).Nodup)
    (h : placeAround centre radius places m = .ok m') : Places m (places.map Prod.fst) m' := by
  induction places generalizing m with
  | nil =>
    rw [← Except.ok.inj h]
    exact .refl m
  | cons e rest ih =>
    rw [placeAround] at h
    obtain ⟨p, hp, h⟩ := Except.bind_eq_ok.1 h
    exact .cons hnew (Point.isFinite_of_snapped hp) fun hrest => ih hrest h

theorem length_ringAngles {n : ℕ} {taken angles : List Float}
    (h : ringAngles n taken = .ok angles) : angles.length = n := by
  unfold ringAngles at h
  dsimp only at h
  split at h
  · cases h
  split at h
  · rw [← Except.ok.inj h, List.length_map, List.length_range, Int.toNat_natCast]
  split at h
  · cases h
  · rw [← Except.ok.inj h, spread, List.length_map, List.length_range, Int.toNat_natCast]

/-- **The satellites of a hub** are its neighbours that have no other neighbour. Those that a
chain has placed already are passed over, so that they all have a place in the end. -/
theorem placeSatellites_places {first : Bool} {hub : Hub} {m m' : PositionMap Float}
    (hm : hub.entity ∈ m.keys) (hn : hub.neighbours.Nodup)
    (h : placeSatellites o g first hub m = .ok m') :
    Places m (hub.neighbours.filter fun n => g.degree n == 1) m' := by
  obtain ⟨p, hp⟩ := OrderedMap.exists_get?_of_mem_keys hm
  have hplaces : Places m (hub.neighbours.filter fun n => !m.contains n && g.degree n == 1) m' := by
    unfold placeSatellites at h
    rw [hp] at h
    dsimp only at h
    split at h
    · next hnone =>
      rw [← Except.ok.inj h, List.isEmpty_iff.1 hnone]
      exact .refl m
    · obtain ⟨angles, hangles, h⟩ := Except.bind_eq_ok.1 h
      have hzip := List.map_fst_zip (length_ringAngles hangles).ge
      have hnew := nodup_keys_append (m := m) (hn.filter fun n => !m.contains n && g.degree n == 1)
        fun n hmem => by
          rw [List.mem_filter, Bool.and_eq_true, Bool.not_eq_true'] at hmem
          exact contains_eq_false_iff.1 hmem.2.1
      have hround := placeAround_places (by rw [hzip]; exact hnew) h
      rwa [hzip] at hround
  refine hplaces.congr fun n hkey => ?_
  simp [List.mem_filter, contains_eq_false_iff.2 hkey]

/-- Each hub has satellites of its own. -/
theorem placeAllSatellites_places {main : Option String} {hubs : List Hub}
    {m m' : PositionMap Float} (hm : ∀ h ∈ hubs, h.entity ∈ m.keys)
    (hn : ∀ h ∈ hubs, h.neighbours.Nodup) (h : placeAllSatellites o g main hubs m = .ok m') :
    Places m (hubs.flatMap fun h => h.neighbours.filter fun n => g.degree n == 1) m' := by
  induction hubs generalizing m with
  | nil =>
    rw [← Except.ok.inj h]
    exact .refl m
  | cons hub rest ih =>
    rw [placeAllSatellites] at h
    obtain ⟨m₁, hm₁, h⟩ := Except.bind_eq_ok.1 h
    rw [List.forall_mem_cons] at hm hn
    have hfirst := placeSatellites_places hm.1 hn.1 hm₁
    exact hfirst.trans (ih (fun h hh => hfirst.mem_of_mem (hm.2 h hh)) hn.2 h)

/-! ## Clusters and isolated entities -/

/-- **No cluster has a zone** if each has an entity that is placed. The step then cannot fail
either, since it computes no place. -/
theorem placeClusters_eq_ok {index : ℕ} {clusters : List Cluster} {m : PositionMap Float}
    (hc : ∀ c ∈ clusters, ∃ n ∈ c.entities, n ∈ m.keys) :
    placeClusters o minDistance index clusters m = .ok m := by
  induction clusters with
  | nil => rfl
  | cons c rest ih =>
    rw [List.forall_mem_cons] at hc
    obtain ⟨⟨n, hn, hm⟩, hrest⟩ := hc
    rw [placeClusters, if_pos, ih hrest]
    exact List.any_eq_true.2 ⟨n, hn, OrderedMap.contains_iff_mem_keys.2 hm⟩

theorem isFinite_beyond {x y : Float} {steps : ℕ} (h : beyond x steps = .ok y) :
    y.isFinite = true := by
  unfold beyond at h
  dsimp only at h
  split at h
  · next hfinite =>
    rw [← Except.ok.inj h]
    exact hfinite
  · cases h

theorem isFinite_squarePlace {columns index : ℕ} {p : Point Float}
    (h : squarePlace o columns index = .ok p) : p.isFinite = true := by
  unfold squarePlace at h
  obtain ⟨x, hx, h⟩ := Except.bind_eq_ok.1 h
  obtain ⟨y, hy, h⟩ := Except.bind_eq_ok.1 h
  rw [← Except.ok.inj h]
  show (x.isFinite && y.isFinite) = true
  rw [isFinite_beyond hx, isFinite_beyond hy, Bool.and_self]

theorem placeInSquare_places {columns index : ℕ} {entities : List String}
    {m m' : PositionMap Float} (hnew : (m.keys ++ entities).Nodup)
    (h : placeInSquare o columns index entities m = .ok m') : Places m entities m' := by
  induction entities generalizing index m with
  | nil =>
    rw [← Except.ok.inj h]
    exact .refl m
  | cons name rest ih =>
    rw [placeInSquare] at h
    obtain ⟨p, hp, h⟩ := Except.bind_eq_ok.1 h
    exact .cons hnew (isFinite_squarePlace hp) fun hrest => ih hrest h

theorem placeIsolated_places {isolated : List String} {m m' : PositionMap Float}
    (hn : isolated.Nodup) (h : placeIsolated o isolated m = .ok m') :
    Places m isolated m' := by
  have hnew := nodup_keys_append (m := m) (hn.filter (!m.contains ·))
    fun n hmem => by
      rw [List.mem_filter, Bool.not_eq_true'] at hmem
      exact contains_eq_false_iff.1 hmem.2
  refine (placeInSquare_places hnew h).congr fun n hkey => ?_
  simp [List.mem_filter, contains_eq_false_iff.2 hkey]

/-! ## The steps one after the other -/

section Steps

variable (a : Analysis) (n : ℕ) (s : Settings)

/-- **What is placed after the steps for hubs**, for an analysis of some number of names. -/
def afterHubs : Except LayoutError (PositionMap Float) :=
  placeAllHubs (measures n) s.minDistance a.hubs

/-- **What is placed after the step for chains that hang on hubs**, and the chains that are left. -/
def afterChains : Except LayoutError (PositionMap Float × List Chain) := do
  placeChains (measures n) a.graph (a.hubs.map (·.entity)) 0 a.chains (← afterHubs a n s)

/-- **What is placed after the step for satellites**, and the chains that are left. -/
def afterSatellites : Except LayoutError (PositionMap Float × List Chain) := do
  let (m, free) ← afterChains a n s
  let m ← placeAllSatellites (measures n) a.graph (a.hubs.map (·.entity)).head? a.hubs m
  pure (m, free)

/-- **What is placed after the step for free chains.** -/
def afterFreeChains : Except LayoutError (PositionMap Float) := do
  let (m, free) ← afterSatellites a n s
  pure (placeFreeChains (measures n) s.gridCellHeight free m)

/-- **What is placed after the step for clusters.** -/
def afterClusters : Except LayoutError (PositionMap Float) := do
  placeClusters (measures n) s.minDistance 0 a.clusters (← afterFreeChains a n s)

/-- **What is placed after the step for isolated entities.** -/
def afterIsolated : Except LayoutError (PositionMap Float) := do
  placeIsolated (measures n) a.isolated (← afterClusters a n s)

end Steps

end Radial

/-- A radial layout takes these steps, and then fills in what is missing. -/
theorem radial_eq (a : Analysis) (names : List String) (s : Settings) :
    radial a names s = Radial.afterIsolated a names.length s >>= fun m =>
      fillMissing a.graph names (Radial.measures names.length).centre (.ofSeed s.layoutSeed)
        (.ofPositions m) := by
  unfold radial Radial.afterIsolated Radial.afterClusters Radial.afterFreeChains
    Radial.afterSatellites Radial.afterChains Radial.afterHubs
  simp only [bind_assoc, pure_bind]

/-! ## Which entity is placed by which step

The steps are told apart by numbers of neighbours: two or more, one with a hub at its other end,
none, and one that is shared with nobody else. This covers all entities, and no two of them
overlap. -/

namespace Radial

/-- **Each kind of entity is placed by steps of its own**, and no step moves what an earlier one
has placed. What is said of a step holds whether or not the steps after it succeed.

The structure has the shape of the layout, one or two fields for each step in their order. A field
about a step has as a hypothesis that the step has a result, and speaks of what is there after it
compared with what was there before; so `isPrefix` of entries stands wherever one step follows
another, and the entities of a kind are those that have a place after a step and had none before.
Two steps, for free chains and for clusters, do nothing in any diagram, which is said as an
equation between computations: they do not fail either. The kinds of entities are told apart by
degrees alone, and for what is left by the size of the component, so that a reader of a diagram
can say of each entity where it will be without running the layout.

It is a statement about an analysis and a list of names; that it holds for the analysis of every
diagram is `eachInOnePlace_radial`. -/
structure EachInOnePlace (a : Analysis) (names : List String) (s : Settings) : Prop where
  /-- A radial layout is what these steps place, with what is missing filled in. The other fields
  speak of the steps, and this one says that they are the layout. -/
  run : radial a names s = afterIsolated a names.length s >>= fun m =>
    fillMissing a.graph names (measures names.length).centre (.ofSeed s.layoutSeed)
      (.ofPositions m)
  /-- Every chain has a hub: it has three entities or more, so that one of them is between two
  others. -/
  hub_of_chain : ∀ c ∈ a.chains, ∃ h ∈ a.hubs, h.entity ∈ c.entities
  /-- Every cluster has a hub, for the same reason. -/
  hub_of_cluster : ∀ c ∈ a.clusters, ∃ h ∈ a.hubs, h.entity ∈ c.entities
  /-- The steps for hubs place the entities with two neighbours or more, and the first hub in the
  centre. -/
  hubs : ∀ m, afterHubs a names.length s = .ok m →
    (∀ x, x ∈ m.keys ↔ x ∈ names ∧ 2 ≤ a.graph.degree x) ∧
      ∀ h ∈ a.hubs.head?, m.get? h.entity = some (measures names.length).centre
  /-- No chain is left over. What the step adds stands behind the places of the hubs, so that no
  hub is moved. -/
  chains : ∀ r, afterChains a names.length s = .ok r →
    r.2 = [] ∧ ∃ m, afterHubs a names.length s = .ok m ∧ m.entries <+: r.1.entries
  /-- Satellites are placed after the chains, behind what is there, so that no end of a chain is
  moved. -/
  satellites : ∀ r, afterSatellites a names.length s = .ok r →
    ∃ r₀, afterChains a names.length s = .ok r₀ ∧ r₀.1.entries <+: r.1.entries
  /-- The steps for chains and satellites place the entities whose only neighbour is a hub. Which
  of the two steps it is depends on the order of the declarations, since an entity at the end of a
  chain is a neighbour of its hub as well; so they are taken together. -/
  outward : ∀ m r, afterHubs a names.length s = .ok m → afterSatellites a names.length s = .ok r →
    ∀ x, x ∈ r.1.keys ∧ x ∉ m.keys ↔
      x ∈ names ∧ a.graph.degree x = 1 ∧ ∀ y ∈ a.graph.neighbours x, 2 ≤ a.graph.degree y
  /-- The step for free chains places nothing, and does not fail: it has no chain to go through. -/
  freeChains : afterFreeChains a names.length s = (afterSatellites a names.length s).map Prod.fst
  /-- The step for clusters places nothing, since each cluster has an entity that is placed. -/
  clusters : afterClusters a names.length s = afterFreeChains a names.length s
  /-- The step for isolated entities places the entities without neighbours. -/
  isolated : ∀ m, afterIsolated a names.length s = .ok m →
    ∃ m₀, afterClusters a names.length s = .ok m₀ ∧ m₀.entries <+: m.entries ∧
      ∀ x, x ∈ m.keys ∧ x ∉ m₀.keys ↔ x ∈ names ∧ a.graph.degree x = 0
  /-- What is left to be filled in are the members of components of two entities. Each has one
  neighbour, which is no hub. -/
  left : ∀ m, afterIsolated a names.length s = .ok m → ∀ x ∈ names,
    x ∉ m.keys ↔ (a.graph.simple.connectedComponentMk x).supp.ncard = 2
  /-- Filling in moves nothing, so that the first hub is in the centre of the layout. -/
  filled : ∀ m, radial a names s = .ok m →
    (∃ m₀, afterIsolated a names.length s = .ok m₀ ∧
      (SpotMap.ofPositions m₀).entries <+: m.entries) ∧
    ∀ h ∈ a.hubs.head?, m.get? h.entity = some (some (measures names.length).centre)

section Steps

variable {d : Diagram} {n : ℕ} {s : Settings}

theorem mem_entityNames_iff {x : String} : x ∈ d.analyze.graph.names ↔ x ∈ d.entityNames :=
  Graph.mem_names_ofDiagram d

theorem afterHubs_places {m : PositionMap Float} (h : afterHubs d.analyze n s = .ok m) :
    Places .empty d.analyze.graph.hubNames m ∧
      ∀ hub ∈ d.analyze.hubs.head?, m.get? hub.entity = some (measures n).centre := by
  have hg := Graph.isSimple_ofDiagram d
  have hnames := Graph.map_entity_hubs (Graph.ofDiagram d)
  have hplaces := placeAllHubs_places (isFinite_centre n)
    (hnames ▸ Graph.nodup_hubNames hg.nodup_names) h
  exact ⟨hnames ▸ hplaces.1, hplaces.2⟩

theorem mem_keys_afterHubs {m : PositionMap Float} (h : afterHubs d.analyze n s = .ok m)
    (x : String) : x ∈ m.keys ↔ x ∈ d.entityNames ∧ 2 ≤ d.analyze.graph.degree x := by
  rw [(afterHubs_places h).1.mem_keys, Graph.mem_hubNames, mem_entityNames_iff]
  exact or_iff_right List.not_mem_nil

theorem mem_keys_of_mem_hubs {m : PositionMap Float} (h : afterHubs d.analyze n s = .ok m)
    {hub : Hub} (hhub : hub ∈ d.analyze.hubs) : hub.entity ∈ m.keys := by
  rw [(afterHubs_places h).1.mem_keys, ← Graph.map_entity_hubs]
  exact .inr (List.mem_map_of_mem hhub)

/-- **All chains hang on hubs.** So the step for chains on hubs is the one that draws them, and
the later step for free chains has nothing to do. -/
theorem afterChains_places {r : PositionMap Float × List Chain}
    (h : afterChains d.analyze n s = .ok r) :
    r.2 = [] ∧ ∃ m, afterHubs d.analyze n s = .ok m ∧
      Places m (d.analyze.chains.flatMap (·.entities)) r.1 := by
  have hg : d.analyze.graph.IsSimple := Graph.isSimple_ofDiagram d
  unfold afterChains at h
  obtain ⟨m, hm, h⟩ := Except.bind_eq_ok.1 h
  obtain ⟨hfree, hplaces⟩ := placeChains_places (fun c hc => by
    obtain ⟨hub, hhub, hmem⟩ := hg.exists_hub_of_mem_chains hc
    exact ⟨hub.entity, hmem, List.mem_map_of_mem hhub, mem_keys_of_mem_hubs hm hhub⟩) h
  exact ⟨hfree, m, hm, hplaces⟩

theorem afterSatellites_places {r : PositionMap Float × List Chain}
    (h : afterSatellites d.analyze n s = .ok r) :
    r.2 = [] ∧ ∃ r₀, afterChains d.analyze n s = .ok r₀ ∧
      Places r₀.1 (d.analyze.hubs.flatMap fun h =>
        h.neighbours.filter fun x => d.analyze.graph.degree x == 1) r.1 := by
  have hg : d.analyze.graph.IsSimple := Graph.isSimple_ofDiagram d
  unfold afterSatellites at h
  obtain ⟨r₀, hr₀, h⟩ := Except.bind_eq_ok.1 h
  obtain ⟨m', hm', h⟩ := Except.bind_eq_ok.1 h
  obtain ⟨hfree, m, hm, hchains⟩ := afterChains_places hr₀
  rw [← Except.ok.inj h]
  refine ⟨hfree, r₀, hr₀, placeAllSatellites_places (fun hub hhub => ?_) (fun hub hhub => ?_) hm'⟩
  · exact hchains.mem_of_mem (mem_keys_of_mem_hubs hm hhub)
  · rw [Graph.neighbours_of_mem_hubs hhub]
    exact hg.nodup_neighbours _

/-- **Around the hubs** are placed the entities whose only neighbour is a hub. A chain places only
such entities besides hubs, and each of them that no chain has placed is a satellite of its hub. -/
theorem mem_keys_afterSatellites {r : PositionMap Float × List Chain}
    (h : afterSatellites d.analyze n s = .ok r) (x : String) :
    x ∈ r.1.keys ↔ x ∈ d.entityNames ∧ (2 ≤ d.analyze.graph.degree x ∨
      d.analyze.graph.degree x = 1 ∧
        ∀ y ∈ d.analyze.graph.neighbours x, 2 ≤ d.analyze.graph.degree y) := by
  have hg : d.analyze.graph.IsSimple := Graph.isSimple_ofDiagram d
  obtain ⟨-, r₀, hr₀, hsatellites⟩ := afterSatellites_places h
  obtain ⟨-, m, hm, hchains⟩ := afterChains_places hr₀
  rw [hsatellites.mem_keys, hchains.mem_keys, mem_keys_afterHubs hm, List.mem_flatMap,
    List.mem_flatMap]
  constructor
  · rintro ((⟨hx, hdegree⟩ | ⟨c, hc, hx⟩) | ⟨hub, hhub, hx⟩)
    · exact ⟨hx, .inl hdegree⟩
    · have hname := mem_entityNames_iff.1 (Graph.subset_of_mem_chains hc hx)
      by_cases hdegree : 2 ≤ d.analyze.graph.degree x
      · exact ⟨hname, .inl hdegree⟩
      · exact ⟨hname, .inr (hg.of_mem_chains hc hx hdegree)⟩
    · rw [Graph.neighbours_of_mem_hubs (g := d.analyze.graph) hhub, List.mem_filter,
        beq_iff_eq] at hx
      obtain ⟨hx, hone⟩ := hx
      refine ⟨mem_entityNames_iff.1 (hg.declared _ hx), .inr ⟨hone, fun y hy => ?_⟩⟩
      rw [Graph.neighbours_eq_of_degree_eq_one hx hone, List.mem_singleton] at hy
      rw [hy]
      exact (Graph.exists_hub_iff.1 ⟨hub, hhub, rfl⟩).2
  · rintro ⟨hx, hdegree | ⟨hone, hhubs⟩⟩
    · exact .inl (.inl ⟨hx, hdegree⟩)
    · -- its only neighbour is a hub, of which it is a satellite
      obtain ⟨y, hy⟩ := List.length_eq_one_iff.1 hone
      have hyx : y ∈ d.analyze.graph.neighbours x := by rw [hy]; exact List.mem_singleton_self y
      obtain ⟨hub, hhub, rfl⟩ := Graph.exists_hub_iff.2 ⟨hg.declared x hyx, hhubs y hyx⟩
      refine .inr ⟨hub, hhub, List.mem_filter.2 ⟨?_, beq_iff_eq.2 hone⟩⟩
      rw [Graph.neighbours_of_mem_hubs hhub]
      exact Graph.mem_neighbours_comm.1 hyx

/-- **There are no free chains to place.** Every chain has a hub, and all hubs have been placed. -/
theorem afterFreeChains_eq (d : Diagram) (n : ℕ) (s : Settings) :
    afterFreeChains d.analyze n s = (afterSatellites d.analyze n s).map Prod.fst := by
  unfold afterFreeChains
  cases hr : afterSatellites d.analyze n s with
  | error e => rfl
  | ok r =>
    show Except.ok (placeFreeChains _ _ r.2 r.1) = .ok r.1
    rw [(afterSatellites_places hr).1]
    rfl

theorem afterFreeChains_eq_ok {m : PositionMap Float} (h : afterFreeChains d.analyze n s = .ok m) :
    afterSatellites d.analyze n s = .ok (m, []) := by
  rw [afterFreeChains_eq] at h
  obtain ⟨r, hr, rfl⟩ := Except.map_eq_ok.1 h
  rw [hr, ← (afterSatellites_places hr).1]

/-- **There are no clusters to place.** Every cluster has a hub, so that some entity of it is
placed. -/
theorem afterClusters_eq (d : Diagram) (n : ℕ) (s : Settings) :
    afterClusters d.analyze n s = afterFreeChains d.analyze n s := by
  have hg : d.analyze.graph.IsSimple := Graph.isSimple_ofDiagram d
  unfold afterClusters
  cases hm : afterFreeChains d.analyze n s with
  | error e => rfl
  | ok m =>
    refine placeClusters_eq_ok fun c hc => ?_
    obtain ⟨hub, hhub, hmem⟩ := hg.exists_hub_of_mem_clusters hc
    obtain ⟨-, r₀, hr₀, hsatellites⟩ := afterSatellites_places (afterFreeChains_eq_ok hm)
    obtain ⟨-, m₀, hm₀, hchains⟩ := afterChains_places hr₀
    exact ⟨hub.entity, hmem,
      hsatellites.mem_of_mem (hchains.mem_of_mem (mem_keys_of_mem_hubs hm₀ hhub))⟩

theorem afterIsolated_places {m : PositionMap Float} (h : afterIsolated d.analyze n s = .ok m) :
    ∃ m₀, afterClusters d.analyze n s = .ok m₀ ∧ Places m₀ d.analyze.isolated m := by
  have hg : d.analyze.graph.IsSimple := Graph.isSimple_ofDiagram d
  unfold afterIsolated at h
  obtain ⟨m₀, hm₀, h⟩ := Except.bind_eq_ok.1 h
  exact ⟨m₀, hm₀, placeIsolated_places (hg.nodup_names.filter _) h⟩

theorem mem_isolated_iff {x : String} :
    x ∈ d.analyze.isolated ↔ x ∈ d.entityNames ∧ d.analyze.graph.degree x = 0 := by
  rw [← mem_entityNames_iff, ← beq_iff_eq]
  exact List.mem_filter

theorem mem_keys_afterClusters {m : PositionMap Float} (h : afterClusters d.analyze n s = .ok m)
    (x : String) :
    x ∈ m.keys ↔ x ∈ d.entityNames ∧ (2 ≤ d.analyze.graph.degree x ∨
      d.analyze.graph.degree x = 1 ∧
        ∀ y ∈ d.analyze.graph.neighbours x, 2 ≤ d.analyze.graph.degree y) := by
  rw [afterClusters_eq] at h
  exact mem_keys_afterSatellites (afterFreeChains_eq_ok h) x

/-- **From the hubs on nothing is moved**, and all that is placed is finite. The steps are put
together into one, whose names are those of all of them. -/
theorem exists_places_afterIsolated {m : PositionMap Float}
    (h : afterIsolated d.analyze n s = .ok m) :
    ∃ m₀ l l', afterHubs d.analyze n s = .ok m₀ ∧ Places .empty l m₀ ∧ Places m₀ l' m := by
  obtain ⟨m₃, hm₃, hisolated⟩ := afterIsolated_places h
  rw [afterClusters_eq] at hm₃
  obtain ⟨-, r₂, hr₂, hsatellites⟩ := afterSatellites_places (afterFreeChains_eq_ok hm₃)
  obtain ⟨-, m₁, hm₁, hchains⟩ := afterChains_places hr₂
  exact ⟨m₁, _, _, hm₁, (afterHubs_places hm₁).1, (hchains.trans hsatellites).trans hisolated⟩

theorem isPlaced_afterIsolated {m : PositionMap Float}
    (h : afterIsolated d.analyze n s = .ok m) :
    ∀ x ∈ (SpotMap.ofPositions m).keys, (SpotMap.ofPositions m).isPlaced x = true := by
  intro x hx
  obtain ⟨m₀, l, l', -, hhubs, hrest⟩ := exists_places_afterIsolated h
  rw [SpotMap.keys_ofPositions] at hx
  obtain ⟨p, hp⟩ := OrderedMap.exists_get?_of_mem_keys hx
  have hfinite := (hhubs.trans hrest).finite _ (OrderedMap.get?_eq_some_iff.1 hp)
  unfold SpotMap.isPlaced
  rw [SpotMap.get?_ofPositions, hp]
  exact hfinite.resolve_left List.not_mem_nil

end Steps

end Radial

end ErDiagram.Layout

namespace ErDiagram.Diagram

open Layout Layout.Radial

/-- **In a radial layout of any diagram each kind of entity has its place.** How many neighbours
an entity has, and whether it is beside a hub, decides which step places it; the steps for free
chains and for clusters find nothing to place; and nothing is moved once it is placed. There is no
hypothesis: the diagram may repeat names and mention names that are not declared, and the settings
may be any numbers. -/
theorem eachInOnePlace_radial (d : Diagram) (s : Settings) :
    EachInOnePlace d.analyze d.entityNames s where
  run := radial_eq _ _ _
  hub_of_chain c hc := (Graph.isSimple_ofDiagram d).exists_hub_of_mem_chains hc
  hub_of_cluster c hc := (Graph.isSimple_ofDiagram d).exists_hub_of_mem_clusters hc
  hubs m hm := ⟨mem_keys_afterHubs hm, (afterHubs_places hm).2⟩
  chains r hr := by
    obtain ⟨hfree, m, hm, hplaces⟩ := afterChains_places hr
    exact ⟨hfree, m, hm, hplaces.isPrefix⟩
  satellites r hr := by
    obtain ⟨-, r₀, hr₀, hplaces⟩ := afterSatellites_places hr
    exact ⟨r₀, hr₀, hplaces.isPrefix⟩
  outward m r hm hr x := by
    rw [mem_keys_afterSatellites hr, mem_keys_afterHubs hm]
    constructor
    · rintro ⟨⟨hx, hdegree | hbeside⟩, hnot⟩
      · exact absurd ⟨hx, hdegree⟩ hnot
      · exact ⟨hx, hbeside⟩
    · rintro ⟨hx, hone, hbeside⟩
      exact ⟨⟨hx, .inr ⟨hone, hbeside⟩⟩, fun hhub => by omega⟩
  freeChains := afterFreeChains_eq d _ s
  clusters := afterClusters_eq d _ s
  isolated m hm := by
    obtain ⟨m₀, hm₀, hplaces⟩ := afterIsolated_places hm
    refine ⟨m₀, hm₀, hplaces.isPrefix, fun x => ?_⟩
    rw [hplaces.mem_keys, mem_isolated_iff, mem_keys_afterClusters hm₀]
    constructor
    · exact fun ⟨hx, hnot⟩ => hx.resolve_left hnot
    · rintro ⟨hx, hzero⟩
      exact ⟨.inr ⟨hx, hzero⟩, fun hplaced => by omega⟩
  left m hm x hx := by
    have hg : d.analyze.graph.IsSimple := Graph.isSimple_ofDiagram d
    obtain ⟨m₀, hm₀, hplaces⟩ := afterIsolated_places hm
    rw [hplaces.mem_keys, mem_isolated_iff, mem_keys_afterClusters hm₀,
      hg.ncard_component_eq_two_iff]
    by_cases hone : d.analyze.graph.degree x = 1
    · rw [← hg.not_forall_two_le_iff hone]
      simp [hx, hone]
    · simp only [hx, hone, true_and, false_and, or_false, iff_false, not_not]
      omega
  filled m hm := by
    rw [radial_eq] at hm
    obtain ⟨m₀, hm₀, hm⟩ := Except.bind_eq_ok.1 hm
    have hprefix := isPrefix_fillMissing (isPlaced_afterIsolated hm₀) hm
    refine ⟨⟨m₀, hm₀, hprefix⟩, fun hub hhub => OrderedMap.get?_of_isPrefix hprefix ?_⟩
    obtain ⟨m₁, _, _, hm₁, _, hrest⟩ := exists_places_afterIsolated hm₀
    have hcentre := (afterHubs_places hm₁).2 hub hhub
    rw [SpotMap.get?_ofPositions, OrderedMap.get?_of_isPrefix hrest.isPrefix hcentre]
    rfl

/-- A hub with three satellites, two entities that have only each other, and one that nothing
joins. -/
def starAndPair : Diagram where
  entities := ["A", "B", "C", "D", "E", "F", "G"].map fun name => { name }
  relationships := [("A", "B"), ("C", "A"), ("A", "D"), ("E", "F")].map fun (source, target) =>
    { source, target, cardinality := ⟨.one, .one⟩ }

/-- The hub is put in the centre, its satellites around it, the lone entity in the square, and the
two that have only each other are left to be filled in. The directions of the satellites are
numbers that no proof can compute, so that it stays open here whether their step succeeds. -/
theorem eachInOnePlace_radial_starAndPair :
    let a := starAndPair.analyze
    let centre := (measures 7).centre
    a.hubs.map (·.entity) = ["A"] ∧ a.chains = [] ∧
      afterHubs a 7 {} = .ok (OrderedMap.empty.insert "A" centre) ∧
      (∀ r, afterSatellites a 7 {} = .ok r →
        ∀ x, x ∈ r.1.keys ∧ x ≠ "A" ↔ x = "B" ∨ x = "C" ∨ x = "D") ∧
      (∀ m, afterIsolated a 7 {} = .ok m →
        ∀ x ∈ starAndPair.entityNames, x ∉ m.keys ↔ x = "E" ∨ x = "F") ∧
      ∀ m, radial a starAndPair.entityNames {} = .ok m → m.get? "A" = some (some centre) := by
  intro a centre
  have heach : EachInOnePlace a starAndPair.entityNames {} := eachInOnePlace_radial starAndPair {}
  have hg : a.graph.IsSimple := Graph.isSimple_ofDiagram starAndPair
  have hentities : a.hubs.map (·.entity) = ["A"] := by decide +kernel
  obtain ⟨hub, hhub, hentity⟩ := List.map_eq_singleton_iff.1 hentities
  have hhead : hub ∈ a.hubs.head? := by rw [hhub]; rfl
  have hhubs : afterHubs a 7 {} = .ok (OrderedMap.empty.insert "A" centre) := by
    rw [afterHubs, hhub, ← hentity]
    rfl
  refine ⟨hentities, by decide +kernel, hhubs, fun r hr x => ?_, fun m hm x hx => ?_,
    fun m hm => hentity ▸ (heach.filled m hm).2 hub hhead⟩
  · have hbeside : ∀ x ∈ starAndPair.entityNames, (a.graph.degree x = 1 ∧
        ∀ y ∈ a.graph.neighbours x, 2 ≤ a.graph.degree y) ↔ x = "B" ∨ x = "C" ∨ x = "D" := by
      decide +kernel
    have hdeclared : x = "B" ∨ x = "C" ∨ x = "D" → x ∈ starAndPair.entityNames := by
      rintro (rfl | rfl | rfl) <;> decide
    have houtward := heach.outward _ r hhubs hr x
    have hempty : x ∉ (OrderedMap.empty : PositionMap Float).keys := List.not_mem_nil
    rw [OrderedMap.mem_keys_insert, or_iff_right hempty] at houtward
    rw [houtward]
    exact ⟨fun ⟨hx, h⟩ => (hbeside x hx).1 h, fun h => ⟨hdeclared h, (hbeside x (hdeclared h)).2 h⟩⟩
  · have hpair : ∀ x ∈ starAndPair.entityNames, (a.graph.degree x = 1 ∧
        ∀ y ∈ a.graph.neighbours x, a.graph.degree y = 1) ↔ x = "E" ∨ x = "F" := by
      decide +kernel
    rw [heach.left m hm x hx, hg.ncard_component_eq_two_iff]
    exact hpair x hx

end ErDiagram.Diagram
