import ErDiagram.Proofs.Geometry.Real
import ErDiagram.Proofs.Layout.Roots

/-!
# Layers lie apart

Components take up stretches of the plane that follow each other, each as wide as its widest
layer, and a narrower layer lies in the middle of its stretch. So the entities of one layer are
apart by the distance along layers, also if they belong to different components, and those of
different layers by the distance across them.

Placing goes through components, layers and names and writes points into a map. To measure
distances, each point is described by a seat: the index of its layer and a coordinate along it.
The entries of the map are seats (`mem_entries_placeComponents`), and what is said of distances is
said of two seats, by a recursion on the components with the coordinate where the next one starts.

All of this is over `ℝ`. The engine and the frame are generic, so that these are the same
definitions as those that run.
-/

namespace ErDiagram.Layout.Layered

/-! ## Seats

Where an entity comes to lie follows from its component, its layer and its place there. A seat
says this in numbers along the layers, before any point is computed. -/

variable {f : Frame ℝ} {offset : ℝ}

/-- **Where a name of a component comes to lie**: in the layer of some index, at some coordinate
along it. The coordinate starts at that of the component and adds half of what the layer is
narrower than the widest one. -/
def SeatIn (f : Frame ℝ) (offset : ℝ) (ls : List (List String)) (n : String) (k : ℕ) (a : ℝ) :
    Prop :=
  ∃ (layer : List String) (i : ℕ), ls[k]? = some layer ∧ layer[i]? = some n ∧
    a = offset + (width ls - layer.length : ℕ) * f.along / 2 + i * f.along

/-- **Where a name comes to lie** among components that follow each other. Each starts where the
widest layer of the one before has ended, so that the recursion carries this coordinate. -/
def Seat (f : Frame ℝ) : ℝ → List (List (List String)) → String → ℕ → ℝ → Prop
  | _, [], _, _, _ => False
  | offset, ls :: rest, n, k, a =>
    SeatIn f offset ls n k a ∨ Seat f (offset + width ls * f.along) rest n k a

theorem le_foldl_max (ls : List (List String)) (w : ℕ) :
    w ≤ ls.foldl (fun w l => max w l.length) w ∧
      ∀ l ∈ ls, l.length ≤ ls.foldl (fun w l => max w l.length) w := by
  induction ls generalizing w with
  | nil => exact ⟨le_rfl, nofun⟩
  | cons l ls ih =>
    obtain ⟨hw, hls⟩ := ih (max w l.length)
    exact ⟨(le_max_left _ _).trans hw,
      List.forall_mem_cons.2 ⟨(le_max_right _ _).trans hw, hls⟩⟩

/-- No layer is wider than its component. -/
theorem length_le_width {ls : List (List String)} {l : List String} (h : l ∈ ls) :
    l.length ≤ width ls :=
  (le_foldl_max ls 0).2 l h

/-- **A component keeps to its stretch.** The stretch is as wide as its widest layer, with one
distance for each entity, so that the next component starts a whole distance after the last entity
of this one. -/
theorem SeatIn.bounds (halong : 0 < f.along) {ls : List (List String)} {n : String} {k : ℕ} {a : ℝ}
    (h : SeatIn f offset ls n k a) : offset ≤ a ∧ a + f.along ≤ offset + width ls * f.along := by
  obtain ⟨layer, i, hlayer, hi, rfl⟩ := h
  have hwidth := length_le_width (List.mem_of_getElem? hlayer)
  obtain ⟨hlt, _⟩ := List.getElem?_eq_some_iff.1 hi
  have hi : (i : ℝ) + 1 ≤ layer.length := by exact_mod_cast hlt
  rw [Nat.cast_sub hwidth]
  have hwidth : (layer.length : ℝ) ≤ width ls := by exact_mod_cast hwidth
  constructor
  · have hstart : 0 ≤ ((width ls : ℝ) - layer.length) * f.along / 2 :=
      div_nonneg (mul_nonneg (sub_nonneg.2 hwidth) halong.le) two_pos.le
    have hplace : 0 ≤ (i : ℝ) * f.along := mul_nonneg (Nat.cast_nonneg i) halong.le
    linarith
  · have hplace : ((i : ℝ) + 1) * f.along ≤ layer.length * f.along :=
      mul_le_mul_of_nonneg_right hi halong.le
    have hrest : 0 ≤ ((width ls : ℝ) - layer.length) * f.along :=
      mul_nonneg (sub_nonneg.2 hwidth) halong.le
    linarith

theorem Seat.le (halong : 0 < f.along) {parts : List (List (List String))} {n : String} {k : ℕ}
    {a : ℝ} (h : Seat f offset parts n k a) : offset ≤ a := by
  induction parts generalizing offset with
  | nil => cases h
  | cons ls parts ih =>
    rcases h with h | h
    · exact (h.bounds halong).1
    · have hstretch : 0 ≤ (width ls : ℝ) * f.along := mul_nonneg (Nat.cast_nonneg _) halong.le
      linarith [ih h]

/-- In one layer of a component, names lie apart. -/
theorem SeatIn.along_le (halong : 0 < f.along) {ls : List (List String)} {n n' : String} {k : ℕ}
    {a a' : ℝ} (h : SeatIn f offset ls n k a) (h' : SeatIn f offset ls n' k a') (hne : n ≠ n') :
    f.along ≤ |a - a'| := by
  obtain ⟨layer, i, hlayer, hi, rfl⟩ := h
  obtain ⟨layer', j, hlayer', hj, rfl⟩ := h'
  rw [hlayer, Option.some.injEq] at hlayer'
  subst hlayer'
  have hij : (1 : ℝ) ≤ |(i : ℝ) - j| := by
    have hij : (i : ℤ) - j ≠ 0 := fun heq => by
      obtain rfl : i = j := by omega
      exact hne (Option.some.inj (hi.symm.trans hj))
    exact_mod_cast Int.one_le_abs hij
  calc f.along
    _ ≤ |(i : ℝ) - j| * f.along := le_mul_of_one_le_left halong.le hij
    _ = |((i : ℝ) - j) * f.along| := by rw [abs_mul, abs_of_pos halong]
    _ = _ := by congr 1; ring

/-- **Names in layers of the same index lie apart**, also in different components: in one
component by their places in the layer, and in two because stretches do not overlap. -/
theorem Seat.along_le (halong : 0 < f.along) {parts : List (List (List String))} {n n' : String}
    {k : ℕ} {a a' : ℝ} (h : Seat f offset parts n k a) (h' : Seat f offset parts n' k a')
    (hne : n ≠ n') : f.along ≤ |a - a'| := by
  induction parts generalizing offset with
  | nil => cases h
  | cons ls parts ih =>
    rcases h with h | h <;> rcases h' with h' | h'
    · exact h.along_le halong h' hne
    · have hend := (h.bounds halong).2
      have hstart := h'.le halong
      rw [abs_sub_comm]
      exact (by linarith : f.along ≤ a' - a).trans (le_abs_self _)
    · have hend := (h'.bounds halong).2
      have hstart := h.le halong
      exact (by linarith : f.along ≤ a - a').trans (le_abs_self _)
    · exact ih h h'

/-- The index of a seat is that of a layer. -/
theorem Seat.hasLayer {parts : List (List (List String))} {n : String} {k : ℕ} {a : ℝ}
    (h : Seat f offset parts n k a) : HasLayer parts n k := by
  induction parts generalizing offset with
  | nil => cases h
  | cons ls parts ih =>
    rcases h with ⟨layer, i, hlayer, hi, _⟩ | h
    · exact ⟨ls, List.mem_cons_self, layer, hlayer, List.mem_of_getElem? hi⟩
    · obtain ⟨ls', hls', hn⟩ := ih h
      exact ⟨ls', List.mem_cons_of_mem ls hls', hn⟩

/-! ## Positions are seats -/

/-- A row of steps that each add entries of some kind adds nothing else. Both loops of placing are
such rows. -/
theorem mem_entries_foldl {β : Type} {step : PositionMap ℝ → β → PositionMap ℝ}
    {p : String × Point ℝ → Prop} {l : List β} {m : PositionMap ℝ}
    (hstep : ∀ m, ∀ b ∈ l, ∀ e ∈ (step m b).entries, e ∈ m.entries ∨ p e) :
    ∀ e ∈ (l.foldl step m).entries, e ∈ m.entries ∨ p e := by
  refine List.foldlRecOn (motive := fun m' : PositionMap ℝ =>
    ∀ e ∈ m'.entries, e ∈ m.entries ∨ p e) l step (fun e he => .inl he) fun m' hm' b hb e he => ?_
  rcases hstep m' b hb e he with he | he
  · exact hm' e he
  · exact .inr he

theorem mem_entries_placeLayer {wide index : ℕ} {layer : List String} {m : PositionMap ℝ} :
    ∀ e ∈ (placeLayer f offset wide index layer m).entries, e ∈ m.entries ∨
      ∃ i : ℕ, layer[i]? = some e.1 ∧ e.2 = f.point
        (offset + (wide - layer.length : ℕ) * f.along / 2 + i * f.along) (index * f.across) := by
  refine mem_entries_foldl fun m b hb e he => ?_
  rcases OrderedMap.mem_entries_insert_iff.1 he with ⟨he, _⟩ | rfl
  · exact .inl he
  · exact .inr ⟨b.2, List.mem_zipIdx_iff_getElem?.1 hb, rfl⟩

/-- **Components are placed in their seats.** -/
theorem mem_entries_placeComponents {parts : List (List (List String))} {m : PositionMap ℝ} :
    ∀ e ∈ (placeComponents f offset parts m).entries, e ∈ m.entries ∨
      ∃ k a, Seat f offset parts e.1 k a ∧ e.2 = f.point a (k * f.across) := by
  induction parts generalizing offset m with
  | nil => exact fun e he => .inl he
  | cons ls parts ih =>
    intro e he
    rcases ih e he with he | ⟨k, a, hseat, hpoint⟩
    · have hcomponent : ∀ e ∈ (placeComponent f offset ls m).entries, e ∈ m.entries ∨
          ∃ k a, SeatIn f offset ls e.1 k a ∧ e.2 = f.point a (k * f.across) := by
        refine mem_entries_foldl fun m b hb e he => ?_
        refine (mem_entries_placeLayer e he).imp_right ?_
        rintro ⟨i, hi, hpoint⟩
        exact ⟨b.2, _, ⟨b.1, i, List.mem_zipIdx_iff_getElem?.1 hb, hi, rfl⟩, hpoint⟩
      refine (hcomponent e he).imp_right ?_
      rintro ⟨k, a, hseat, hpoint⟩
      exact ⟨k, a, .inl hseat, hpoint⟩
    · exact .inr ⟨k, a, .inr hseat, hpoint⟩

/-! ## Distances

Two seats in layers of one index are apart along the layers, and all others across them. Either
way the distance of two points is at least the difference of one of their coordinates. -/

/-- Distances do not depend on which way layers go. -/
theorem distance_point (a a' b b' : ℝ) :
    (f.point a b).distance (f.point a' b') = √((a - a') ^ 2 + (b - b') ^ 2) := by
  rw [Point.distance_real]
  unfold Frame.point
  split
  · rw [add_comm]
    congr 2 <;> ring
  · congr 2 <;> ring

theorem abs_le_distance_point (a a' b b' : ℝ) :
    |a - a'| ≤ (f.point a b).distance (f.point a' b') ∧
      |b - b'| ≤ (f.point a b).distance (f.point a' b') := by
  rw [distance_point]
  exact ⟨Real.abs_le_sqrt (le_add_of_nonneg_right (sq_nonneg _)),
    Real.abs_le_sqrt (le_add_of_nonneg_left (sq_nonneg _))⟩

/-- **Layers lie apart.** Two entities of layers of one index are apart by the distance along
layers, and any others by that across them. Only one of the two coordinates is needed in each
case. -/
theorem distance_of_seats (halong : 0 < f.along) (hacross : 0 < f.across)
    {parts : List (List (List String))} {n n' : String} {k k' : ℕ} {a a' : ℝ}
    (h : Seat f offset parts n k a) (h' : Seat f offset parts n' k' a') (hne : n ≠ n') :
    (k = k' → f.along ≤ (f.point a (k * f.across)).distance (f.point a' (k' * f.across))) ∧
      (k ≠ k' → f.across ≤ (f.point a (k * f.across)).distance (f.point a' (k' * f.across))) := by
  obtain ⟨halong', hacross'⟩ := abs_le_distance_point (f := f) a a' (k * f.across) (k' * f.across)
  constructor
  · rintro rfl
    exact (h.along_le halong h' hne).trans halong'
  · intro hk
    have hkk : (1 : ℝ) ≤ |(k : ℝ) - k'| := by
      have hkk : (k : ℤ) - k' ≠ 0 := by omega
      exact_mod_cast Int.one_le_abs hkk
    calc f.across
      _ ≤ |(k : ℝ) - k'| * f.across := le_mul_of_one_le_left hacross.le hkk
      _ = |k * f.across - k' * f.across| := by rw [← sub_mul, abs_mul, abs_of_pos hacross]
      _ ≤ _ := hacross'

end ErDiagram.Layout.Layered

namespace ErDiagram.Diagram

open Layout Layout.Layered

variable {lib : GraphLibrary}

/-- What the engine places are its layers. -/
theorem eq_placeComponents_of_engine {α : Type} [Scalar α] {f : Layered.Frame α}
    {ends : List (String × String)} {names : List String} {parts : List (List (List String))}
    {m : PositionMap α} (hparts : Engine.parts lib ends names = .ok parts)
    (h : engine lib f ends names = .ok m) :
    m = placeComponents f (Scalar.ofNat 0) parts .empty := by
  rw [engine, hparts] at h
  change (if _ then Except.ok _ else Except.error EngineFailure.unplaced) = _ at h
  split at h
  · exact (Except.ok.inj h).symm
  · cases h

/-- **Layered placement is a true layering without overlaps.** The layers of all components hold
every entity once, and the index of the layer of an entity is its distance from the nearest root;
a relationship joins entities whose indices differ by one at most. In exact arithmetic any two
entities are apart by the lesser of the two distances of the frame, and those of layers of one
index by the distance along layers.

The engine is asked with any library that does what it promises. It succeeds, which is a part of
the statement, and what it places is the layered layout of the diagram. -/
theorem exists_layers_apart (hlib : lib.Documented) (d : Diagram) (hnames : d.entityNames.Nodup)
    (hends : ∀ r ∈ d.relationships, r.source ≠ r.target →
      r.source ∈ d.entityNames ∧ r.target ∈ d.entityNames) :
    ∃ parts, Engine.parts lib d.ends d.entityNames = .ok parts ∧
      parts.flatten.flatten.Perm d.entityNames ∧
      (∀ n k, HasLayer parts n k → d.AtDepth n k) ∧
      (∀ r ∈ d.relationships, ∀ k k', HasLayer parts r.source k → HasLayer parts r.target k' →
        k ≤ k' + 1 ∧ k' ≤ k + 1) ∧
      ∀ f : Layered.Frame ℝ, 0 < f.along → 0 < f.across →
        ∃ m, engine lib f d.ends d.entityNames = .ok m ∧
          layered? f (Graph.ofDiagram d) d.ends d.entityNames = some m ∧
          m.keys.Perm d.entityNames ∧
          ∀ e ∈ m.entries, ∀ e' ∈ m.entries, e.1 ≠ e'.1 →
            min f.along f.across ≤ e.2.distance e'.2 ∧
            ∀ k, HasLayer parts e.1 k → HasLayer parts e'.1 k → f.along ≤ e.2.distance e'.2 := by
  have hclosed := isClosed_ends_iff.2 hends
  have hgraph := Engine.graph_eq_ofDiagram hclosed
  have hparts := Engine.parts_eq_ok hlib hclosed
  rw [hgraph] at hparts
  change _ = Except.ok (allLayers (Graph.ofDiagram d) d.ends d.entityNames) at hparts
  have hperm : (allLayers (Graph.ofDiagram d) d.ends d.entityNames).flatten.flatten.Perm
      d.entityNames :=
    (perm_flatten_allLayers (Graph.isSimple_ofDiagram d) (mem_names_graph d)).trans
      ((List.perm_ext_iff_of_nodup (nodup_ordered _) hnames).2 fun _ => mem_ordered)
  have hdepth : ∀ n k, HasLayer (allLayers (Graph.ofDiagram d) d.ends d.entityNames) n k →
      d.AtDepth n k := fun n k h =>
    (hasLayer_iff_atDepth hnames
      ((hasLayer_allLayers_iff (Graph.isSimple_ofDiagram d) (mem_names_graph d)).1 h).1).1 h
  refine ⟨_, hparts, hperm, hdepth, fun r hr k k' hk hk' => ?_, fun f halong hacross => ?_⟩
  · have hk := hdepth _ _ hk
    have hk' := hdepth _ _ hk'
    by_cases hself : r.source = r.target
    · rw [hself] at hk
      rw [hk.unique hk']
      exact ⟨Nat.le_succ k', Nat.le_succ k'⟩
    · have hadj : (Graph.ofDiagram d).simple.Adj r.source r.target := by
        rw [(Graph.isSimple_ofDiagram d).adj_iff, Graph.mem_neighbours, Graph.mem_pairs_ofDiagram,
          mem_joinedPairs]
        exact ⟨r, hr, ⟨(hends r hr hself).1, (hends r hr hself).2, hself⟩, rfl⟩
      exact ⟨hk'.le_add_one hk hadj.symm, hk.le_add_one hk' hadj⟩
  · obtain ⟨m, hm, hlayered, hkeys⟩ := exists_engine_eq_ok hlib f hclosed
    rw [hgraph] at hlayered
    refine ⟨m, hm, hlayered, (List.perm_ext_iff_of_nodup m.nodup_keys hnames).2 hkeys, ?_⟩
    have hseat : ∀ e ∈ m.entries, ∃ k a,
        Seat f (Scalar.ofNat 0) (allLayers (Graph.ofDiagram d) d.ends d.entityNames) e.1 k a ∧
          e.2 = f.point a (k * f.across) := fun e he => by
      rw [eq_placeComponents_of_engine hparts hm] at he
      exact (mem_entries_placeComponents e he).resolve_left List.not_mem_nil
    intro e he e' he' hne
    obtain ⟨k, a, hk, hpoint⟩ := hseat e he
    obtain ⟨k', a', hk', hpoint'⟩ := hseat e' he'
    obtain ⟨hsame, hdiffer⟩ := distance_of_seats halong hacross hk hk' hne
    rw [hpoint, hpoint']
    constructor
    · by_cases hkk : k = k'
      · exact (min_le_left _ _).trans (hsame hkk)
      · exact (min_le_right _ _).trans (hdiffer hkk)
    · -- an entity is in one layer only, which is that of its seat
      intro i hi hi'
      have heq := (hdepth _ _ hk.hasLayer).unique (hdepth _ _ hi)
      have heq' := (hdepth _ _ hk'.hasLayer).unique (hdepth _ _ hi')
      exact hsame (heq.trans heq'.symm)

/-- A diagram in which one entity points to two others, and a fourth one to itself, so that there
are two layers, two components, and a relationship that does not count. -/
def fork : Diagram where
  entities := [{ name := "A" }, { name := "B" }, { name := "C" }, { name := "D" }]
  relationships :=
    [{ source := "A", target := "B", cardinality := ⟨.one, .one⟩ },
      { source := "A", target := "C", cardinality := ⟨.one, .one⟩ },
      { source := "D", target := "D", cardinality := ⟨.one, .one⟩ }]

theorem exists_layers_apart_fork :
    ∃ parts, Engine.parts .own fork.ends fork.entityNames = .ok parts ∧
      parts.flatten.flatten.Perm ["A", "B", "C", "D"] ∧
      ∃ m, engine .own (⟨⟨0, 0⟩, false, 1, 2⟩ : Layered.Frame ℝ) fork.ends fork.entityNames = .ok m ∧
        m.keys.Perm ["A", "B", "C", "D"] ∧
        ∀ e ∈ m.entries, ∀ e' ∈ m.entries, e.1 ≠ e'.1 → 1 ≤ e.2.distance e'.2 := by
  obtain ⟨parts, hparts, hperm, _, _, happart⟩ :=
    exists_layers_apart GraphLibrary.own_documented fork (by decide) (by decide)
  obtain ⟨m, hm, _, hkeys, hdistance⟩ := happart ⟨⟨0, 0⟩, false, 1, 2⟩ one_pos two_pos
  refine ⟨parts, hparts, hperm, m, hm, hkeys, fun e he e' he' hne => ?_⟩
  have hmin : min (1 : ℝ) 2 = 1 := min_eq_left one_le_two
  exact hmin ▸ (hdistance e he e' he' hne).1

end ErDiagram.Diagram
