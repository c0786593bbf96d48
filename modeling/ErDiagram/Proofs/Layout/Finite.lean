import ErDiagram.Proofs.Layout.Faults
import ErDiagram.Proofs.Layout.Keys
import ErDiagram.Proofs.Layout.Radial

/-!
# What a layout returns is finite

A layout ends by giving places to the entities that have no finite one, and these places are
rounded to whole numbers, so that nothing infinite is ever returned. But only finite numbers can
be rounded: where a strategy rounds what it has computed, or where a place is tried beside a point
that is not finite, there is no result at all. The check for finite places comes too late for
that.

A layout has a result exactly if what is computed can be rounded where it is rounded, and if in
all places that are tried, up to the first one that is free, nothing infinite turns up.

To say this, a layout is taken apart into what a strategy computes (`computed`) and the passes
that fill in what is missing (`passes`): one that the strategy ends with itself, unless it is the
grid or the layered one, and one that follows every strategy. Then the condition of success is
followed from the inside: a try needs a place that can be rounded, an entity needs this of all its
tries up to a free one (`CanPlace`), a pass needs it of every entity whose turn it is (`CanFill`),
and a layout of all its passes (`CanFillAll`). At each stage the condition is proved to be
necessary as well, so that it says when there is a result and not only when one is safe.

Nothing is assumed of floating-point arithmetic but that rounding succeeds on finite numbers and
gives finite ones, which are facts about the definition of rounding.
-/

namespace ErDiagram.Layout

/-! ## Trying places

A place is tried at a time, and one that cannot be rounded stops the search. So whether a place is
found depends on what is tried up to the first that is free. -/

/-- The source of random numbers after a number of tries. Every try takes one number, so that
which source a try starts from does not depend on what became of the tries before. -/
def afterTries (t : Twister) : ℕ → Twister
  | 0 => t
  | i + 1 => ((afterTries t i).between (-0.1) 0.1).2

/-- The place of some try, before it is rounded. With it all eight places can be spoken of, also
those that come after a free one and are never computed. -/
def tried (base : Point Float) (t : Twister) (i : ℕ) : Point Float :=
  base.toward
    (Float.ofNat i * FloatScalar.pi / 4.0 + ((afterTries t i).between (-0.1) 0.1).1)
    (firstOffset + Float.ofNat i * offsetStep)

/-- Whether a place, once it is rounded, is far enough from all others. A place that cannot be
rounded is not free. -/
def IsFree (others : List (Point Float)) (p : Point Float) : Prop :=
  ∃ q, p.snapped = .ok q ∧ freeDistance ≤ clearance q others

theorem points_eq_ok_iff {l : List (Option (Point Float))} {ps : List (Point Float)} :
    points l = .ok ps ↔ l = ps.map some := by
  induction l generalizing ps with
  | nil =>
    rw [points, Except.ok.injEq, eq_comm (a := []), eq_comm (a := []), List.map_eq_nil_iff]
  | cons v l ih =>
    cases v with
    | none =>
      refine ⟨nofun, fun h => ?_⟩
      obtain ⟨_, _, _, h, _⟩ := List.map_eq_cons_iff.1 h.symm
      cases h
    | some p =>
      rw [points, Except.map_eq_ok]
      constructor
      · rintro ⟨ps', hps', rfl⟩
        rw [ih.1 hps', List.map_cons]
      · intro h
        obtain ⟨p', ps', rfl, hp, hps'⟩ := List.map_eq_cons_iff.1 h.symm
        cases hp
        exact ⟨ps', ih.2 hps'.symm, rfl⟩

section Tries

variable {base : Point Float} {others : List (Point Float)} {t : Twister}

/-- **One try**: if its place can be rounded and is free, it is taken; if it is not free, the
next place is tried. -/
theorem tryPlaces_succ (left attempt : ℕ) (best : Best) :
    tryPlaces base (others.map some) (left + 1) attempt best (afterTries t attempt)
      = (tried base t attempt).snapped >>= fun q =>
        if freeDistance ≤ clearance q others then .ok (some q, afterTries t (attempt + 1))
        else tryPlaces base (others.map some) left (attempt + 1)
          (if best.clearance < clearance q others then ⟨some q, clearance q others⟩ else best)
          (afterTries t (attempt + 1)) := by
  have hpoints : points (others.map some) = .ok others := points_eq_ok_iff.2 rfl
  rw [tryPlaces, hpoints]
  rfl

/-- **Places can be tried** exactly if they are finite up to the first one that is free. The
induction is on the tries that are left, and the condition on the later tries only counts if this
one is not free. -/
theorem exists_tryPlaces_iff (left attempt : ℕ) (best : Best) :
    (∃ r, tryPlaces base (others.map some) left attempt best (afterTries t attempt) = .ok r) ↔
      ∀ i, attempt ≤ i → i < attempt + left →
        (∀ j, attempt ≤ j → j < i → ¬ IsFree others (tried base t j)) →
        (tried base t i).isFinite = true := by
  induction left generalizing attempt best with
  | zero => exact ⟨fun _ i hi hi' => by omega, fun _ => ⟨_, rfl⟩⟩
  | succ left ih =>
    rw [tryPlaces_succ]
    constructor
    · rintro ⟨r, hr⟩ i hi hi' hnot
      obtain ⟨q, hq, hr⟩ := Except.bind_eq_ok.1 hr
      rcases hi.eq_or_lt with rfl | hlt
      · exact Point.exists_snapped_iff.1 ⟨q, hq⟩
      · have hfree : ¬ freeDistance ≤ clearance q others := fun h =>
          hnot attempt le_rfl hlt ⟨q, hq, h⟩
        rw [if_neg hfree] at hr
        exact (ih _ _).1 ⟨r, hr⟩ i hlt (by omega) fun j hj => hnot j (by omega)
    · intro h
      obtain ⟨q, hq⟩ := Point.exists_snapped_iff.2
        (h attempt le_rfl (by omega) fun j hj hj' => by omega)
      rw [hq]
      by_cases hfree : freeDistance ≤ clearance q others
      · exact ⟨_, if_pos hfree⟩
      · have hnot : ¬ IsFree others (tried base t attempt) := by
          rintro ⟨q', hq', hfree'⟩
          cases hq.symm.trans hq'
          exact hfree hfree'
        obtain ⟨r, hr⟩ := (ih _ _).2 fun i hi hi' hrest => h i (by omega) (by omega) fun j hj hj' =>
          hj.eq_or_lt.elim (fun heq => heq ▸ hnot) fun hlt => hrest j hlt hj'
        exact ⟨r, (if_neg hfree).trans hr⟩

/-- **A place that is found has been rounded.** Rounding fails for all numbers that are not
finite, and a place is compared with others only after it was rounded. -/
theorem isFinite_of_tryPlaces {others : List (Option (Point Float))} {left attempt : ℕ}
    {best : Best} {t t' : Twister} {found : Option (Point Float)}
    (hbest : ∀ p ∈ best.point, p.isFinite = true)
    (h : tryPlaces base others left attempt best t = .ok (found, t')) :
    ∀ p ∈ found, p.isFinite = true := by
  induction left generalizing attempt best t with
  | zero =>
    cases h
    exact hbest
  | succ left ih =>
    rw [tryPlaces] at h
    dsimp only at h
    obtain ⟨q, hq, h⟩ := Except.bind_eq_ok.1 h
    obtain ⟨ps, -, h⟩ := Except.bind_eq_ok.1 h
    have hfinite : ∀ p ∈ some q, p.isFinite = true := fun p hp => by
      cases hp
      exact Point.isFinite_of_snapped hq
    split at h
    · cases h
      exact hfinite
    · refine ih ?_ h
      split
      · exact hfinite
      · exact hbest

end Tries

/-! ## Placing one entity -/

/-- Where an entity is placed: around the centroid of its neighbours that have a point, or else
around the centre. Neighbours without a point make the placing fail; they are left out here so
that the point can be spoken of before this is known. -/
def basePoint (g : Graph) (centre : Point Float) (m : SpotMap) (name : String) : Point Float :=
  let partners := ((g.neighbours name).filterMap m.get?).filterMap id
  if partners.isEmpty then centre else centroid partners

/-- **Whether a place can be looked for**: each other entity has a point, and the places that are
tried are finite, up to the first one that is free.

The first field is there because a try compares its distance with all others; one without a point
stops it. The second asks only for the tries that are made: a place that comes after a free one
may be infinite without harm. -/
structure CanPlace (g : Graph) (centre : Point Float) (s : Placing) (name : String) : Prop where
  /-- Each entity that is in the map has a point. One without would stop the search for a place,
  as distances from it are not known. -/
  others : ∀ v ∈ s.spots.values, v.isSome = true
  /-- What is tried is finite, as far as it gets tried: a place that is free ends the search, and
  the places behind it do not matter. -/
  finite : ∀ i < attempts,
    (∀ j < i, ¬ IsFree (s.spots.values.filterMap id)
      (tried (basePoint g centre s.spots name) s.random j)) →
    (tried (basePoint g centre s.spots name) s.random i).isFinite = true

section Placing

variable {g : Graph} {centre : Point Float} {s s' : Placing} {name : String}

/-- Where nothing has a place, an entity is placed around the centre. -/
theorem basePoint_eq_centre {m : SpotMap} (h : ∀ n, m.get? n = none) :
    basePoint g centre m name = centre := by
  rw [basePoint, List.filterMap_eq_nil_iff.2 fun n _ => h n]
  rfl

/-- **Nothing can be placed around a point that is not finite.** The first try is at a finite
distance from it, which is not enough to get back to finite numbers. -/
theorem CanPlace.isFinite_basePoint (h : CanPlace g centre s name) :
    (basePoint g centre s.spots name).isFinite = true := by
  have htried := h.finite 0 (by decide) fun j hj => absurd hj j.not_lt_zero
  rw [tried, Point.toward, Point.isFinite, Bool.and_eq_true] at htried
  rw [Point.isFinite, Bool.and_eq_true]
  exact ⟨FloatScalar.isFinite_of_isFinite_add htried.1,
    FloatScalar.isFinite_of_isFinite_add htried.2⟩

theorem forall_isSome_iff {l : List (Option (Point Float))} :
    (∀ v ∈ l, v.isSome = true) ↔ ∃ ps : List (Point Float), l = ps.map some := by
  constructor
  · intro h
    induction l with
    | nil => exact ⟨[], rfl⟩
    | cons v l ih =>
      obtain ⟨hv, hl⟩ := List.forall_mem_cons.1 h
      obtain ⟨p, rfl⟩ := Option.isSome_iff_exists.1 hv
      obtain ⟨ps, rfl⟩ := ih hl
      exact ⟨p :: ps, rfl⟩
  · rintro ⟨ps, rfl⟩ v hv
    obtain ⟨p, -, rfl⟩ := List.mem_map.1 hv
    rfl

theorem filterMap_id_map_some (ps : List (Point Float)) : (ps.map some).filterMap id = ps := by
  rw [List.filterMap_map]
  exact List.filterMap_some

theorem mem_values_of_get? {m : SpotMap} {v : Option (Point Float)} (h : m.get? name = some v) :
    v ∈ m.values := List.mem_map_of_mem (OrderedMap.mem_entries_of_get?_eq_some h)

/-- Trying a place needs the points of all other entities. This is the reason for the first field
of `CanPlace`. -/
theorem forall_isSome_of_tryPlaces {base : Point Float} {others : List (Option (Point Float))}
    {left attempt : ℕ} {best : Best} {t : Twister} {r : Option (Point Float) × Twister}
    (h : tryPlaces base others (left + 1) attempt best t = .ok r) :
    ∀ v ∈ others, v.isSome = true := by
  rw [tryPlaces] at h
  dsimp only at h
  obtain ⟨q, -, h⟩ := Except.bind_eq_ok.1 h
  obtain ⟨ps, hps, -⟩ := Except.bind_eq_ok.1 h
  exact forall_isSome_iff.2 ⟨ps, points_eq_ok_iff.1 hps⟩

/-- **Where each entity has a point**, an entity is placed by trying places. -/
theorem placeNear_eq (h : ∀ v ∈ s.spots.values, v.isSome = true) :
    placeNear g centre s name =
      tryPlaces (basePoint g centre s.spots name) s.spots.values attempts 0 {} s.random >>=
        fun r => .ok { spots := s.spots.insert name r.1, random := r.2 } := by
  have hsome : ∀ v ∈ (g.neighbours name).filterMap s.spots.get?, v.isSome = true := by
    intro v hv
    obtain ⟨n, -, hn⟩ := List.mem_filterMap.1 hv
    exact h v (mem_values_of_get? hn)
  obtain ⟨partners, hpartners⟩ := forall_isSome_iff.1 hsome
  rw [placeNear, basePoint, hpartners, points_eq_ok_iff.2 rfl, filterMap_id_map_some]
  rfl

/-- **An entity is placed exactly if a place can be looked for.** -/
theorem exists_placeNear_iff :
    (∃ s', placeNear g centre s name = .ok s') ↔ CanPlace g centre s name := by
  have hothers : ∀ s', placeNear g centre s name = .ok s' →
      ∀ v ∈ s.spots.values, v.isSome = true := by
    intro s' hs'
    unfold placeNear at hs'
    obtain ⟨_, -, hs'⟩ := Except.bind_eq_ok.1 hs'
    obtain ⟨_, htry, -⟩ := Except.bind_eq_ok.1 hs'
    exact forall_isSome_of_tryPlaces htry
  constructor
  · rintro ⟨s', hs'⟩
    have hsome := hothers s' hs'
    refine ⟨hsome, fun i hi hnot => ?_⟩
    rw [placeNear_eq hsome] at hs'
    obtain ⟨r, hr, -⟩ := Except.bind_eq_ok.1 hs'
    obtain ⟨ps, hps⟩ := forall_isSome_iff.1 hsome
    rw [hps, filterMap_id_map_some] at hnot
    rw [hps] at hr
    exact (exists_tryPlaces_iff attempts 0 {}).1 ⟨r, hr⟩ i i.zero_le (by omega)
      fun j _ hj => hnot j hj
  · rintro ⟨hsome, hfinite⟩
    obtain ⟨ps, hps⟩ := forall_isSome_iff.1 hsome
    rw [hps, filterMap_id_map_some] at hfinite
    obtain ⟨r, hr⟩ := (exists_tryPlaces_iff attempts 0 {}).2
      fun i _ hi hnot => hfinite i (by omega) fun j hj => hnot j j.zero_le hj
    rw [placeNear_eq hsome, hps]
    exact ⟨_, Except.bind_eq_ok.2 ⟨r, hr, rfl⟩⟩

/-- What is found for an entity is finite. -/
theorem isFinite_of_placeNear (h : placeNear g centre s name = .ok s') :
    ∃ v, s'.spots = s.spots.insert name v ∧ ∀ p ∈ v, p.isFinite = true := by
  unfold placeNear at h
  obtain ⟨_, -, h⟩ := Except.bind_eq_ok.1 h
  obtain ⟨⟨found, random⟩, htry, h⟩ := Except.bind_eq_ok.1 h
  cases h
  exact ⟨found, rfl, isFinite_of_tryPlaces (fun _ hp => absurd hp (Option.not_mem_none _)) htry⟩

end Placing

/-! ## Filling in

Each entity is settled when it is its turn, and not touched after that. A pass succeeds if each
turn does, and one lemma about folds says so. -/

/-- Whether an entity has no point, or one that is finite. It is what a pass brings about for each
entity, and weaker than having a finite place: whether a place was found is a matter of its own. -/
def SpotMap.IsSettled (m : SpotMap) (name : String) : Prop :=
  ∀ p, m.get? name = some (some p) → p.isFinite = true

section Filling

variable {g : Graph} {names : List String} {centre : Point Float}

theorem isSettled_of_isPlaced {m : SpotMap} {name : String} (h : m.isPlaced name = true) :
    m.IsSettled name := by
  intro p hp
  unfold SpotMap.isPlaced at h
  rw [hp] at h
  exact h

/-- **Filling in one entity settles it** and changes no other. -/
theorem isSettled_of_placeIfMissing {s s' : Placing} {name : String}
    (h : placeIfMissing g centre s name = .ok s') :
    s'.spots.IsSettled name ∧ ∀ n, n ≠ name → s'.spots.get? n = s.spots.get? n := by
  unfold placeIfMissing at h
  split at h
  · next hplaced =>
    cases h
    exact ⟨isSettled_of_isPlaced hplaced, fun _ _ => rfl⟩
  · obtain ⟨v, hv, hfinite⟩ := isFinite_of_placeNear h
    rw [hv]
    refine ⟨fun p hp => hfinite p ?_, fun n hn => ?_⟩
    · rw [OrderedMap.get?_insert, if_pos rfl, Option.some.injEq] at hp
      exact hp
    · rw [OrderedMap.get?_insert, if_neg hn, OrderedMap.get?_erase, if_neg hn]

theorem placeAll_eq_foldlM (s : Placing) (names : List String) :
    placeAll g centre s names = names.foldlM (placeIfMissing g centre) s := by
  induction names generalizing s with
  | nil => rfl
  | cons name rest ih =>
    rw [placeAll, List.foldlM_cons]
    exact congrArg _ (funext ih)

/-- **Filling in all entities settles them all.** An entity is settled when it is its turn and is
not touched after that. -/
theorem isSettled_of_placeAll {s s' : Placing} (h : placeAll g centre s names = .ok s') {n : String}
    (hn : n ∈ names ∨ s.spots.IsSettled n) : s'.spots.IsSettled n := by
  induction names generalizing s with
  | nil =>
    cases h
    exact hn.resolve_left List.not_mem_nil
  | cons name rest ih =>
    rw [placeAll] at h
    obtain ⟨s₁, hs₁, h⟩ := Except.bind_eq_ok.1 h
    obtain ⟨hname, hothers⟩ := isSettled_of_placeIfMissing hs₁
    refine ih h ?_
    by_cases heq : n = name
    · exact .inr (heq ▸ hname)
    · refine hn.imp (fun hmem => (List.mem_cons.1 hmem).resolve_left heq) fun hsettled p hp => ?_
      rw [hothers n heq] at hp
      exact hsettled p hp

/-- Where all entities have finite places, nothing is filled in. -/
theorem placeAll_of_isPlaced {s : Placing} (h : ∀ n ∈ names, s.spots.isPlaced n = true) :
    placeAll g centre s names = .ok s := by
  induction names with
  | nil => rfl
  | cons name rest ih =>
    obtain ⟨hname, hrest⟩ := List.forall_mem_cons.1 h
    rw [placeAll, placeIfMissing, if_pos hname]
    exact ih hrest

/-- **What happens in one pass**: whenever it is the turn of an entity without a finite place, a
place can be looked for. The state that this is asked of is the one after the entities before it,
if these could be filled in; the entity itself has been taken out of the map. -/
def CanFill (g : Graph) (names : List String) (centre : Point Float) (random : Twister)
    (m : SpotMap) : Prop :=
  ∀ before name after s, names = before ++ name :: after →
    placeAll g centre { spots := m, random } before = .ok s → s.spots.isPlaced name = false →
    CanPlace g centre { s with spots := s.spots.erase name } name

/-- **A pass succeeds exactly if** it can fill in every entity that is its turn. -/
theorem exists_fillMissing_iff {random : Twister} {m : SpotMap} :
    (∃ m', fillMissing g names centre random m = .ok m') ↔ CanFill g names centre random m := by
  have hstep : ∀ s name, (∃ s', placeIfMissing g centre s name = .ok s') ↔
      (s.spots.isPlaced name = false →
        CanPlace g centre { s with spots := s.spots.erase name } name) := by
    intro s name
    unfold placeIfMissing
    by_cases hplaced : s.spots.isPlaced name = true
    · rw [if_pos hplaced]
      exact ⟨fun _ hnot => absurd hplaced (by rw [hnot]; decide), fun _ => ⟨s, rfl⟩⟩
    · rw [if_neg hplaced, exists_placeNear_iff]
      exact ⟨fun h _ => h, fun h => h (Bool.not_eq_true _ ▸ hplaced)⟩
  have hall : (∃ m', fillMissing g names centre random m = .ok m') ↔
      ∃ s', placeAll g centre { spots := m, random } names = .ok s' := by
    unfold fillMissing
    refine ⟨fun ⟨m', h⟩ => ?_, fun ⟨s', h⟩ => ⟨s'.spots, by rw [h]; rfl⟩⟩
    obtain ⟨s', hs', -⟩ := Except.bind_eq_ok.1 h
    exact ⟨s', hs'⟩
  rw [hall, placeAll_eq_foldlM, Except.exists_foldlM_eq_ok_iff]
  simp only [hstep, CanFill, placeAll_eq_foldlM]

end Filling

/-! ## Strategies -/

/-- **A pass over the entities** that fills in what is missing. Two passes differ in these two
things only. -/
structure Pass where
  /-- Where an entity goes that has no neighbour with a place. -/
  centre : Point Float
  /-- The source of random numbers. -/
  random : Twister

/-- Fills in what is missing, pass after pass. -/
def fillAll (g : Graph) (names : List String) (passes : List Pass) (m : SpotMap) :
    Except LayoutError SpotMap :=
  passes.foldlM (fun m pass => fillMissing g names pass.centre pass.random m) m

/-- What is placed along the backbone before anything is filled in. No place is rounded, and so
nothing can fail. -/
def Chain.computed (g : Graph) (names : List String) (rowHeight : Float) : PositionMap Float :=
  addRemainder names g.backbone rowHeight
    (addAllBranches g g.backbone (.ofList (backbonePlaces g.backbone)))

/-- The ends of the springs, by their places among the names. -/
def Force.springs (g : Graph) (names : List String) : List (ℕ × ℕ) :=
  g.indexedEdges.map fun (i, k) =>
    (lastIndex names (g.names.getD i ""), lastIndex names (g.names.getD k ""))

/-- The circle that forces start from, and the source of random numbers after it. -/
def Force.start (names : List String) (s : Settings) : List (Point Float) × Twister :=
  circle s names.length names.length 0 (.ofSeed s.layoutSeed)

/-- What is placed by forces before anything is filled in; one entity alone is not moved, and its
place is not rounded, so that it is put in the centre even if that is infinite. -/
def Force.computed (g : Graph) (names : List String) (s : Settings) :
    Except LayoutError (PositionMap Float) :=
  match names with
  | [] => .ok .empty
  | [name] => .ok (OrderedMap.empty.insert name s.forceCenter)
  | _ => do
    let ps ← run s (springs g names) s.forceIterations.toNat (start names s).1.toArray
    snapAll (names.zip ps.toList) .empty

/-- **What a strategy computes** before anything is filled in. Only the radial strategy and that
by forces can fail here, since only these round. -/
def computed (t : Strategy) (a : Analysis) (ends : List (String × String)) (names : List String)
    (s : Settings) : Except LayoutError (PositionMap Float) :=
  if names.isEmpty then .ok .empty
  else match t with
  | .radial => Radial.afterIsolated a names.length s
  | .chain => .ok (Chain.computed a.graph names s.gridCellHeight)
  | .force => Force.computed a.graph names s
  | .layered => .ok (layeredOrGrid a ends names s)
  | .grid => .ok (grid s.gridFrame (columnsFor names.length) a.graph names)

/-- The pass that a strategy ends with, if it has one. The grid and the layers place everything
and have none, and neither have forces with at most one entity. -/
def ownPass (t : Strategy) (names : List String) (s : Settings) : List Pass :=
  match t with
  | .radial => [⟨(Radial.measures names.length).centre, .ofSeed s.layoutSeed⟩]
  | .chain => [⟨Chain.start, .ofSeed s.layoutSeed⟩]
  | .force => if names.length ≤ 1 then [] else [⟨s.forceCenter, (Force.start names s).2⟩]
  | .layered => []
  | .grid => []

theorem force_eq (g : Graph) (names : List String) (s : Settings) :
    force g names s = Force.computed g names s >>= fun m =>
      fillAll g names (ownPass .force names s) (.ofPositions m) := by
  unfold force Force.computed
  rcases names with _ | ⟨name, _ | ⟨name', rest⟩⟩
  · rfl
  · rfl
  · have hlength : ¬ (name :: name' :: rest).length ≤ 1 := by simp
    rw [ownPass, if_neg hlength]
    simp only [bind_assoc, fillAll, List.foldlM_cons, List.foldlM_nil, bind_pure]
    rfl

section Force

variable {s : Settings}

/-- **Forces move everything to the end**, unless steps are shortened to less than nothing. -/
theorem Force.exists_run (h : ¬ s.forceMaxStep < 0) (edges : List (ℕ × ℕ)) (steps : ℕ)
    (ps : Array (Point Float)) : ∃ ps', run s edges steps ps = .ok ps' := by
  cases hrun : run s edges steps ps with
  | error e =>
    have hneg : FailsBy (fun _ => s.forceMaxStep < 0) (run s edges steps ps) :=
      failsBy_run id edges steps ps
    exact absurd (hneg e hrun) h
  | ok ps' => exact ⟨ps', rfl⟩

/-- **Places are rounded** exactly if all of them are finite. One that is not finite is enough to
have no result. -/
theorem Force.exists_snapAll_iff {l : List (String × Point Float)} {m : PositionMap Float} :
    (∃ m', snapAll l m = .ok m') ↔ ∀ e ∈ l, e.2.isFinite = true := by
  induction l generalizing m with
  | nil => exact ⟨fun _ => nofun, fun _ => ⟨m, rfl⟩⟩
  | cons e l ih =>
    rw [snapAll, List.forall_mem_cons]
    constructor
    · rintro ⟨m', h⟩
      obtain ⟨q, hq, h⟩ := Except.bind_eq_ok.1 h
      exact ⟨Point.exists_snapped_iff.1 ⟨q, hq⟩, ih.1 ⟨m', h⟩⟩
    · rintro ⟨he, hl⟩
      obtain ⟨q, hq⟩ := Point.exists_snapped_iff.2 he
      rw [hq]
      exact ih.2 hl

/-- **Where forces have no result**: steps are shortened to less than nothing, or some entity ends
in a place that is not finite. Without a negative bound the moving itself cannot fail. -/
theorem Force.exists_computed (g : Graph) (names : List String) (s : Settings) :
    (∃ m, computed g names s = .ok m) ∨ s.forceMaxStep < 0 ∨
      ∃ ps, run s (springs g names) s.forceIterations.toNat (start names s).1.toArray = .ok ps ∧
        ∃ e ∈ names.zip ps.toList, e.2.isFinite = false := by
  by_cases hneg : s.forceMaxStep < 0
  · exact .inr (.inl hneg)
  obtain ⟨ps, hps⟩ := exists_run hneg (springs g names) s.forceIterations.toNat
    (start names s).1.toArray
  by_cases hall : ∀ e ∈ names.zip ps.toList, e.2.isFinite = true
  · refine .inl ?_
    unfold computed
    split
    · exact ⟨_, rfl⟩
    · exact ⟨_, rfl⟩
    · rw [hps]
      exact exists_snapAll_iff.2 hall
  · push Not at hall
    obtain ⟨e, he, hfinite⟩ := hall
    exact .inr (.inr ⟨ps, hps, e, he, Bool.not_eq_true _ ▸ hfinite⟩)

end Force

theorem fillAll_append {g : Graph} {names : List String} (l l' : List Pass) (m : SpotMap) :
    fillAll g names (l ++ l') m = fillAll g names l m >>= fillAll g names l' :=
  List.foldlM_append

theorem fillAll_singleton {g : Graph} {names : List String} (pass : Pass) (m : SpotMap) :
    fillAll g names [pass] m = fillMissing g names pass.centre pass.random m := by
  simp only [fillAll, List.foldlM_cons, List.foldlM_nil, bind_pure]

/-- Where there are no entities, nothing is filled in. -/
theorem fillAll_nil {g : Graph} (l : List Pass) (m : SpotMap) : fillAll g [] l m = .ok m := by
  induction l with
  | nil => rfl
  | cons pass l ih => exact ih

/-- **A strategy computes places and fills in what is missing.** -/
theorem raw_eq (t : Strategy) (a : Analysis) (ends : List (String × String))
    (names : List String) (s : Settings) :
    raw t a ends names s = computed t a ends names s >>= fun m =>
      fillAll a.graph names (ownPass t names s) (.ofPositions m) := by
  unfold raw computed
  by_cases hempty : names.isEmpty = true
  · rw [if_pos hempty, if_pos hempty, List.isEmpty_iff.1 hempty]
    exact (fillAll_nil _ _).symm
  · rw [if_neg hempty, if_neg hempty]
    cases t with
    | radial =>
      simp only [ownPass, fillAll_singleton]
      exact radial_eq a names s
    | chain =>
      simp only [ownPass, fillAll_singleton]
      rfl
    | force => exact force_eq a.graph names s
    | layered => rfl
    | grid => rfl

end ErDiagram.Layout

namespace ErDiagram.Diagram

open Layout

/-- The passes of a layout: that of the strategy, and one around the centre of the settings. -/
def passes (d : Diagram) (t : Strategy) (s : Settings) : List Pass :=
  ownPass t d.entityNames s ++ [⟨s.forceCenter, .ofSeed s.layoutSeed⟩]

/-- **A layout computes places and fills in what is missing.** -/
theorem spots_eq (d : Diagram) (a : Analysis) (t : Strategy) (s : Settings) :
    d.spots a t s = computed t a d.ends d.entityNames s >>= fun m =>
      fillAll a.graph d.entityNames (d.passes t s) (.ofPositions m) := by
  unfold spots passes
  simp only [raw_eq, bind_assoc, fillAll_append]
  exact congrArg _ (funext fun _ => congrArg _ (funext fun _ =>
    (fillAll_singleton ⟨s.forceCenter, .ofSeed s.layoutSeed⟩ _).symm))

/-- **Whether all that is missing can be filled in**: each pass can fill in what it finds, and
in the end no entity is without a point. -/
structure CanFillAll (d : Diagram) (t : Strategy) (s : Settings) (m : SpotMap) : Prop where
  /-- In each pass places can be looked for. -/
  pass : ∀ before p after m', d.passes t s = before ++ p :: after →
    fillAll d.analyze.graph d.entityNames before m = .ok m' →
    CanFill d.analyze.graph d.entityNames p.centre p.random m'
  /-- Each entity has a point in the end. -/
  complete : ∀ m', fillAll d.analyze.graph d.entityNames (d.passes t s) m = .ok m' →
    ∀ v ∈ m'.values, v.isSome = true

variable {d : Diagram} {t : Strategy} {s : Settings}

theorem exists_positions_iff {m : SpotMap} :
    (∃ p, m.positions = .ok p) ↔ ∀ v ∈ m.values, v.isSome = true := by
  unfold SpotMap.positions
  rw [← List.all_eq_true]
  split
  · next h => exact ⟨fun _ => h, fun _ => ⟨_, rfl⟩⟩
  · next h => exact ⟨nofun, fun hall => absurd hall h⟩

/-- The points of all entities are those of the spots. -/
theorem get?_of_positions {m : SpotMap} {p : PositionMap Float} (h : m.positions = .ok p)
    {e : String × Point Float} (he : e ∈ p.entries) : m.get? e.1 = some (some e.2) := by
  unfold SpotMap.positions at h
  split at h
  · cases h
    obtain ⟨⟨name, v⟩, hmem, hv⟩ := List.mem_filterMap.1 he
    obtain ⟨q, rfl, rfl⟩ := Option.map_eq_some_iff.1 hv
    exact OrderedMap.get?_eq_some_iff.2 hmem
  · cases h

/-- **A layout has a result exactly if** what it computes can be rounded where it is rounded, and
all that is missing can be filled in. -/
theorem exists_layout_iff :
    (∃ p, d.layout d.analyze t s = .ok p) ↔
      ∃ m, computed t d.analyze d.ends d.entityNames s = .ok m ∧
        d.CanFillAll t s (.ofPositions m) := by
  have hfill : ∀ m, (∃ m', fillAll d.analyze.graph d.entityNames (d.passes t s) m = .ok m') ↔
      ∀ before p after m', d.passes t s = before ++ p :: after →
        fillAll d.analyze.graph d.entityNames before m = .ok m' →
        CanFill d.analyze.graph d.entityNames p.centre p.random m' := by
    intro m
    simp only [fillAll, Except.exists_foldlM_eq_ok_iff, exists_fillMissing_iff]
  unfold layout
  rw [spots_eq]
  constructor
  · rintro ⟨p, hp⟩
    obtain ⟨m', hm', hp⟩ := Except.bind_eq_ok.1 hp
    obtain ⟨m, hm, hm'⟩ := Except.bind_eq_ok.1 hm'
    refine ⟨m, hm, (hfill _).1 ⟨m', hm'⟩, fun m'' hm'' => ?_⟩
    cases hm'.symm.trans hm''
    exact exists_positions_iff.1 ⟨p, hp⟩
  · rintro ⟨m, hm, hpass, hcomplete⟩
    obtain ⟨m', hm'⟩ := (hfill _).2 hpass
    obtain ⟨p, hp⟩ := exists_positions_iff.2 (hcomplete m' hm')
    exact ⟨p, Except.bind_eq_ok.2 ⟨m', Except.bind_eq_ok.2 ⟨m, hm, hm'⟩, hp⟩⟩

/-- **Whatever is returned is finite.** An entity whose place was not finite has been placed again
by the last pass, and there are no other entities in the map. -/
theorem isFinite_of_layout {p : PositionMap Float} (h : d.layout d.analyze t s = .ok p) :
    p.keys.Perm d.entityNames.eraseDups ∧ ∀ e ∈ p.entries, e.2.isFinite = true := by
  unfold layout at h
  obtain ⟨m, hm, hp⟩ := Except.bind_eq_ok.1 h
  have hkeys : ∀ n, n ∈ p.keys ↔ n ∈ d.entityNames := fun n => by
    rw [SpotMap.keys_of_positions_eq_ok hp]
    exact mem_keys_spots d.analyze_within hm n
  refine ⟨(List.perm_ext_iff_of_nodup p.nodup_keys (nodup_eraseDups _)).2 fun n =>
    (hkeys n).trans List.mem_eraseDups.symm, fun e he => ?_⟩
  -- the last pass settles all entities
  unfold spots fillMissing at hm
  obtain ⟨_, -, hm⟩ := Except.bind_eq_ok.1 hm
  obtain ⟨s', hs', hm⟩ := Except.bind_eq_ok.1 hm
  cases hm
  exact isSettled_of_placeAll hs' (.inl ((hkeys e.1).1 (OrderedMap.mem_keys_of_mem_entries he)))
    e.2 (get?_of_positions hp he)

theorem positions_ofPositions (m : PositionMap Float) :
    (SpotMap.ofPositions m).positions = .ok m := by
  have hvalues : (SpotMap.ofPositions m).values = m.values.map some := by
    unfold OrderedMap.values SpotMap.ofPositions OrderedMap.mapValues
    rw [List.map_map, List.map_map]
    rfl
  have hall : (SpotMap.ofPositions m).values.all Option.isSome = true :=
    List.all_eq_true.2 (forall_isSome_iff.2 ⟨_, hvalues⟩)
  have hpresent : (SpotMap.ofPositions m).present.entries = m.entries := by
    show (m.entries.map _).filterMap _ = m.entries
    rw [List.filterMap_map]
    exact List.filterMap_some
  rw [SpotMap.positions, if_pos hall]
  exact congrArg _ (OrderedMap.eq_of_entries_eq hpresent)

/-- **Finite places are returned as they are computed.** There is nothing to fill in then, and
nothing else changes them. -/
theorem layout_of_isFinite {m : PositionMap Float}
    (hm : computed t d.analyze d.ends d.entityNames s = .ok m)
    (h : ∀ n ∈ d.entityNames, ∃ p, m.get? n = some p ∧ p.isFinite = true) :
    d.layout d.analyze t s = .ok m := by
  have hplaced : ∀ n ∈ d.entityNames, (SpotMap.ofPositions m).isPlaced n = true := by
    intro n hn
    obtain ⟨p, hp, hfinite⟩ := h n hn
    rw [SpotMap.isPlaced, SpotMap.get?_ofPositions, hp]
    exact hfinite
  have hfill : ∀ l, fillAll d.analyze.graph d.entityNames l (.ofPositions m)
      = .ok (.ofPositions m) := by
    intro l
    induction l with
    | nil => rfl
    | cons pass l ih =>
      rw [fillAll, List.foldlM_cons, fillMissing, placeAll_of_isPlaced hplaced]
      exact ih
  rw [layout, spots_eq, hm]
  show fillAll _ _ _ _ >>= SpotMap.positions = _
  rw [hfill]
  exact positions_ofPositions m

/-- **One entity alone is placed by forces exactly if the centre is finite.** -/
theorem exists_layout_force_iff {n : String} (hn : d.entityNames = [n]) :
    (∃ p, d.layout d.analyze .force s = .ok p) ↔ s.forceCenter.isFinite = true := by
  have hm : computed .force d.analyze d.ends d.entityNames s
      = .ok (OrderedMap.empty.insert n s.forceCenter) := by
    rw [hn]
    rfl
  constructor
  · intro h
    obtain ⟨m, hm', hpass, -⟩ := exists_layout_iff.1 h
    cases hm.symm.trans hm'
    by_contra hcentre
    rw [Bool.not_eq_true] at hcentre
    have hpasses : d.passes .force s = [⟨s.forceCenter, .ofSeed s.layoutSeed⟩] := by
      rw [passes, hn]
      rfl
    have hmissing : (SpotMap.ofPositions (OrderedMap.empty.insert n s.forceCenter)).isPlaced n
        = false := by
      rw [SpotMap.isPlaced, SpotMap.get?_ofPositions, OrderedMap.get?_insert, if_pos rfl]
      exact hcentre
    have hplace := hpass [] _ [] _ hpasses rfl [] n [] _ hn rfl hmissing
    -- the entity is taken out, and nothing is left beside which it could be placed
    have hempty : ∀ x, ((SpotMap.ofPositions (OrderedMap.empty.insert n s.forceCenter)).erase
        n).get? x = none := by
      intro x
      rw [OrderedMap.get?_erase, SpotMap.get?_ofPositions, OrderedMap.get?_insert]
      split <;> rfl
    have hbase := hplace.isFinite_basePoint
    rw [basePoint_eq_centre hempty] at hbase
    exact Bool.false_ne_true (hcentre.symm.trans hbase)
  · intro hcentre
    refine ⟨_, layout_of_isFinite hm fun x hx => ⟨s.forceCenter, ?_, hcentre⟩⟩
    rw [hn, List.mem_singleton] at hx
    rw [hx, OrderedMap.get?_insert, if_pos rfl]

/-- **A layout returns finite places or nothing.** What it returns has one finite place for each
entity, and where the computed places are finite, it returns these. It returns something exactly
if what is computed can be rounded where it is rounded, and all that is missing can be filled in.
If it returns nothing, the reason is one of a few that its strategy and settings leave open. Apart
from the radial strategy only forces may fail before anything is filled in: if steps are shortened
to less than nothing, or if some entity ends in a place that is not finite. One entity alone is
placed by forces exactly if the centre of the settings is finite.

The settings are arbitrary, infinite numbers among them. This is what makes the conditions
necessary, since with the usual settings a place that is not finite does not come up. -/
theorem isFinite_layout (d : Diagram) (t : Strategy) (s : Settings) :
    (∀ p, d.layout d.analyze t s = .ok p →
      p.keys.Perm d.entityNames.eraseDups ∧ ∀ e ∈ p.entries, e.2.isFinite = true) ∧
    ((∃ p, d.layout d.analyze t s = .ok p) ↔
      ∃ m, computed t d.analyze d.ends d.entityNames s = .ok m ∧
        d.CanFillAll t s (.ofPositions m)) ∧
    (∀ m, computed t d.analyze d.ends d.entityNames s = .ok m →
      (∀ n ∈ d.entityNames, ∃ p, m.get? n = some p ∧ p.isFinite = true) →
      d.layout d.analyze t s = .ok m) ∧
    (∀ e, d.layout d.analyze t s = .error e → MayFail t s e) ∧
    ((∃ m, computed t d.analyze d.ends d.entityNames s = .ok m) ∨ t = .radial ∨
      t = .force ∧ (s.forceMaxStep < 0 ∨
        ∃ ps, Force.run s (Force.springs d.analyze.graph d.entityNames) s.forceIterations.toNat
            (Force.start d.entityNames s).1.toArray = .ok ps ∧
          ∃ e ∈ d.entityNames.zip ps.toList, e.2.isFinite = false)) ∧
    ∀ n, t = .force → d.entityNames = [n] →
      ((∃ p, d.layout d.analyze t s = .ok p) ↔ s.forceCenter.isFinite = true) := by
  refine ⟨fun p hp => isFinite_of_layout hp, exists_layout_iff,
    fun m hm h => layout_of_isFinite hm h, failsBy_layout d d.analyze t s, ?_,
    fun n ht hn => ht ▸ exists_layout_force_iff hn⟩
  by_cases hempty : d.entityNames.isEmpty = true
  · exact .inl ⟨_, if_pos hempty⟩
  unfold computed
  rw [if_neg hempty]
  cases t with
  | radial => exact .inr (.inl rfl)
  | force =>
    exact (Force.exists_computed d.analyze.graph d.entityNames s).imp_right fun h => .inr ⟨rfl, h⟩
  | chain | layered | grid => exact .inl ⟨_, rfl⟩

/-- A diagram of one entity, for which a layout by forces can be computed without computing a
sine. -/
def single : Diagram where
  entities := [{ name := "A" }]

theorem isFinite_layout_single :
    ∃ p, single.layout single.analyze .force {} = .ok p ∧ p.keys.Perm ["A"] ∧
      ∀ e ∈ p.entries, e.2.isFinite = true := by
  obtain ⟨hfinite, -, -, -, -, hforce⟩ := isFinite_layout single .force {}
  obtain ⟨p, hp⟩ := (hforce "A" rfl rfl).2 (by decide)
  exact ⟨p, hp, hfinite p hp⟩

/-- **With an infinite centre one entity has no layout.** It is put in the centre, and then no
place beside the centre can be rounded. -/
theorem not_isFinite_layout :
    ¬ ∀ (d : Diagram) (t : Strategy) (s : Settings),
      ∃ p, d.layout d.analyze t s = .ok p ∧ ∀ e ∈ p.entries, e.2.isFinite = true := by
  intro h
  obtain ⟨p, hp, -⟩ := h single .force { forceCenterX := 1.0 / 0.0 }
  have hcentre := (exists_layout_force_iff (n := "A") rfl).1 ⟨p, hp⟩
  exact absurd hcentre (by decide)

end ErDiagram.Diagram
