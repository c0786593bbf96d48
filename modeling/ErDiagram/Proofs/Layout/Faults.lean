import ErDiagram.Layout.Placement
import ErDiagram.Proofs.Except
import ErDiagram.Proofs.Geometry.Finite

/-!
# Why a layout fails

Few things can go wrong while a diagram is placed. Rings are only asked for directions of at least
one entity, so that there is always something to share a turn among and something to compare; and
a step of a force is only divided by its length where it is longer than allowed, so that its
length is zero only if what is allowed is less than zero. What is left are numbers: a place that
is to be rounded has to be finite, a square of isolated entities can be too large for a
coordinate, and an entity for which no place was found has no point to be placed beside.

A layout is a long composition of functions that may fail, most of which only pass on the errors
of others. `FailsBy` says that all errors of a computation are of some kind, and is kept by
sequencing, so that each function has one lemma about the kind of its errors, which assumes as
much about the kind as the function needs: that it has rounding in it, or the division of a step
with a negative bound. At the end the kind is `MayFail`, in which the strategy and the settings
say which errors are possible.
-/

namespace ErDiagram.Layout

variable {α β : Type} {P : LayoutError → Prop}

/-- **Whether every error of a computation is of some kind.** Nothing is said of its results, so
that a computation which never fails has errors of every kind. -/
def FailsBy (P : LayoutError → Prop) (x : Except LayoutError α) : Prop :=
  ∀ e, x = .error e → P e

theorem failsBy_ok (a : α) : FailsBy P (.ok a) := by
  intro e he
  cases he

theorem failsBy_error {e : LayoutError} (h : P e) :
    FailsBy P (.error e : Except LayoutError α) := by
  rintro _ ⟨⟩
  exact h

/-- The errors of steps in a row are those of the steps. What comes second is asked for all
results of the first, whether or not they come up. -/
theorem FailsBy.bind {x : Except LayoutError α} {f : α → Except LayoutError β}
    (hx : FailsBy P x) (hf : ∀ a, FailsBy P (f a)) : FailsBy P (x >>= f) := by
  intro e he
  rcases Except.bind_eq_error.1 he with he | ⟨a, -, he⟩
  · exact hx e he
  · exact hf a e he

theorem FailsBy.map {x : Except LayoutError α} (hx : FailsBy P x) (f : α → β) :
    FailsBy P (x.map f) := by
  intro e he
  cases x with
  | error e' => exact hx e (congrArg _ (Except.error.inj he))
  | ok a => cases he

/-! ## Rounding -/

section Rounding

variable (hround : ∀ r, P (.rounding r))

include hround

theorem failsBy_snapped (p : Point Float) : FailsBy P p.snapped := by
  intro e he
  obtain ⟨r, -, rfl⟩ := Except.mapError_eq_error.1 he
  exact hround r

namespace Radial

variable {o : Measures} {minDistance : Float}

theorem failsBy_freeOnRing {uniform step : Float} {others : List (Point Float)}
    {fallback : Point Float} (left turn : ℕ) :
    FailsBy P (freeOnRing o minDistance uniform step others fallback left turn) := by
  induction left generalizing turn with
  | zero => exact failsBy_ok fallback
  | succ left ih =>
    rw [freeOnRing]
    refine (failsBy_snapped hround _).bind fun p => ?_
    split
    · exact failsBy_ok p
    · exact ih (turn + 1)

theorem failsBy_hubPlace {count index : ℕ} {m : PositionMap Float} {h : Hub} :
    FailsBy P (hubPlace o minDistance count m index h) := by
  refine (failsBy_snapped hround _).bind fun p => ?_
  split
  · exact failsBy_freeOnRing hround _ _
  · exact failsBy_ok p

theorem failsBy_placeHubs {count : ℕ} (index : ℕ) (hubs : List Hub) (m : PositionMap Float) :
    FailsBy P (placeHubs o minDistance count index hubs m) := by
  induction hubs generalizing index m with
  | nil => exact failsBy_ok m
  | cons h rest ih =>
    rw [placeHubs]
    exact (failsBy_hubPlace hround).bind fun p => ih _ _

theorem failsBy_placeAllHubs (hubs : List Hub) :
    FailsBy P (placeAllHubs o minDistance hubs) := by
  cases hubs with
  | nil => exact failsBy_ok _
  | cons first rest => exact failsBy_placeHubs hround _ _ _

theorem failsBy_placeOutward {origin : Point Float} {angle : Float} (step : ℕ)
    (entities : List String) (m : PositionMap Float) :
    FailsBy P (placeOutward o origin angle step entities m) := by
  induction entities generalizing step m with
  | nil => exact failsBy_ok m
  | cons name rest ih =>
    rw [placeOutward]
    split
    · exact ih _ _
    · exact (failsBy_snapped hround _).bind fun p => ih _ _

theorem failsBy_placeChains {g : Graph} {hubs : List String} (index : ℕ) (chains : List Chain)
    (m : PositionMap Float) : FailsBy P (placeChains o g hubs index chains m) := by
  induction chains generalizing index m with
  | nil => exact failsBy_ok _
  | cons c rest ih =>
    rw [placeChains]
    split
    · exact (ih _ _).bind fun _ => failsBy_ok _
    · exact (failsBy_placeOutward hround _ _ _).bind fun m => ih _ _

theorem failsBy_placeAround {centre : Point Float} {radius : Float}
    (places : List (String × Float)) (m : PositionMap Float) :
    FailsBy P (placeAround centre radius places m) := by
  induction places generalizing m with
  | nil => exact failsBy_ok m
  | cons e rest ih =>
    rw [placeAround]
    exact (failsBy_snapped hround _).bind fun p => ih _

omit hround in
/-- **A ring of at least one direction does not fail.** Its two errors are for a ring of nothing
and for one of less than nothing. -/
theorem failsBy_ringAngles {n : ℕ} (hn : n ≠ 0) (taken : List Float) :
    FailsBy P (ringAngles n taken) := by
  have hcount : ¬ (n : ℤ) = 0 := Int.natCast_ne_zero.2 hn
  unfold ringAngles
  dsimp only
  rw [if_neg hcount]
  split
  · exact failsBy_ok _
  · rw [Int.toNat_natCast, if_neg hn]
    exact failsBy_ok _

theorem failsBy_placeSatellites {g : Graph} {first : Bool} {h : Hub} {m : PositionMap Float} :
    FailsBy P (placeSatellites o g first h m) := by
  unfold placeSatellites
  split
  · exact failsBy_ok m
  · dsimp only
    split
    · exact failsBy_ok m
    · next hsome =>
      rw [List.isEmpty_iff, ← List.length_eq_zero_iff] at hsome
      exact (failsBy_ringAngles hsome _).bind fun angles => failsBy_placeAround hround _ _

theorem failsBy_placeAllSatellites {g : Graph} {main : Option String} (hubs : List Hub)
    (m : PositionMap Float) : FailsBy P (placeAllSatellites o g main hubs m) := by
  induction hubs generalizing m with
  | nil => exact failsBy_ok m
  | cons h rest ih =>
    rw [placeAllSatellites]
    exact (failsBy_placeSatellites hround).bind fun m => ih _

theorem failsBy_placeClusters (index : ℕ) (clusters : List Cluster) (m : PositionMap Float) :
    FailsBy P (placeClusters o minDistance index clusters m) := by
  induction clusters generalizing index m with
  | nil => exact failsBy_ok m
  | cons c rest ih =>
    rw [placeClusters]
    split
    · exact ih _ _
    · exact (failsBy_placeAround hround _ _).bind fun m => ih _ _

omit hround in
theorem failsBy_placeIsolated (hgreat : P .tooGreat) (isolated : List String)
    (m : PositionMap Float) : FailsBy P (placeIsolated o isolated m) := by
  have hbeyond : ∀ x steps, FailsBy P (beyond x steps) := by
    intro x steps
    unfold beyond
    dsimp only
    split
    · exact failsBy_ok _
    · exact failsBy_error hgreat
  unfold placeIsolated
  dsimp only
  generalize isolated.filter (!m.contains ·) = left
  generalize squareSide left.length = columns
  -- the square is filled one by one, from any index on
  suffices h : ∀ index m, FailsBy P (placeInSquare o columns index left m) from h 0 m
  induction left with
  | nil => exact fun _ m => failsBy_ok m
  | cons name rest ih =>
    intro index m
    rw [placeInSquare]
    refine FailsBy.bind ?_ fun p => ih _ _
    exact (hbeyond _ _).bind fun x => (hbeyond _ _).bind fun y => failsBy_ok _

end Radial

/-! ## Forces

Moving an entity is a computation with few places where it can fail, and these depend on a single
setting. They are found step by step, as errors pass through a row of steps unchanged. -/

namespace Force

variable {s : Settings}

omit hround in
/-- **Moving fails only if steps are shortened to less than nothing.** With another bound a length
that is longer than allowed is positive, or cannot be compared with zero at all. -/
theorem failsBy_step (hdivision : s.forceMaxStep < 0 → P .divisionByZero) (f : Vector) :
    FailsBy P (step s f) := by
  unfold step
  dsimp only
  split
  · next hlong =>
    split
    · next hzero => exact failsBy_error (hdivision (FloatScalar.lt_zero_of_lt hzero hlong))
    · exact failsBy_ok _
  · exact failsBy_ok _

omit hround in
theorem failsBy_move (hdivision : s.forceMaxStep < 0 → P .divisionByZero)
    (ps : List (Point Float)) (fs : List Vector) : FailsBy P (move s ps fs) := by
  induction ps generalizing fs with
  | nil => cases fs <;> exact failsBy_ok _
  | cons p ps ih =>
    cases fs with
    | nil => exact failsBy_ok _
    | cons f fs =>
      rw [move]
      exact (failsBy_step hdivision f).bind fun d => (ih fs).bind fun rest => failsBy_ok _

omit hround in
theorem failsBy_run (hdivision : s.forceMaxStep < 0 → P .divisionByZero)
    (edges : List (ℕ × ℕ)) (steps : ℕ) (ps : Array (Point Float)) :
    FailsBy P (run s edges steps ps) := by
  induction steps generalizing ps with
  | zero => exact failsBy_ok ps
  | succ steps ih =>
    rw [run]
    exact (failsBy_move hdivision _ _).bind fun moved => ih _

theorem failsBy_snapAll (l : List (String × Point Float)) (m : PositionMap Float) :
    FailsBy P (snapAll l m) := by
  induction l generalizing m with
  | nil => exact failsBy_ok m
  | cons e l ih =>
    rw [snapAll]
    exact (failsBy_snapped hround _).bind fun p => ih _

end Force

/-! ## Filling in -/

variable (hspot : P .noSpot)

include hspot

omit hround in
theorem failsBy_points (l : List (Option (Point Float))) : FailsBy P (points l) := by
  induction l with
  | nil => exact failsBy_ok _
  | cons v l ih =>
    cases v with
    | none => exact failsBy_error hspot
    | some p => exact ih.map _

theorem failsBy_tryPlaces {base : Point Float} {others : List (Option (Point Float))}
    (left attempt : ℕ) (best : Best) (t : Twister) :
    FailsBy P (tryPlaces base others left attempt best t) := by
  induction left generalizing attempt best t with
  | zero => exact failsBy_ok _
  | succ left ih =>
    rw [tryPlaces]
    dsimp only
    refine (failsBy_snapped hround _).bind fun p => (failsBy_points hspot _).bind fun ps => ?_
    split
    · exact failsBy_ok _
    · exact ih _ _ _

theorem failsBy_placeAll {g : Graph} {centre : Point Float} (s : Placing) (names : List String) :
    FailsBy P (placeAll g centre s names) := by
  have hnear : ∀ s name, FailsBy P (placeNear g centre s name) := fun s name =>
    (failsBy_points hspot _).bind fun partners =>
      (failsBy_tryPlaces hround hspot _ _ _ _).bind fun found => failsBy_ok _
  induction names generalizing s with
  | nil => exact failsBy_ok s
  | cons name rest ih =>
    rw [placeAll]
    refine FailsBy.bind ?_ fun s => ih s
    unfold placeIfMissing
    split
    · exact failsBy_ok s
    · exact hnear _ _

theorem failsBy_fillMissing {g : Graph} {names : List String} {centre : Point Float}
    {random : Twister} (m : SpotMap) : FailsBy P (fillMissing g names centre random m) :=
  (failsBy_placeAll hround hspot _ _).bind fun s => failsBy_ok s.spots

end Rounding

/-! ## Layouts -/

/-- **Why a layout may fail**, by its strategy and its settings. An error that is not listed is
not possible with any diagram: rings and grids always have something to divide by, and a strategy
that is a strategy has a name. -/
inductive MayFail (t : Strategy) (s : Settings) : LayoutError → Prop
  /-- A place that is not finite is to be rounded. -/
  | rounding (r : RoundingError) : MayFail t s (.rounding r)
  /-- No place was found for an entity. -/
  | noSpot : MayFail t s .noSpot
  /-- Steps of forces are shortened to less than nothing. -/
  | divisionByZero : t = .force → s.forceMaxStep < 0 → MayFail t s .divisionByZero
  /-- The square of isolated entities is too large. -/
  | tooGreat : t = .radial → MayFail t s .tooGreat

/-- **The errors of a strategy.** A strategy puts steps together, and fails by what one of its
steps fails by. -/
theorem failsBy_raw (t : Strategy) (a : Analysis) (ends : List (String × String))
    (names : List String) (s : Settings) : FailsBy (MayFail t s) (raw t a ends names s) := by
  have hround : ∀ r, MayFail t s (.rounding r) := .rounding
  have hfill : ∀ g centre random m,
      FailsBy (MayFail t s) (fillMissing g names centre random m) := fun _ _ _ m =>
    failsBy_fillMissing hround .noSpot m
  unfold raw
  split
  · exact failsBy_ok _
  · cases t with
    | radial =>
      refine (Radial.failsBy_placeAllHubs hround _).bind fun m => ?_
      refine (Radial.failsBy_placeChains hround _ _ _).bind fun placed => ?_
      refine (Radial.failsBy_placeAllSatellites hround _ _).bind fun m => ?_
      refine (Radial.failsBy_placeClusters hround _ _ _).bind fun m => ?_
      exact (Radial.failsBy_placeIsolated (.tooGreat rfl) _ _).bind fun m => hfill _ _ _ _
    | chain => exact hfill _ _ _ _
    | force =>
      dsimp only
      unfold force
      split
      · exact failsBy_ok _
      · exact failsBy_ok _
      · refine (Force.failsBy_run (.divisionByZero rfl) _ _ _).bind fun ps => ?_
        exact (Force.failsBy_snapAll hround _ _).bind fun m => hfill _ _ _ _
    | layered => exact failsBy_ok _
    | grid => exact failsBy_ok _

/-- **The errors of a layout.** Besides what the strategy fails by there is an entity that has no
spot in the end. -/
theorem failsBy_layout (d : Diagram) (a : Analysis) (t : Strategy) (s : Settings) :
    FailsBy (MayFail t s) (d.layout a t s) := by
  refine FailsBy.bind ?_ fun m => ?_
  · exact (failsBy_raw t a d.ends d.entityNames s).bind fun m =>
      failsBy_fillMissing .rounding .noSpot m
  · unfold SpotMap.positions
    split
    · exact failsBy_ok _
    · exact failsBy_error .noSpot

end ErDiagram.Layout
