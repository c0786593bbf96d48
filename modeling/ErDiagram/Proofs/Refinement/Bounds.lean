import ErDiagram.Proofs.Geometry.Real
import ErDiagram.Proofs.Refinement.Keys

/-!
# Bringing a map within the margin

Coordinates on one axis are shifted by what the least of them lacks to the margin, and not at all
if it lacks nothing. In exact arithmetic the least coordinate is then either the margin itself or
has stayed where it was, so that all are within the margin and nothing is left to be done. The two
axes are shifted each by its own amount, and all entities by the same two, so that the map is
moved as a whole and no farther than it has to be.

What a shift should be is said without a formula (`IsLeastShift`): zero if no coordinate is below
the margin, and otherwise such that the least coordinate comes to be the margin. The definition
that runs takes the greatest of zero and a difference; that the two agree is the content of the
first part, on one axis, where the list of coordinates is all there is.

The second part puts the axes together. The step that does it is that bringing a map within the
margin is always a shift by the two amounts, also where both are zero and the definition leaves
the map alone (`enforceBounds_eq_shifted`). This needs exact arithmetic, in which adding zero
changes nothing, and so does all that is proved here.
-/

namespace ErDiagram.Refinement

/-- **How far the coordinates on an axis have to be shifted**: not at all if none of them is below
the margin, and otherwise so far that the least of them comes to the margin. There are two fields
and not one bound, because a shift of zero is asked for in the first case also where the least
coordinate is far above the margin: a map is never pulled to the margin. For any list there is
exactly one such shift, so that the two fields say what it is and not only what it achieves. -/
structure IsLeastShift (margin : ℝ) (coordinates : List ℝ) (shift : ℝ) : Prop where
  /-- Coordinates that are within the margin stay where they are. -/
  none_below : (∀ c ∈ coordinates, margin ≤ c) → shift = 0
  /-- If one is below the margin, then the least one comes to be the margin. So all are within the
  margin, and a smaller shift would not do. -/
  some_below : (∃ c ∈ coordinates, c < margin) →
    IsLeast {c' | ∃ c ∈ coordinates, c + shift = c'} margin

/-- **A map that is moved as a whole** until it is within the margin. That all entities are where
they should be (`within`) would follow from how they are moved (`moved`), but it is what the pass
is for, and a reader should not have to derive it. -/
structure IsBroughtWithin (margin : ℝ) (m m' : PositionMap ℝ) : Prop where
  /-- The entities are the same, in the same order. -/
  keys_eq : m'.keys = m.keys
  /-- No coordinate is below the margin in the end. -/
  within : ∀ p ∈ m'.values, margin ≤ p.x ∧ margin ≤ p.y
  /-- All entities are moved by the same way, which is the shortest on each axis. The entries are
  compared as lists, so that the names and their order are a part of this. -/
  moved : ∃ dx dy,
    m'.entries = m.entries.map (fun e => (e.1, ⟨e.2.x + dx, e.2.y + dy⟩)) ∧
      IsLeastShift margin (m.values.map (·.x)) dx ∧ IsLeastShift margin (m.values.map (·.y)) dy

/-! ## One axis

The two axes are independent. On one of them there is a list of coordinates and a margin, and the
shift is by how far the least coordinate is below it, if it is. -/

section Axis

variable {margin : ℝ} {coordinates : List ℝ}

/-- **The least of a list** is one of its items and at most each of them. -/
theorem isLeast_leastOf (c : ℝ) (rest : List ℝ) :
    IsLeast {c' | c' ∈ c :: rest} (Scalar.leastOf c rest) := by
  have hleast : (c :: rest).min? = some (Scalar.leastOf c rest) := by
    rw [List.min?_cons', Scalar.leastOf, ← funext₂ Scalar.least_real]
  exact List.min?_eq_some_iff.1 hleast

theorem shiftFor_cons (margin c : ℝ) (rest : List ℝ) :
    shiftFor margin (c :: rest) = max 0 (margin - Scalar.leastOf c rest) := by
  rw [shiftFor, Scalar.greatest_real, Scalar.zero_real]

theorem shiftFor_nonneg (margin : ℝ) (coordinates : List ℝ) : 0 ≤ shiftFor margin coordinates := by
  cases coordinates with
  | nil => exact Scalar.zero_real.ge
  | cons c rest => exact shiftFor_cons margin c rest ▸ le_max_left _ _

/-- **What is shifted is within the margin.** The shift is that of the least coordinate, and no
other is less. -/
theorem le_add_shiftFor {c : ℝ} (hc : c ∈ coordinates) :
    margin ≤ c + shiftFor margin coordinates := by
  cases coordinates with
  | nil => cases hc
  | cons c₁ rest =>
    have hleast : Scalar.leastOf c₁ rest ≤ c := (isLeast_leastOf c₁ rest).2 hc
    rw [shiftFor_cons]
    linarith [le_max_right 0 (margin - Scalar.leastOf c₁ rest)]

/-- **Nothing is shifted** if nothing is below the margin. -/
theorem shiftFor_eq_zero_iff : shiftFor margin coordinates = 0 ↔ ∀ c ∈ coordinates, margin ≤ c := by
  cases coordinates with
  | nil => exact iff_of_true Scalar.zero_real nofun
  | cons c rest =>
    obtain ⟨hmem, hle⟩ := isLeast_leastOf c rest
    rw [shiftFor_cons, max_eq_left_iff, sub_nonpos]
    exact ⟨fun h c' hc' => h.trans (hle hc'), fun h => h _ hmem⟩

theorem shiftFor_nonpos_iff :
    shiftFor margin coordinates ≤ 0 ↔ ∀ c ∈ coordinates, margin ≤ c :=
  (shiftFor_nonneg margin coordinates).ge_iff_eq'.trans shiftFor_eq_zero_iff

theorem isLeastShift_shiftFor (margin : ℝ) (coordinates : List ℝ) :
    IsLeastShift margin coordinates (shiftFor margin coordinates) where
  none_below := shiftFor_eq_zero_iff.2
  some_below := by
    rintro ⟨c, hc, hlt⟩
    cases coordinates with
    | nil => cases hc
    | cons c₁ rest =>
      obtain ⟨hmem, hle⟩ := isLeast_leastOf c₁ rest
      refine ⟨⟨_, hmem, ?_⟩, ?_⟩
      · rw [shiftFor_cons, max_eq_right (by linarith [hle hc]), add_sub_cancel]
      · rintro _ ⟨c', hc', rfl⟩
        exact le_add_shiftFor hc'

end Axis

/-! ## The map -/

section Map

variable {margin : ℝ} {m : PositionMap ℝ}

/-- **There is nothing to be done** just if all entities are within the margin. The definition
asks the shifts of the two axes; this says it of the entities. -/
theorem boundsShift?_eq_none_iff :
    boundsShift? margin m = none ↔ ∀ p ∈ m.values, margin ≤ p.x ∧ margin ≤ p.y := by
  have hwithin : (∀ p ∈ m.values, margin ≤ p.x ∧ margin ≤ p.y) ↔
      shiftFor margin (m.values.map (·.x)) ≤ 0 ∧ shiftFor margin (m.values.map (·.y)) ≤ 0 := by
    rw [shiftFor_nonpos_iff, shiftFor_nonpos_iff, List.forall_mem_map, List.forall_mem_map,
      forall₂_and]
  rw [hwithin]
  unfold boundsShift?
  dsimp only
  rw [Scalar.zero_real]
  split
  · next h => exact iff_of_true rfl h
  · next h => exact iff_of_false nofun h

theorem shifted_zero (m : PositionMap ℝ) : shifted m 0 0 = m := by
  unfold shifted OrderedMap.mapValues
  simp

/-- **The map is moved by the shifts of its axes**, also if these are zero, so that what follows
need not tell apart whether the map was moved. -/
theorem enforceBounds_eq_shifted (margin : ℝ) (m : PositionMap ℝ) :
    enforceBounds margin m = shifted m (shiftFor margin (m.values.map (·.x)))
      (shiftFor margin (m.values.map (·.y))) := by
  unfold enforceBounds
  split
  · next hnone =>
    have hwithin := boundsShift?_eq_none_iff.1 hnone
    rw [shiftFor_eq_zero_iff.2 (List.forall_mem_map.2 fun p hp => (hwithin p hp).1),
      shiftFor_eq_zero_iff.2 (List.forall_mem_map.2 fun p hp => (hwithin p hp).2), shifted_zero]
  · next dx dy hsome =>
    unfold boundsShift? at hsome
    dsimp only at hsome
    split at hsome
    · cases hsome
    · cases hsome
      rfl

/-- **All entities are within the margin in the end.** Each axis is shifted by itself, and one
does not undo the other. -/
theorem within_enforceBounds {p : Point ℝ} (hp : p ∈ (enforceBounds margin m).values) :
    margin ≤ p.x ∧ margin ≤ p.y := by
  rw [enforceBounds_eq_shifted] at hp
  obtain ⟨_, hshifted, rfl⟩ := List.mem_map.1 hp
  obtain ⟨e, he, rfl⟩ := List.mem_map.1 hshifted
  have hvalue : e.2 ∈ m.values := List.mem_map_of_mem he
  exact ⟨le_add_shiftFor (List.mem_map_of_mem hvalue), le_add_shiftFor (List.mem_map_of_mem hvalue)⟩

theorem isBroughtWithin_enforceBounds (margin : ℝ) (m : PositionMap ℝ) :
    IsBroughtWithin margin m (enforceBounds margin m) where
  keys_eq := keys_enforceBounds margin m
  within _ hp := within_enforceBounds hp
  moved := ⟨_, _, congrArg OrderedMap.entries (enforceBounds_eq_shifted margin m),
    isLeastShift_shiftFor margin _, isLeastShift_shiftFor margin _⟩

/-- **Bringing a map within the margin** moves it as a whole, by no more than it has to be moved.
That it was moved is said just if a coordinate was below the margin, and doing it again moves
nothing. The map may be empty, and the margin may be any number. -/
theorem enforceBounds_moves_once (margin : ℝ) (m : PositionMap ℝ) :
    IsBroughtWithin margin m (enforceBounds margin m) ∧
      ((boundsShift? margin m).isSome = true ↔ ∃ p ∈ m.values, p.x < margin ∨ p.y < margin) ∧
      boundsShift? margin (enforceBounds margin m) = none ∧
      enforceBounds margin (enforceBounds margin m) = enforceBounds margin m := by
  have hagain : boundsShift? margin (enforceBounds margin m) = none :=
    boundsShift?_eq_none_iff.2 fun _ hp => within_enforceBounds hp
  refine ⟨isBroughtWithin_enforceBounds margin m, ?_, hagain, ?_⟩
  · rw [← Option.ne_none_iff_isSome, ne_eq, boundsShift?_eq_none_iff]
    simp only [not_forall, not_and_or, not_le, exists_prop]
  · rw [enforceBounds, hagain]

end Map

end ErDiagram.Refinement
