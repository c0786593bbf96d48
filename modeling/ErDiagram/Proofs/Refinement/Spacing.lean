import ErDiagram.Proofs.Geometry.Real
import ErDiagram.Proofs.Refinement.Collisions

/-!
# What becomes of the spacing

The first pass pushes entities apart until no two are too close, and the later passes are to keep
it so. An entity that is moved off a line has been found clear of all others, and a shift of the
whole map changes no distance, so that neither can bring two entities too close.

The two ends of a long relationship are moved at once, and each is found clear of all entities but
these two. Nothing is asked of their distance from each other, which shrinks by a factor that the
settings decide. So the spacing is kept by all maps and diagrams just if this factor does not
shrink at all, or leaves a relationship that is barely long with the least distance. In exact
arithmetic this is not only enough: with any other settings two entities and the relationship
between them lose their distance.

The passes are followed with `SpacedBut`, which leaves some names out of consideration. That is
what the moves need in themselves: while an entity moves, its old place is not to count, and the
test `isClear` ignores it. Spacing with no name left out is `Spaced`, the statement about a whole
map; with all names but two left out it is a statement about these two, for which the same lemmas
are used in `ErDiagram.Proofs.Refinement.Apart`.

For the other direction, the smallest diagram is enough: two entities and the relationship between
them. All four passes can be computed on it, since there is no third entity that a move could be
stopped by.
-/

namespace ErDiagram.Refinement

/-- No two entities that are not ignored are too close to each other. The condition is the one
that `isClear` tests before a move, with the same comparison, so that a test that has come out
well is used as it is. -/
def SpacedBut {α : Type} [Scalar α] (minDistance : α) (ignored : List String)
    (m : PositionMap α) : Prop :=
  ∀ e ∈ m.entries, ∀ e' ∈ m.entries, e.1 ∉ ignored → e'.1 ∉ ignored → e.1 ≠ e'.1 →
    tooClose minDistance e.2 e'.2 = false

/-- **No two entities are too close to each other.** This is said with `tooClose`, by which the
later passes look for a place, and for both orders of the two. Over exact numbers it is the same
as `AllApart`, which is what the first pass tests. -/
def Spaced {α : Type} [Scalar α] (minDistance : α) (m : PositionMap α) : Prop :=
  ∀ e ∈ m.entries, ∀ e' ∈ m.entries, e.1 ≠ e'.1 → tooClose minDistance e.2 e'.2 = false

/-- The settings with which no pull can bring two entities too close: none are ever too close, or
a pull does not bring the ends nearer to each other, or it leaves the least distance to a
relationship that is barely long.

A pull multiplies the distance of the two ends by `|1 - pull|` (`distance_pulled`), the absolute
value because a pull of more than all the way makes them change sides. It is made only if the
distance is more than `threshold`, which may come as near to it as one likes, and it is to leave
at least `minDistance - tolerance`. If this is not positive then no distance is too small, hence
the implication. Otherwise the factor is either at least `1`, and no distance shrinks whatever the
threshold is, or it is less, and the worst case is a distance at the threshold. The two are joined
by an *or* because neither follows from the other: a threshold may be smaller than the least
distance. -/
def Options.KeepsSpacing (o : Options ℝ) : Prop :=
  0 < o.minDistance - tolerance →
    1 ≤ |1 - o.pull| ∨ o.minDistance - tolerance ≤ |1 - o.pull| * o.threshold

/-! ## Distances

A pull is the only move of which it has to be computed how far two entities are apart afterwards.
It is in proportion to the distance before. -/

theorem tooClose_eq_false_iff {minDistance : ℝ} {p q : Point ℝ} :
    tooClose minDistance p q = false ↔ minDistance - tolerance ≤ p.distance q :=
  decide_eq_false_iff_not.trans not_lt

theorem tooClose_comm (minDistance : ℝ) (p q : Point ℝ) :
    tooClose minDistance p q = tooClose minDistance q p := by
  unfold tooClose
  rw [Point.distance_comm]

theorem midpoint_real (p q : Point ℝ) :
    midpoint p q = ⟨(p.x + q.x) / 2, (p.y + q.y) / 2⟩ := by
  rw [midpoint, Scalar.numeral_real]

/-- **A pull changes the distance in proportion**, to what it leaves of the way. Both ends move by
the same share toward the point halfway, so that the vector between them is multiplied by
`1 - share`. -/
theorem distance_pulled (share : ℝ) (p q : Point ℝ) :
    (pulled share p (midpoint p q)).distance (pulled share q (midpoint p q))
      = |1 - share| * p.distance q := by
  have hx : (pulled share p (midpoint p q)).x - (pulled share q (midpoint p q)).x
      = (1 - share) * (p.x - q.x) := by
    rw [midpoint_real]
    unfold pulled
    ring
  have hy : (pulled share p (midpoint p q)).y - (pulled share q (midpoint p q)).y
      = (1 - share) * (p.y - q.y) := by
    rw [midpoint_real]
    unfold pulled
    ring
  rw [Point.distance_real, Point.distance_real, hx, hy, mul_pow, mul_pow, ← mul_add,
    Real.sqrt_mul (sq_nonneg _), Real.sqrt_sq_eq_abs]

/-! ## Moves

Passes move one entity or two, and they look whether these are clear of others first. Here it is
said what such a move does to the spacing, whichever pass makes it. -/

section Moves

variable {minDistance : ℝ} {m : PositionMap ℝ}

theorem spacedBut_nil : SpacedBut minDistance [] m ↔ Spaced minDistance m := by
  simp only [SpacedBut, Spaced, List.not_mem_nil, not_false_eq_true, forall_const]

theorem SpacedBut.mono {ignored ignored' : List String} (h : SpacedBut minDistance ignored m)
    (hsub : ignored ⊆ ignored') : SpacedBut minDistance ignored' m :=
  fun e he e' he' hi hi' hne => h e he e' he' (mt (@hsub _) hi) (mt (@hsub _) hi') hne

theorem isClear_eq_true_iff {ignored : List String} {p : Point ℝ} :
    isClear m minDistance ignored p = true ↔
      ∀ e ∈ m.entries, e.1 ∉ ignored → tooClose minDistance p e.2 = false := by
  unfold isClear
  simp only [List.all_eq_true, Bool.or_eq_true, List.contains_iff_mem, Bool.not_eq_true',
    ← or_iff_not_imp_left]

/-- **An entity that moves to where it is clear of others** is no longer to be ignored, unless it
is ignored for another reason. The map is only asked to be spaced without it, since its old place
does not matter any more. -/
theorem SpacedBut.insert {name : String} {ignored : List String} {p : Point ℝ}
    (h : SpacedBut minDistance (name :: ignored) m)
    (hp : name ∉ ignored → ∀ e ∈ m.entries, e.1 ∉ name :: ignored →
      tooClose minDistance p e.2 = false) :
    SpacedBut minDistance ignored (m.insert name p) := by
  intro e he e' he' hi hi' hne
  rcases OrderedMap.mem_entries_insert_iff.1 he with ⟨he, hn⟩ | rfl
  · have hout : e.1 ∉ name :: ignored := List.not_mem_cons_of_ne_of_not_mem hn hi
    rcases OrderedMap.mem_entries_insert_iff.1 he' with ⟨he', hn'⟩ | rfl
    · exact h e he e' he' hout (List.not_mem_cons_of_ne_of_not_mem hn' hi') hne
    · rw [tooClose_comm]
      exact hp hi' e he hout
  · rcases OrderedMap.mem_entries_insert_iff.1 he' with ⟨he', hn'⟩ | rfl
    · exact hp hi e' he' (List.not_mem_cons_of_ne_of_not_mem hn' hi')
    · exact absurd rfl hne

variable {ignored : List String}

/-- One entity that moves keeps the spacing, if the pass has found it clear of all others. It is
all that the third pass needs. -/
theorem SpacedBut.insert_of_isClear {name : String} {p : Point ℝ}
    (h : SpacedBut minDistance ignored m) (hp : isClear m minDistance [name] p = true) :
    SpacedBut minDistance ignored (m.insert name p) := by
  refine (h.mono (List.subset_cons_self name ignored)).insert fun _ e he hout => ?_
  exact isClear_eq_true_iff.1 hp e he (mt List.mem_singleton.1 (List.ne_of_not_mem_cons hout))

/-- **Two entities that move at once keep the spacing** if they are also clear of each other, or
one of them is ignored. The last hypothesis is what the second pass does not test; it is where
`Options.KeepsSpacing` comes in, and where the exception for two ends comes from. -/
theorem SpacedBut.insert_insert {a b : String} {p q : Point ℝ}
    (h : SpacedBut minDistance ignored m)
    (hp : isClear m minDistance [a, b] p = true) (hq : isClear m minDistance [a, b] q = true)
    (hpq : a ∉ ignored → b ∉ ignored → tooClose minDistance p q = false) :
    SpacedBut minDistance ignored ((m.insert a p).insert b q) := by
  have hout : ∀ k, k ≠ a → k ∉ b :: ignored → k ∉ [a, b] := fun k ha hb => by
    rw [List.mem_cons, List.mem_singleton]
    exact not_or.2 ⟨ha, List.ne_of_not_mem_cons hb⟩
  have hsub : ignored ⊆ a :: b :: ignored :=
    List.subset_cons_of_subset a (List.subset_cons_self b ignored)
  refine ((h.mono hsub).insert fun _ e he hi => ?_).insert fun hb e he hi => ?_
  · exact isClear_eq_true_iff.1 hp e he
      (hout _ (List.ne_of_not_mem_cons hi) (List.not_mem_of_not_mem_cons hi))
  · rcases OrderedMap.mem_entries_insert_iff.1 he with ⟨he, ha⟩ | rfl
    · exact isClear_eq_true_iff.1 hq e he (hout _ ha hi)
    · rw [tooClose_comm]
      exact hpq (List.not_mem_of_not_mem_cons hi) hb

end Moves

/-! ## The passes

Which names are ignored makes no difference to what a pass keeps, as long as the two ends of a
relationship are not both of interest. So the passes are followed with any names ignored, and with
none where the spacing of the whole map is kept.
-/

section Passes

variable {o : Options ℝ}

/-- What a pull leaves of a long relationship whose ends were far enough apart. Of the two cases
of `KeepsSpacing`, the first uses that the ends were far enough apart and the second that the
relationship is long. -/
theorem Options.KeepsSpacing.le_mul (ho : o.KeepsSpacing) {d : ℝ} (hlong : o.threshold < d)
    (hd : o.minDistance - tolerance ≤ d) (hd₀ : 0 ≤ d) :
    o.minDistance - tolerance ≤ |1 - o.pull| * d := by
  by_cases hr : 0 < o.minDistance - tolerance
  · rcases ho hr with hfactor | hbarely
    · exact hd.trans (le_mul_of_one_le_left hd₀ hfactor)
    · exact hbarely.trans (mul_le_mul_of_nonneg_left hlong.le (abs_nonneg _))
  · exact (not_lt.1 hr).trans (mul_nonneg (abs_nonneg _) hd₀)

variable {ignored : List String}

/-- A pull keeps the spacing of all entities, unless it can bring the two ends too close to each
other and neither of them is ignored. The condition on the settings is therefore only asked for if
both ends are of interest. -/
theorem spacedBut_tightenPair {s : Moves ℝ} {ends : String × String}
    (hends : ends.1 ≠ ends.2 → ends.1 ∉ ignored → ends.2 ∉ ignored → o.KeepsSpacing)
    (h : SpacedBut o.minDistance ignored s.positions) :
    SpacedBut o.minDistance ignored
      (tightenPair o.threshold o.pull o.minDistance s ends).positions := by
  obtain ⟨source, target⟩ := ends
  unfold tightenPair
  dsimp only
  split
  · exact h
  next hne =>
  split
  · next p q hp hq =>
    split
    · exact h
    next hlong =>
    split
    · next hclear =>
      rw [Bool.and_eq_true] at hclear
      rw [Point.norm_sub, not_le] at hlong
      refine h.insert_insert hclear.1 hclear.2 fun hs ht => tooClose_eq_false_iff.2 ?_
      have hapart : tooClose o.minDistance p q = false :=
        h _ (OrderedMap.mem_entries_of_get?_eq_some hp) _
          (OrderedMap.mem_entries_of_get?_eq_some hq) hs ht hne
      rw [distance_pulled]
      exact (hends hne hs ht).le_mul hlong (tooClose_eq_false_iff.1 hapart)
        (Point.distance_nonneg p q)
    · exact h
  · exact h

theorem spacedBut_tighten {ends : List (String × String)}
    (hends : ∀ e ∈ ends, e.1 ≠ e.2 → e.1 ∉ ignored → e.2 ∉ ignored → o.KeepsSpacing)
    {m : PositionMap ℝ} (h : SpacedBut o.minDistance ignored m) :
    SpacedBut o.minDistance ignored
      (tighten o.threshold o.pull o.minDistance ends m).positions :=
  List.foldlRecOn (motive := fun s : Moves ℝ => SpacedBut o.minDistance ignored s.positions) ends _
    h fun _ hs e he => spacedBut_tightenPair (hends e he) hs

theorem spaced_tighten (ho : o.KeepsSpacing) (ends : List (String × String))
    {m : PositionMap ℝ} (h : Spaced o.minDistance m) :
    Spaced o.minDistance (tighten o.threshold o.pull o.minDistance ends m).positions :=
  spacedBut_nil.1 (spacedBut_tighten (fun _ _ _ _ _ => ho) (spacedBut_nil.2 h))

variable {minDistance : ℝ}

theorem spacedBut_clearEntity (buffer : ℝ) (seg : Segment ℝ) (normal : Point ℝ)
    (source target : String) {s : Moves ℝ} (e : String × Point ℝ)
    (h : SpacedBut minDistance ignored s.positions) :
    SpacedBut minDistance ignored
      (clearEntity buffer minDistance seg normal source target s e).positions := by
  unfold clearEntity
  dsimp only
  split
  · exact h
  split
  · exact h
  split
  · next hclear => exact h.insert_of_isClear hclear
  · exact h

theorem spacedBut_clearLine (buffer : ℝ) {s : Moves ℝ} (ends : String × String)
    (h : SpacedBut minDistance ignored s.positions) :
    SpacedBut minDistance ignored (clearLine buffer minDistance s ends).positions := by
  obtain ⟨source, target⟩ := ends
  unfold clearLine
  dsimp only
  split
  · exact h
  split
  · split
    · exact h
    · exact List.foldlRecOn
        (motive := fun s : Moves ℝ => SpacedBut minDistance ignored s.positions) _ _ h
        fun _ hs e _ => spacedBut_clearEntity buffer _ _ source target e hs
  · exact h

theorem spacedBut_clearLines (buffer : ℝ) (ends : List (String × String)) {m : PositionMap ℝ}
    (h : SpacedBut minDistance ignored m) :
    SpacedBut minDistance ignored (clearLines buffer minDistance ends m).positions :=
  List.foldlRecOn (motive := fun s : Moves ℝ => SpacedBut minDistance ignored s.positions) ends _ h
    fun _ hs e _ => spacedBut_clearLine buffer e hs

theorem spaced_clearLines (buffer : ℝ) (ends : List (String × String)) {m : PositionMap ℝ}
    (h : Spaced minDistance m) :
    Spaced minDistance (clearLines buffer minDistance ends m).positions :=
  spacedBut_nil.1 (spacedBut_clearLines buffer ends (spacedBut_nil.2 h))

/-- **A shift keeps all distances**, and so the spacing, whichever it was. It is an equivalence
because the last pass may neither lose the spacing nor be what brings it about. -/
theorem spaced_shifted {m : PositionMap ℝ} (dx dy : ℝ) :
    Spaced minDistance (shifted m dx dy) ↔ Spaced minDistance m := by
  have hdistance : ∀ p q : Point ℝ,
      tooClose minDistance ⟨p.x + dx, p.y + dy⟩ ⟨q.x + dx, q.y + dy⟩
        = tooClose minDistance p q := fun p q => by
    unfold tooClose
    rw [Point.distance_real, Point.distance_real]
    simp only [add_sub_add_right_eq_sub]
  unfold Spaced shifted OrderedMap.mapValues
  simp only [List.forall_mem_map, hdistance]

theorem spaced_enforceBounds {m : PositionMap ℝ} (margin : ℝ) :
    Spaced minDistance (enforceBounds margin m) ↔ Spaced minDistance m := by
  unfold enforceBounds
  split
  · rfl
  · exact spaced_shifted _ _

end Passes

/-! ## A map that is spaced already -/

section Collisions

variable {minDistance : ℝ} {m : PositionMap ℝ}

theorem Spaced.allApart (h : Spaced minDistance m) : AllApart minDistance m := by
  have hkeys : m.entries.Pairwise fun e e' => e.1 ≠ e'.1 := List.pairwise_map.1 m.nodup_keys
  refine hkeys.imp_of_mem fun {e e'} he he' hne => ?_
  rw [Point.norm_sub]
  exact tooClose_eq_false_iff.1 (h e he e' he' hne)

/-- **Where no two entities are too close, the first pass moves nothing.** A pair is moved only if
it is closer than the least distance. -/
theorem resolveCollisions_of_spaced (h : Spaced minDistance m) (sweeps : Nat) :
    resolveCollisions minDistance sweeps m = ⟨m, 0⟩ :=
  resolveCollisions_of_allApart h.allApart sweeps

end Collisions

/-! ## Two entities and the relationship between them

For the converse there has to be a diagram in which a pull goes too far. Two entities are enough,
at a distance that is chosen by the settings. -/

/-- Two related entities. Of all diagrams this is the one that a pull is about, with no third
entity by which it could be stopped. -/
def related : Diagram where
  entities := [{ name := "A" }, { name := "B" }]
  relationships := [{ source := "A", target := "B", cardinality := ⟨.one, .one⟩ }]

/-- The two entities in two places, which are left open: the settings decide how far they have to
be from each other to lose their distance. -/
def facing (p q : Point ℝ) : PositionMap ℝ where
  entries := [("A", p), ("B", q)]
  nodup_keys := by
    show ["A", "B"].Nodup
    decide

section Facing

variable {minDistance : ℝ} {p q : Point ℝ}

theorem mem_entries_facing {e : String × Point ℝ} :
    e ∈ (facing p q).entries ↔ e = ("A", p) ∨ e = ("B", q) := by
  simp only [facing, List.mem_cons, List.not_mem_nil, or_false]

theorem get?_facing :
    (facing p q).get? "A" = some p ∧ (facing p q).get? "B" = some q := ⟨rfl, rfl⟩

theorem spaced_facing : Spaced minDistance (facing p q) ↔ tooClose minDistance p q = false := by
  constructor
  · intro h
    have hne : "A" ≠ "B" := by decide
    exact h _ (mem_entries_facing.2 (.inl rfl)) _ (mem_entries_facing.2 (.inr rfl)) hne
  · intro h e he e' he' hne
    rcases mem_entries_facing.1 he with rfl | rfl <;>
      rcases mem_entries_facing.1 he' with rfl | rfl
    · exact absurd rfl hne
    · exact h
    · rw [tooClose_comm]
      exact h
    · exact absurd rfl hne

/-- Where there is no third entity, a long relationship is always tightened. -/
theorem tighten_facing {threshold : ℝ} (share : ℝ) (h : threshold < p.distance q) :
    (tighten threshold share minDistance related.ends (facing p q)).positions
      = facing (pulled share p (midpoint p q)) (pulled share q (midpoint p q)) := by
  have hclear : ∀ p', isClear (facing p q) minDistance ["A", "B"] p' = true := fun p' =>
    isClear_eq_true_iff.2 fun e he hout => by
      rcases mem_entries_facing.1 he with rfl | rfl <;> exact absurd (by simp) hout
  show (tightenPair threshold share minDistance ⟨facing p q, 0⟩ ("A", "B")).positions = _
  have hlong : ¬ Scalar.norm (q.x - p.x) (q.y - p.y) ≤ threshold := by
    rw [Point.norm_sub, not_le]
    exact h
  unfold tightenPair
  dsimp only
  rw [if_neg (by decide), get?_facing.1, get?_facing.2]
  dsimp only
  rw [if_neg hlong, hclear, hclear]
  rfl

/-- The ends of a line are not moved off it. -/
theorem clearLines_facing (buffer : ℝ) :
    (clearLines buffer minDistance related.ends (facing p q)).positions = facing p q := by
  show (clearLine buffer minDistance ⟨facing p q, 0⟩ ("A", "B")).positions = _
  unfold clearLine
  dsimp only
  rw [if_neg (by decide), get?_facing.1, get?_facing.2]
  dsimp only
  split
  · rfl
  · rfl

/-- **A pull that goes too far**: two entities that are far enough apart for the first pass, whose
relationship is long, come too close. -/
theorem not_spaced_refine_facing {o : Options ℝ} (hlong : o.threshold < p.distance q)
    (hapart : o.minDistance - tolerance ≤ p.distance q)
    (hclose : |1 - o.pull| * p.distance q < o.minDistance - tolerance) :
    Spaced o.minDistance (resolveCollisions o.minDistance o.sweeps (facing p q)).positions ∧
      ¬ Spaced o.minDistance (refine o related.ends (facing p q)) := by
  have hspaced : Spaced o.minDistance (facing p q) :=
    spaced_facing.2 (tooClose_eq_false_iff.2 hapart)
  have hfirst := resolveCollisions_of_spaced hspaced o.sweeps
  refine ⟨by rw [hfirst]; exact hspaced, ?_⟩
  unfold refine
  dsimp only
  rw [hfirst, tighten_facing o.pull hlong, clearLines_facing, spaced_enforceBounds, spaced_facing,
    tooClose_eq_false_iff, distance_pulled, not_le]
  exact hclose

end Facing

/-! ## The whole refinement -/

/-- Other settings have a distance that is long, and that a pull makes too short. It is the least
distance or one a little above the threshold, whichever is larger, so that the first pass has
nothing to push. -/
theorem exists_of_not_keepsSpacing {o : Options ℝ} (h : ¬ o.KeepsSpacing) :
    ∃ d, 0 ≤ d ∧ o.threshold < d ∧ o.minDistance - tolerance ≤ d ∧
      |1 - o.pull| * d < o.minDistance - tolerance := by
  unfold Options.KeepsSpacing at h
  simp only [Classical.not_imp, not_or, not_le] at h
  obtain ⟨hr, hfactor, hbarely⟩ := h
  have hfactor₀ := abs_nonneg (1 - o.pull)
  generalize o.minDistance - tolerance = r at *
  generalize |1 - o.pull| = c at *
  -- what is left of the greater of the two bounds is less than the least distance
  have hleft : c * max o.threshold r < r := by
    rcases max_choice o.threshold r with hmax | hmax
    · rw [hmax]
      exact hbarely
    · rw [hmax]
      exact mul_lt_of_lt_one_left hr hfactor
  have hgap : c * ((r - c * max o.threshold r) / 2) ≤ (r - c * max o.threshold r) / 2 :=
    mul_le_of_le_one_left (by linarith) hfactor.le
  have hthreshold := le_max_left o.threshold r
  have hr' := le_max_right o.threshold r
  refine ⟨max o.threshold r + (r - c * max o.threshold r) / 2, ?_, ?_, ?_, ?_⟩
  · linarith
  · linarith
  · linarith
  · rw [mul_add]
    linarith

/-- **When refinement keeps the spacing.** If the first pass leaves no two entities too close,
then no two entities are too close in the end – for all diagrams and maps if the settings keep the
spacing, and for no other settings. From left to right, the diagram is `related` and the map puts
its two entities at a distance that a pull makes too short. -/
theorem spaced_refine_iff (o : Options ℝ) :
    (∀ (d : Diagram) (m : PositionMap ℝ),
        Spaced o.minDistance (resolveCollisions o.minDistance o.sweeps m).positions →
          Spaced o.minDistance (refine o d.ends m)) ↔
      o.KeepsSpacing := by
  constructor
  · intro h
    by_contra ho
    obtain ⟨d, hd₀, hlong, hapart, hclose⟩ := exists_of_not_keepsSpacing ho
    have hdistance : Point.distance ⟨d, 0⟩ (⟨0, 0⟩ : Point ℝ) = d := by
      rw [Point.distance_real]
      simp only [sub_zero, ne_eq, OfNat.ofNat_ne_zero, not_false_eq_true, zero_pow, add_zero]
      exact Real.sqrt_sq hd₀
    rw [← hdistance] at hlong hapart hclose
    obtain ⟨hbefore, hafter⟩ := not_spaced_refine_facing hlong hapart hclose
    exact hafter (h related _ hbefore)
  · intro ho d m h
    unfold refine
    dsimp only
    rw [spaced_enforceBounds]
    exact spaced_clearLines o.buffer d.ends (spaced_tighten ho d.ends h)

/-- Settings that differ from the usual ones in that they pull ends all the way to the middle,
which the settings allow. -/
noncomputable def pulledToMiddle : Options ℝ where
  minDistance := 140
  sweeps := 100
  threshold := 400
  pull := 1
  buffer := 70
  margin := 50

/-- **Ends that are pulled to the middle meet there**, although the first pass found them far
enough apart. -/
theorem not_spaced_pulledToMiddle :
    Spaced pulledToMiddle.minDistance
        (resolveCollisions pulledToMiddle.minDistance pulledToMiddle.sweeps
          (facing ⟨100, 100⟩ ⟨700, 100⟩)).positions ∧
      ¬ Spaced pulledToMiddle.minDistance
        (refine pulledToMiddle related.ends (facing ⟨100, 100⟩ ⟨700, 100⟩)) := by
  have hdistance : Point.distance ⟨100, 100⟩ (⟨700, 100⟩ : Point ℝ) = 600 := by
    rw [Point.distance_real, sub_self, zero_pow two_ne_zero, add_zero, Real.sqrt_sq_eq_abs]
    norm_num
  have htolerance : (tolerance : ℝ) = 1 / 10 ^ 6 := by
    rw [tolerance, Scalar.decimal_real, Nat.cast_one]
  refine not_spaced_refine_facing ?_ ?_ ?_
  · rw [hdistance, pulledToMiddle]
    norm_num
  · rw [hdistance, pulledToMiddle, htolerance]
    norm_num
  · rw [pulledToMiddle, htolerance, sub_self, abs_zero, zero_mul]
    norm_num

end ErDiagram.Refinement
