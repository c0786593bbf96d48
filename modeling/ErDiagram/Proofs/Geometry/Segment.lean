import ErDiagram.Proofs.Geometry.Real
import ErDiagram.Geometry.Segment

/-!
# The nearest point of a segment

The foot of the perpendicular on a line may lie beyond an end of the segment, and then this end is
taken in its place. In exact arithmetic that is right, wherever the point is and also if the
segment is a single point.

Everything follows from one inequality: the way from a point to the nearest one and the way from
there to any other point of the segment are at a right angle or a greater one, so that the squares
of the two are together at most the square of the direct way. Hence no point of the segment is
nearer, and none but the nearest is as near. Of the segment this uses its points only, and not
which end it starts from.

Points of a segment are given by their share of the way, a number between zero and one, and the
nearest one has the share of the foot, cut off at these two numbers. The inequality for points
comes from one for shares (`mul_sub_clamp_nonpos`), multiplied by the square of the length.
-/

namespace ErDiagram

/-- The square of the distance between two points. -/
def Point.distanceSquared (p q : Point ℝ) : ℝ := (p.x - q.x) ^ 2 + (p.y - q.y) ^ 2

theorem Point.distanceSquared_nonneg (p q : Point ℝ) : 0 ≤ p.distanceSquared q :=
  add_nonneg (sq_nonneg _) (sq_nonneg _)

/-- Points without a distance are one. -/
theorem Point.eq_of_distanceSquared_nonpos {p q : Point ℝ} (h : p.distanceSquared q ≤ 0) :
    p = q := by
  unfold distanceSquared at h
  have hx : (p.x - q.x) ^ 2 = 0 := by linarith [sq_nonneg (p.x - q.x), sq_nonneg (p.y - q.y)]
  have hy : (p.y - q.y) ^ 2 = 0 := by linarith [sq_nonneg (p.x - q.x), sq_nonneg (p.y - q.y)]
  cases p
  cases q
  exact (Point.mk.injEq ..).mpr
    ⟨sub_eq_zero.1 (sq_eq_zero_iff.1 hx), sub_eq_zero.1 (sq_eq_zero_iff.1 hy)⟩

namespace Segment

/-- The point at some share of the way from the start to the end. -/
def pointAt (s : Segment ℝ) (share : ℝ) : Point ℝ :=
  ⟨s.start.x + share * (s.finish.x - s.start.x), s.start.y + share * (s.finish.y - s.start.y)⟩

/-- **The points of a segment** are the points on the way from its start to its end. Both ends are
among them, and if they are one, nothing else is. -/
def Contains (s : Segment ℝ) (q : Point ℝ) : Prop :=
  ∃ share, 0 ≤ share ∧ share ≤ 1 ∧ s.pointAt share = q

/-- The segment from the end to the start. -/
def reversed (s : Segment ℝ) : Segment ℝ := ⟨s.finish, s.start⟩

/-- **A nearest point of a segment** is one of its points, and none of them is nearer. Distances
are compared by their squares, which spares the root and says the same. -/
structure IsNearest (s : Segment ℝ) (p q : Point ℝ) : Prop where
  /-- It is a point of the segment. -/
  contains : s.Contains q
  /-- No point of the segment is nearer. Squares of distances are compared, so that no root has to
  be taken. -/
  le : ∀ q', s.Contains q' → p.distanceSquared q ≤ p.distanceSquared q'

theorem contains_reversed {s : Segment ℝ} {q : Point ℝ} (h : s.Contains q) :
    s.reversed.Contains q := by
  obtain ⟨share, h₀, h₁, rfl⟩ := h
  refine ⟨1 - share, by linarith, by linarith, ?_⟩
  unfold pointAt reversed
  dsimp only
  congr 1 <;> ring

/-! ## The foot of the perpendicular -/

variable (s : Segment ℝ) (p : Point ℝ)

/-- At which share of the way the foot of the perpendicular is. Where start and end are one, this
is a quotient by zero, and every share is right. -/
noncomputable def footShare : ℝ :=
  ((p.x - s.start.x) * (s.finish.x - s.start.x) + (p.y - s.start.y) * (s.finish.y - s.start.y))
    / s.lengthSquared

/-- At which share of the way the nearest point is. -/
noncomputable def nearestShare : ℝ := max 0 (min 1 (s.footShare p))

theorem lengthSquared_real : s.lengthSquared = s.finish.distanceSquared s.start := by
  unfold lengthSquared Point.distanceSquared
  ring

/-- If the length is not positive, then start and end are one. -/
theorem finish_eq_start {s : Segment ℝ} (h : s.lengthSquared ≤ 0) : s.finish = s.start :=
  Point.eq_of_distanceSquared_nonpos (s.lengthSquared_real ▸ h)

theorem nearest_real : s.nearest p = s.pointAt (s.nearestShare p) := by
  unfold nearest
  dsimp only
  rw [Scalar.zero_real, Scalar.one_real]
  split
  · next hlength =>
    unfold pointAt
    rw [finish_eq_start hlength, sub_self, mul_zero, add_zero, sub_self, mul_zero, add_zero]
  · rw [Scalar.least_real, Scalar.greatest_real]
    rfl

/-- The foot of the perpendicular, without the quotient. -/
theorem footShare_mul_lengthSquared :
    s.footShare p * s.lengthSquared
      = (p.x - s.start.x) * (s.finish.x - s.start.x)
        + (p.y - s.start.y) * (s.finish.y - s.start.y) := by
  by_cases hlength : s.lengthSquared = 0
  · rw [hlength, mul_zero, finish_eq_start hlength.le, sub_self, sub_self, mul_zero, mul_zero,
      add_zero]
  · exact div_mul_cancel₀ _ hlength

/-- **A number and any between zero and one** are not on the same side of the nearest one between
zero and one. -/
theorem mul_sub_clamp_nonpos {share : ℝ} (foot : ℝ) (h₀ : 0 ≤ share) (h₁ : share ≤ 1) :
    (share - max 0 (min 1 foot)) * (foot - max 0 (min 1 foot)) ≤ 0 := by
  rcases le_total foot 0 with hfoot | hfoot
  · rw [max_eq_left ((min_le_right 1 foot).trans hfoot), sub_zero, sub_zero]
    exact mul_nonpos_of_nonneg_of_nonpos h₀ hfoot
  rcases le_total 1 foot with hfoot' | hfoot'
  · rw [min_eq_left hfoot', max_eq_right zero_le_one]
    exact mul_nonpos_of_nonpos_of_nonneg (sub_nonpos.2 h₁) (sub_nonneg.2 hfoot')
  · rw [min_eq_right hfoot', max_eq_right hfoot, sub_self, mul_zero]

/-! ## The angle at the nearest point -/

variable {s p}

/-- **The angle at the nearest point** between the ways to the given point and to another one of
the segment is a right one or greater. -/
theorem distanceSquared_nearest_add_le {q : Point ℝ} (hq : s.Contains q) :
    p.distanceSquared (s.nearest p) + (s.nearest p).distanceSquared q ≤ p.distanceSquared q := by
  obtain ⟨share, h₀, h₁, rfl⟩ := hq
  have hside : (share - s.nearestShare p) * (s.footShare p - s.nearestShare p) ≤ 0 :=
    mul_sub_clamp_nonpos (s.footShare p) h₀ h₁
  have hlength : 0 ≤ s.lengthSquared :=
    s.lengthSquared_real ▸ Point.distanceSquared_nonneg _ _
  -- the inner product of the two ways, in terms of the shares
  have hangle : p.distanceSquared (s.pointAt share)
      = p.distanceSquared (s.nearest p) + (s.nearest p).distanceSquared (s.pointAt share)
        - 2 * ((share - s.nearestShare p) * (s.footShare p - s.nearestShare p)
          * s.lengthSquared) := by
    have hfoot := s.footShare_mul_lengthSquared p
    rw [lengthSquared_real] at hfoot ⊢
    rw [nearest_real]
    unfold pointAt
    unfold Point.distanceSquared at hfoot ⊢
    linear_combination 2 * (share - s.nearestShare p) * hfoot
  linarith [mul_nonpos_of_nonpos_of_nonneg hside hlength]

theorem contains_nearest (s : Segment ℝ) (p : Point ℝ) : s.Contains (s.nearest p) :=
  ⟨s.nearestShare p, le_max_left _ _, max_le zero_le_one (min_le_left _ _),
    (s.nearest_real p).symm⟩

theorem isNearest_nearest (s : Segment ℝ) (p : Point ℝ) : s.IsNearest p (s.nearest p) where
  contains := s.contains_nearest p
  le q hq := by linarith [distanceSquared_nearest_add_le (p := p) hq,
    Point.distanceSquared_nonneg (s.nearest p) q]

/-- **There is only one nearest point.** So a point with the two properties is the one that is
computed. -/
theorem IsNearest.eq_nearest {q : Point ℝ} (h : s.IsNearest p q) : s.nearest p = q := by
  refine Point.eq_of_distanceSquared_nonpos ?_
  linarith [distanceSquared_nearest_add_le (p := p) h.contains, h.le _ (s.contains_nearest p)]

/-- A segment and the reversed one have the same points. -/
theorem IsNearest.of_reversed {q : Point ℝ} (h : s.reversed.IsNearest p q) : s.IsNearest p q where
  contains := contains_reversed h.contains
  le q' hq' := h.le q' (contains_reversed hq')

theorem nearest_reversed (s : Segment ℝ) (p : Point ℝ) :
    s.reversed.nearest p = s.nearest p :=
  ((isNearest_nearest s.reversed p).of_reversed.eq_nearest).symm

/-- **The nearest point is found, and its distance.** It is a point of the segment, no point of
the segment is nearer, and it does not matter from which end the segment starts. The segment may
be a single point, and the point may lie anywhere. -/
theorem isNearest_from_either_end (s : Segment ℝ) (p : Point ℝ) :
    s.IsNearest p (s.nearest p) ∧
      s.distance p = √(p.distanceSquared (s.nearest p)) ∧
      s.reversed.nearest p = s.nearest p ∧
      s.reversed.distance p = s.distance p := by
  refine ⟨isNearest_nearest s p, rfl, nearest_reversed s p, ?_⟩
  unfold distance
  rw [nearest_reversed]

end Segment

end ErDiagram
