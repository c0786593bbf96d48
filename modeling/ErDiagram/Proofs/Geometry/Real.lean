import Mathlib.Analysis.SpecialFunctions.Complex.Arg
import ErDiagram.Geometry.Scalar

/-!
# Real coordinates

Real numbers as scalars: what placements and corrections compute when nothing is rounded. The
numerals of scalars are then those of the real numbers, and distances are Euclidean.

This instance is what makes a statement about distances possible. The definitions are written for
any scalar, so that over `ℝ` they are the same functions, in arithmetic with laws. Their numerals
and comparisons come from the instance, and the lemmas here turn them into those of Mathlib.
-/

namespace ErDiagram

noncomputable instance : Scalar ℝ where
  ofNat n := n
  ofDecimal mantissa negative exponent :=
    if negative then mantissa / 10 ^ exponent else mantissa * 10 ^ exponent
  decLt := fun _ _ => Classical.propDecidable _
  decLe := fun _ _ => Classical.propDecidable _
  norm x y := √(x ^ 2 + y ^ 2)
  cos := Real.cos
  sin := Real.sin
  angle y x := Complex.arg ⟨x, y⟩
  pi := Real.pi
  remainder x y := x - y * ⌊x / y⌋

namespace Scalar

/-- The numerals of real scalars are real numerals. -/
theorem numeral_real (n : ℕ) : @OfNat.ofNat ℝ n (instOfNat n) = (n : ℝ) := rfl

/-- So are decimals with digits after the point. -/
theorem decimal_real (mantissa exponent : ℕ) :
    @OfScientific.ofScientific ℝ instOfScientific mantissa true exponent
      = mantissa / 10 ^ exponent :=
  if_pos rfl

theorem zero_real : @OfNat.ofNat ℝ 0 (instOfNat 0) = 0 := Nat.cast_zero

theorem one_real : @OfNat.ofNat ℝ 1 (instOfNat 1) = 1 := Nat.cast_one

theorem least_real (a b : ℝ) : least a b = min a b := by
  unfold least
  rw [min_comm, min_def_lt]

theorem greatest_real (a b : ℝ) : greatest a b = max a b := by
  unfold greatest
  rw [max_def_lt]

end Scalar

namespace Point

variable (p q : Point ℝ)

theorem distance_real : p.distance q = √((p.x - q.x) ^ 2 + (p.y - q.y) ^ 2) := rfl

theorem distance_comm : p.distance q = q.distance p := by
  rw [distance_real, distance_real, sub_sq_comm p.x, sub_sq_comm p.y]

theorem distance_nonneg : 0 ≤ p.distance q := Real.sqrt_nonneg _

/-- The way from one point to another is as long as the way back. -/
theorem norm_sub : Scalar.norm (q.x - p.x) (q.y - p.y) = p.distance q := distance_comm q p

end Point

end ErDiagram
