import ErDiagram.Decimal.Dyadic
import ErDiagram.Geometry.Norm
import ErDiagram.Geometry.Scalar

/-!
# Floating-point coordinates

Floating-point numbers as scalars. Remainders are exact, and so is rounding to whole numbers: both
are computed on the dyadic number that a floating-point number stands for, with whole numbers, and
then turned back.

The instance is what runs. Nothing is proved about the value of a floating-point operation, but
much is proved of what is computed with them, from the shape of the computation alone: which
entities are placed, in which order, and when a loop ends.
-/

namespace ErDiagram

namespace Dyadic

/-- The whole numbers that two dyadic numbers are multiples of the same power of two by, and the
exponent of that power. On these, remainders are those of whole numbers. -/
def align (a b : Dyadic) : Nat × Nat × Int :=
  let e := min a.exponent b.exponent
  (a.mantissa * Nat.pow 2 (a.exponent - e).toNat, b.mantissa * Nat.pow 2 (b.exponent - e).toNat, e)

end Dyadic

namespace FloatScalar

/-- The greatest circle constant below π. -/
def pi : Float := 3.141592653589793

/-- What is left of a number after taking away multiples of another, with the sign of the
first. -/
def truncatedRemainder (x y : Float) : Float :=
  match Dyadic.ofFloat? x, Dyadic.ofFloat? y with
  | some a, some b =>
    let (m, n, e) := a.align b
    if n = 0 then 0.0 / 0.0 else Dyadic.toFloat ⟨a.negative, m % n, e⟩
  | some _, none => if y.isInf then x else 0.0 / 0.0
  | none, _ => 0.0 / 0.0

/-- **What is left of a number after taking away multiples of another**, with the sign of that
other. A zero has the sign of the other number as well. -/
def remainder (x y : Float) : Float :=
  let r := truncatedRemainder x y
  if r == 0.0 then (if y < 0.0 then -0.0 else 0.0)
  else if (y < 0.0) != (r < 0.0) then r + y
  else r

instance : Scalar Float where
  ofNat := Float.ofNat
  ofDecimal := Float.ofScientific
  decLt := fun _ _ => inferInstance
  decLe := fun _ _ => inferInstance
  norm := Norm.norm
  cos := Float.cos
  sin := Float.sin
  angle := Float.atan2
  pi := pi
  remainder := remainder

end FloatScalar

/-- Why a number has no nearest whole number. The two reasons are told apart because they are
different errors, with different wordings. -/
inductive RoundingError where
  /-- It is infinite. -/
  | infinite
  /-- It is no number. -/
  | notANumber
deriving Repr, DecidableEq

/-- **The nearest whole number**, a half going to the even neighbour. There is one for every
finite number, since those that are too large for a fraction are whole. -/
def nearestWhole (x : Float) : Except RoundingError Float :=
  match Dyadic.ofFloat? x with
  | none => .error (if x.isNaN then .notANumber else .infinite)
  | some d =>
    let (num, den) := d.fraction
    let n := Float.ofNat (roundDiv num den)
    .ok (if d.negative && n != 0.0 then -n else n)

/-- The nearest point with whole coordinates; the horizontal coordinate is rounded first. -/
def Point.nearestWhole (p : Point Float) : Except RoundingError (Point Float) := do
  let x ← ErDiagram.nearestWhole p.x
  let y ← ErDiagram.nearestWhole p.y
  pure ⟨x, y⟩

/-- Whether both coordinates are finite. -/
def Point.isFinite (p : Point Float) : Bool := p.x.isFinite && p.y.isFinite

end ErDiagram
