/-!
# The length of a vector

The length of a vector of floating-point numbers, right to the last bit nearly always. Both
parts are scaled by a power of two, so that nothing overflows; their squares are split into
pieces that are exact, and what each addition loses is added at the end. One step of Newton's
method then corrects the square root.

A root of a sum of squares would be shorter and would differ from it in the last bit now and then.
Such a bit decides whether a coordinate that is halfway between two whole numbers is rounded up or
down, so that a length which is merely close will not do.
-/

namespace ErDiagram.Norm

/-- A number cut into two halves with few bits: `x = high + low`, without rounding. Products of
halves are exact, which is what the squares below are made of. -/
def halves (x : Float) : Float × Float :=
  let t := x * 134217729.0
  let high := t - (t - x)
  (high, x - high)

/-- A sum, with what rounding has lost of its great and its small parts. What is lost is collected
by order of magnitude and added to the sum in the end only, since it would be lost again beside
the great parts. -/
structure Sum where
  /-- The sum as it is rounded. -/
  total : Float := 1.0
  /-- What was lost when squares of high halves were added. -/
  high : Float := 0.0
  /-- What was lost when mixed products were added. -/
  mixed : Float := 0.0
  /-- The squares of low halves. -/
  low : Float := 0.0

/-- Adds the square of a number. -/
def Sum.addSquare (s : Sum) (x : Float) : Sum :=
  let (h, l) := halves x
  let a := h * h
  let t := s.total + a
  let high := s.high + ((s.total - t) + a)
  let b := 2.0 * h * l
  let u := t + b
  let mixed := s.mixed + ((t - u) + b)
  { total := u, high, mixed, low := s.low + l * l }

/-- Takes away the square of a number. -/
def Sum.subSquare (s : Sum) (x : Float) : Sum :=
  let (h, l) := halves x
  let a := -h * h
  let t := s.total + a
  let high := s.high + ((s.total - t) + a)
  let b := -2.0 * h * l
  let u := t + b
  let mixed := s.mixed + ((t - u) + b)
  let c := -l * l
  let v := u + c
  { total := v, high, mixed, low := s.low + ((u - v) + c) }

/-- The value of a sum that was started at one. -/
def Sum.value (s : Sum) : Float := s.total - 1.0 + (s.high + s.mixed + s.low)

/-- The length of a vector whose parts are at most one, times `scale⁻¹`. -/
def scaled (scale x y : Float) : Float :=
  let s := (Sum.addSquare {} (x * scale)).addSquare (y * scale)
  let h := (s.value).sqrt
  let rest := (s.subSquare h).value
  (h + rest / (2.0 * h)) / scale

/-- The length of a vector so short that no power of two scales it. -/
def tiny (greatest x y : Float) : Float :=
  let a := (x / greatest) * (x / greatest)
  let b := (y / greatest) * (y / greatest)
  let t := 1.0 + a
  let lost := 0.0 + ((1.0 - t) + a)
  let u := t + b
  let lost := lost + ((t - u) + b)
  greatest * (u - 1.0 + lost).sqrt

/-- **The length of a vector.** An infinite part makes it infinite, also beside one that is no
number. Distances decide which places are taken, so that a length that differs in its last bit can
make another layout. -/
def norm (x y : Float) : Float :=
  let x := x.abs
  let y := y.abs
  if x.isInf || y.isInf then 1.0 / 0.0
  else if x.isNaN || y.isNaN then 0.0 / 0.0
  else
    let greatest := if x < y then y else x
    if greatest == 0.0 then greatest
    else
      let exponent := greatest.frExp.2
      if -1023 ≤ exponent then scaled ((1.0 : Float).scaleB (-exponent)) x y
      else tiny greatest x y

end ErDiagram.Norm
