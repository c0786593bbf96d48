/-!
# Floating-point numbers as exact numbers

A finite `Float` is a whole number times a power of two. Rounding it to decimals, finding its
shortest text and taking remainders are done on this exact value.

So whatever asks for more than one rounding is computed in whole numbers, where it can be proved
right, and goes back to a `Float` in the end. A `Float` is taken apart by its bits and by nothing
else.
-/

namespace ErDiagram

/-- **A number `± mantissa · 2 ^ exponent`.** The sign is apart from the mantissa, for otherwise
there would be one zero only, and the mantissa is a natural number, so that rounding is division
with a remainder. -/
structure Dyadic where
  /-- Whether the sign is minus; zero has a sign as well. -/
  negative : Bool
  /-- The whole number. -/
  mantissa : Nat
  /-- The power of two. -/
  exponent : Int
deriving Repr, DecidableEq

namespace Dyadic

/-- **The exact value of a `Float`**, which infinities and the not-a-number do not have. The
exponent that stands in the bits is the one of the leading digit, which is not written there, unless
the number is so small that it has none. -/
def ofFloat? (x : Float) : Option Dyadic :=
  let bits : Nat := x.toBits.toNat
  let negative := bits / Nat.pow 2 63 == 1
  let field : Nat := bits / Nat.pow 2 52 % 2048
  let fraction : Nat := bits % Nat.pow 2 52
  if field = 2047 then none
  else if field = 0 then some ⟨negative, fraction, -1074⟩
  else some ⟨negative, fraction + Nat.pow 2 52, Int.ofNat field - 1075⟩

/-- The `Float` of a number that has at most 53 bits. -/
def toFloat (d : Dyadic) : Float :=
  let x := (Float.ofNat d.mantissa).scaleB d.exponent
  if d.negative then -x else x

/-- The absolute value as a fraction of whole numbers. -/
def fraction (d : Dyadic) : Nat × Nat :=
  match d.exponent with
  | .ofNat e => (d.mantissa * Nat.pow 2 e, 1)
  | .negSucc e => (d.mantissa, Nat.pow 2 (e + 1))

end Dyadic

/-- **The quotient of two whole numbers rounded to the nearest**, a half to the even
neighbour. -/
def roundDiv (num den : Nat) : Nat :=
  let q := num / den
  let twice := 2 * (num % den)
  if twice < den then q
  else if den < twice then q + 1
  else if q % 2 = 0 then q else q + 1

end ErDiagram
