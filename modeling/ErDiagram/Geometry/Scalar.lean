import ErDiagram.Geometry.Point

/-!
# Scalars

What the coordinates of a layout are made of. Placements and corrections are written for any
scalar, so that they can be run with floating-point numbers and read with real ones. Nothing is
assumed about the operations: floating-point numbers round, and among them there is one that no
comparison holds for.

So there are three kinds of statements about a layout. What follows from the shape of a
computation holds for all scalars. What is about distances holds over `ℝ`, where the laws of
arithmetic are there to be used. And what is about special floating-point numbers is about `Float`
alone. The definitions are the same for all three; there is no second version of a pass in exact
arithmetic.

Comparisons such as the least of a list are defined here by `<` alone, with the argument that is
kept when nothing can be compared, because that decides what a computation with such numbers does.
-/

namespace ErDiagram

/-- **Numbers to compute coordinates with.** It is a class of operations without laws. A law would
exclude floating-point numbers, for which few of the usual ones hold and none can be proved; what
is proved for all scalars is proved of a program that rounds.

The length of a vector is an operation of its own and no root of a sum of squares: for
floating-point numbers the two are not the same. -/
class Scalar (α : Type) extends Add α, Sub α, Mul α, Div α, Neg α, LT α, LE α where
  /-- The whole numbers among the scalars. -/
  ofNat : Nat → α
  /-- The decimals among the scalars: `mantissa · 10 ^ ± exponent`, the sign being minus if the
  flag is set. -/
  ofDecimal : (mantissa : Nat) → (negative : Bool) → (exponent : Nat) → α
  /-- Whether one scalar is less than another can be decided. -/
  decLt : DecidableLT α
  /-- Whether one scalar is at most another can be decided. -/
  decLe : DecidableLE α
  /-- The length of a vector. -/
  norm : α → α → α
  /-- The cosine of an angle. -/
  cos : α → α
  /-- The sine of an angle. -/
  sin : α → α
  /-- The angle of a vector, from its vertical and its horizontal part. -/
  angle : (y x : α) → α
  /-- Half of a full turn. -/
  pi : α
  /-- What is left of a number after taking away whole multiples of another, with the sign of
  that other. -/
  remainder : α → α → α

namespace Scalar

variable {α : Type} [Scalar α]

instance (priority := low) instOfNat (n : Nat) : OfNat α n := ⟨Scalar.ofNat n⟩

instance (priority := low) instOfScientific : OfScientific α := ⟨Scalar.ofDecimal⟩

instance (priority := low) instDecidableLT : DecidableLT α := Scalar.decLt

instance (priority := low) instDecidableLE : DecidableLE α := Scalar.decLe

/-- The whole numbers among the scalars, with a sign. A negative number is the opposite of a
positive one, which floating-point numbers have exactly. -/
def ofInt : Int → α
  | .ofNat n => ofNat n
  | .negSucc n => -ofNat (n + 1)

/-- The second of two scalars if it is less, and else the first, also where neither is less than
the other. -/
def least (a b : α) : α := if b < a then b else a

/-- The second of two scalars if it is greater, and else the first, also where neither is greater
than the other. -/
def greatest (a b : α) : α := if a < b then b else a

/-- The first of the least scalars of a list that starts with the given one. With a number that
cannot be compared, the result depends on where in the list it is. -/
def leastOf (a : α) (rest : List α) : α := rest.foldl least a

/-- The absolute value. -/
def magnitude (a : α) : α := if a < 0 then -a else a

end Scalar

namespace Point

variable {α : Type} [Scalar α]

/-- The distance between two points. -/
def distance (p q : Point α) : α := Scalar.norm (p.x - q.x) (p.y - q.y)

/-- The point in some direction and distance from another. -/
def toward (p : Point α) (angle distance : α) : Point α :=
  ⟨p.x + distance * Scalar.cos angle, p.y + distance * Scalar.sin angle⟩

end Point

end ErDiagram
