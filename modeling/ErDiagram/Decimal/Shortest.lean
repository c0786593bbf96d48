import ErDiagram.Decimal.Dyadic

/-!
# The shortest decimal of a number

Among the decimals that read back as a given `Float` there are some with the fewest digits;
the shortest decimal is the one of these nearest to the exact value.

It is found by trying one digit after the other. Seventeen digits are always enough, so that the
search is bounded, and all comparisons are of whole numbers: a decimal reads back if it lies between
two multiples of a power of two.
-/

namespace ErDiagram.Decimal

/-- A decimal `digits · 10 ^ exponent`. It has no sign: the shortest decimal is sought for the
absolute value, and the sign is written in front. -/
structure Digits where
  /-- The significant digits as one whole number. -/
  digits : Nat
  /-- The power of ten. -/
  exponent : Int
deriving Repr, DecidableEq

/-- How many decimal digits a number has. -/
def digitCount (n : Nat) : Nat := (Nat.toDigits 10 n).length

/-- `num / den` against the grid of multiples of `10 ^ e`, as a quotient. -/
private def onGrid (num den : Nat) : Int → Nat × Nat
  | .ofNat e => (num, den * Nat.pow 10 e)
  | .negSucc e => (num * Nat.pow 10 (e + 1), den)

/-- The least `k` with `num / den < 10 ^ k`. -/
private def magnitude (num den : Nat) : Int :=
  let guess : Int := (digitCount num : Int) - (digitCount den : Int)
  let below (k : Int) : Bool := let (n, d) := onGrid num den k; n < d
  if below guess then guess else guess + 1

/-- The interval of numbers that round to a positive dyadic, in units of
`2 ^ (exponent - 2)`, as least and greatest multiple. -/
private def readsBack (d : Dyadic) : Nat × Nat :=
  let m := d.mantissa
  let low := if m = Nat.pow 2 52 ∧ -1074 < d.exponent then 4 * m - 1 else 4 * m - 2
  (low, 4 * m + 2)

/-- Whether `n · 10 ^ e` rounds to the dyadic. -/
private def hits (d : Dyadic) (n : Nat) (e : Int) : Bool :=
  let (low, high) := readsBack d
  let (unitNum, unitDen) : Nat × Nat :=
    match d.exponent - 2 with
    | .ofNat k => (Nat.pow 2 k, 1)
    | .negSucc k => (1, Nat.pow 2 (k + 1))
  let (gridNum, gridDen) : Nat × Nat :=
    match e with
    | .ofNat k => (Nat.pow 10 k, 1)
    | .negSucc k => (1, Nat.pow 10 (k + 1))
  let value := n * gridNum * unitDen
  let unit := unitNum * gridDen
  if d.mantissa % 2 = 0 then low * unit ≤ value && value ≤ high * unit
  else low * unit < value && value < high * unit

/-- The neighbour of the dyadic on the grid of `10 ^ e` that reads back, if there is one; of
two the nearer, and of two equally near ones the even one. -/
private def onGrid? (d : Dyadic) (e : Int) : Option Digits :=
  let (num, den) := d.fraction
  let (n, m) := onGrid num den e
  let q := n / m
  let near := roundDiv n m
  let far := if near = q then q + 1 else q
  if hits d near e then some ⟨near, e⟩
  else if hits d far e then some ⟨far, e⟩
  else none

/-- Tries one digit after the other. -/
private def search (d : Dyadic) (k : Int) : Nat → Nat → Digits
  | 0, count => ⟨d.mantissa, k - count⟩
  | fuel + 1, count =>
    match onGrid? d (k - count) with
    | some r => r
    | none => search d k fuel (count + 1)

/-- Moves the zeros at the end of the digits into the exponent. -/
private def dropZeros : Nat → Digits → Digits
  | 0, r => r
  | fuel + 1, r =>
    if r.digits ≠ 0 ∧ r.digits % 10 = 0 then dropZeros fuel ⟨r.digits / 10, r.exponent + 1⟩ else r

/-- **The shortest decimal that reads back** as a positive dyadic number. Digits are tried from one
on, so that the first decimal which is found has the fewest. Whatever zeros it ends with go into the
exponent. -/
def shortest (d : Dyadic) : Digits :=
  let (num, den) := d.fraction
  dropZeros 20 (search d (magnitude num den) 18 1)

end ErDiagram.Decimal
