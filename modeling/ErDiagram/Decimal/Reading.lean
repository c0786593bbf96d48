import ErDiagram.Decimal.Shortest
import ErDiagram.Text.CharClass

/-!
# Reading decimals

A decimal text denotes a number `mantissa · 10 ^ exponent`; the `Float` it is read as is the
nearest one, and infinite beyond the greatest.

The value is computed from the mantissa and the exponent at once. If the digits were read one by one
into a `Float`, each of them would be rounded. An exponent may be so great that no power of ten can
be written down for it; such a number is settled by its magnitude alone.
-/

namespace ErDiagram.Decimal

/-- **The `Float` nearest to `± mantissa · 10 ^ exponent`.** Exponents beyond all floats are
settled at once. -/
def toFloat (negative : Bool) (mantissa : Nat) (exponent : Int) : Float :=
  let magnitude : Int := digitCount mantissa + exponent
  let x : Float :=
    if mantissa = 0 then 0.0
    else if 400 < magnitude then 1.0 / 0.0
    else if magnitude < -400 then 0.0
    else match exponent with
      | .ofNat e => Float.ofScientific mantissa false e
      | .negSucc e => Float.ofScientific mantissa true (e + 1)
  if negative then -x else x

/-- The whole number that ASCII digits denote. -/
def digitsValue (cs : List Char) : Nat :=
  cs.foldl (fun n c => 10 * n + (c.toNat - 48)) 0

/-- The digits a text starts with, and the rest. -/
def takeDigits (cs : List Char) : List Char × List Char :=
  (cs.takeWhile Text.isAsciiDigit, cs.dropWhile Text.isAsciiDigit)

/-- The exponent part `e±digits` that a text starts with, and the rest. -/
def takeExponent? : List Char → Option (Int × List Char)
  | e :: rest =>
    if e = 'e' ∨ e = 'E' then
      let (negative, rest) := match rest with
        | '-' :: r => (true, r)
        | '+' :: r => (false, r)
        | r => (false, r)
      let (digits, rest) := takeDigits rest
      if digits.isEmpty then none
      else
        let n : Int := digitsValue digits
        some (if negative then -n else n, rest)
    else none
  | [] => none

end ErDiagram.Decimal
