/-!
# Surrogates without a partner

A text can be given by code units, and a unit that is half of a pair may stand there without
the other half. Such a unit is no character. In a string a character of its own stands in for
it, from a block near the end of the last private plane.

A character of Lean is never half of a pair, so that without a stand-in such a text could not be a
`String` at all. With it, texts are strings everywhere, and the few places that have to know ask for
the unit of a character (`unitOf`). The price is a text that has characters of this block already,
which are taken for units.
-/

namespace ErDiagram.Text

/-- The code point of the character that stands in for the first surrogate. -/
def firstStandIn : Nat := 0x10f000

/-- Whether a code unit is half of a pair. -/
def isSurrogate (unit : Nat) : Bool := 0xd800 ≤ unit && unit ≤ 0xdfff

/-- The character that stands in for a surrogate. -/
def standIn (unit : Nat) : Char := Char.ofNat (firstStandIn + (unit - 0xd800))

/-- The surrogate that a character stands in for, if it does. -/
def surrogate? (c : Char) : Option Nat :=
  if firstStandIn ≤ c.toNat ∧ c.toNat < firstStandIn + 0x800 then
    some (0xd800 + (c.toNat - firstStandIn))
  else none

/-- The number of a character: its code point, or the surrogate that it stands in for. -/
def unitOf (c : Char) : Nat := (surrogate? c).getD c.toNat

end ErDiagram.Text
