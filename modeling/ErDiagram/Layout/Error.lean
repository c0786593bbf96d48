import ErDiagram.Geometry.FloatScalar
import ErDiagram.Text.Quoted

/-!
# Why a layout fails

A layout places every entity, unless its settings are infinite or negative where they should not
be, or there are more entities than coordinates.

The errors are those of the arithmetic. None of them is raised by a check: the settings are taken
as they are, and an error comes up where a number cannot be rounded, or something has to be
divided by nothing. Only some have a wording, which is that of the operation that failed.
-/

namespace ErDiagram

/-- **Why a layout fails.** Each constructor is one kind of operation that can fail, so that a
statement about which errors a strategy can have is one about what it computes. -/
inductive LayoutError where
  /-- No strategy has this name. -/
  | unknownStrategy (name : String)
  /-- A coordinate that is to be rounded is not finite. -/
  | rounding (e : RoundingError)
  /-- No distance can be compared where an entity should be placed, so that it stays without a
  point. See `Diagram.spots` for the map that has such an entity. -/
  | noSpot
  /-- Taken directions are to be kept clear of by a ring that has none. -/
  | noDirection
  /-- Something is to be shared out among nothing, or shortened that has no length. -/
  | divisionByZero
  /-- A whole number is too great for a coordinate. -/
  | tooGreat
deriving Repr, DecidableEq

namespace LayoutError

/-- The wording of an error that has one. The others are told apart by their kind alone. -/
def message? : LayoutError → Option String
  | unknownStrategy name => some (Text.quoted name ++ " is not a valid LayoutStrategy")
  | rounding .notANumber => some "cannot convert float NaN to integer"
  | rounding .infinite => none
  | noSpot => none
  | noDirection => some "min() arg is an empty sequence"
  | divisionByZero => none
  | tooGreat => none

end LayoutError

/-- The nearest point with whole coordinates, in a layout. A coordinate that is not finite has
none. -/
def Point.snapped (p : Point Float) : Except LayoutError (Point Float) :=
  p.nearestWhole.mapError .rounding

end ErDiagram
