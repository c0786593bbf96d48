import ErDiagram.OrderedMap

/-!
# Points and position maps

Points are generic in their coordinates, so that what is computed with `Float` can also be read
with exact numbers. The vertical axis points down, as on a canvas.

A layout is a map from names to points that remembers the order in which the names came in. The
order is a part of the result: it decides in which order pairs are corrected and how the map is
written, and so it is a part of what is proved of layouts.
-/

namespace ErDiagram

/-- **A point of the plane.** The coordinates may be of any type, since a point is computed with
floating-point numbers and reasoned about with real ones. -/
structure Point (α : Type) where
  /-- The horizontal coordinate. -/
  x : α
  /-- The vertical coordinate. -/
  y : α
deriving Repr, DecidableEq

/-- **Where the centres of the named entities are**, in the order in which they were placed. That
no name is there twice is a part of the type. -/
abbrev PositionMap (α : Type) := OrderedMap String (Point α)

end ErDiagram
