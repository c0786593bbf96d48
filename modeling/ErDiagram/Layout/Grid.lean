import ErDiagram.Connectivity.Graph
import ErDiagram.Geometry.Scalar

/-!
# Grids

Entities in rows and columns, those with more neighbours first.

The grid is the strategy for diagrams with little structure, and the way out of the layered one.
It is the only strategy whose number of columns can be given from outside, as any whole number:
rows and columns are therefore integers, and division rounds down, so that a negative number of
columns fills a grid to the left and upwards.
-/

namespace ErDiagram.Layout

/-- The least number from `k` on, within some steps, that has a property. The bound on the steps
makes the recursion structural; it is chosen so large where it is used that it is never reached. -/
def leastFrom (p : Nat → Bool) : (steps k : Nat) → Nat
  | 0, k => k
  | steps + 1, k => if p k then k else leastFrom p steps (k + 1)

/-- How many columns a grid of some entities has: it is a little wider than high, so that the
square of the number of columns is at least six fifths of the number of entities. It is a square
root rounded up, which is found in whole numbers here, without any rounding. -/
def columnsFor (n : Nat) : Nat := leastFrom (fun k => 6 * n ≤ 5 * k * k) (n + 1) 1

/-- **Where the cells of a grid are.** The distances of columns and rows may be any numbers, also
negative ones or none at all; where cells have to be different, the statement says so. -/
structure Frame (α : Type) where
  /-- The first cell. -/
  origin : Point α
  /-- How far apart columns are. -/
  width : α
  /-- How far apart rows are. -/
  height : α

variable {α : Type} [Scalar α]

/-- The cell in some row and column; rows and columns before the first have negative numbers. -/
def Frame.cell (f : Frame α) (row column : Int) : Point α :=
  ⟨f.origin.x + Scalar.ofInt column * f.width, f.origin.y + Scalar.ofInt row * f.height⟩

/-- Names in the order of a grid: those with more neighbours first. The sort is stable, so that
among names with equally many neighbours the declarations decide. -/
def byDegree (g : Graph) (names : List String) : List String :=
  names.mergeSort fun a b => g.degree b ≤ g.degree a

/-- **Places names in a grid**, row by row. With a negative number of columns the grid grows
the other way in both directions. -/
def grid (f : Frame α) (columns : Int) (g : Graph) (names : List String) : PositionMap α :=
  .ofList ((byDegree g names).zipIdx.map fun (name, i) =>
    (name, f.cell (Int.fdiv i columns) (Int.fmod i columns)))

end ErDiagram.Layout
