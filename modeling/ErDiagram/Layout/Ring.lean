import ErDiagram.Layout.Error

/-!
# Rings

Directions that are evenly spaced around a point and turned away from directions that are taken
already. This is how the satellites of a hub keep clear of the hub's other neighbours.

Turning a ring by a whole step changes nothing, so that only turns within a step are tried, eight
of them. The first of the best turns is taken, where a later one has to be better by more than
rounding: two turns that are equally good by symmetry may differ in a last bit, and which of them is
taken should not hang on that.
-/

namespace ErDiagram.Layout

/-- A full turn. -/
def fullTurn : Float := 2 * FloatScalar.pi

/-- How far two directions are apart, the shorter way around. Directions may be given as any
number of turns. -/
def angleBetween (a b : Float) : Float :=
  (FloatScalar.remainder (a - b + FloatScalar.pi) fullTurn - FloatScalar.pi).abs

/-- Evenly spaced directions from an offset on. -/
def spread (offset step : Float) (count : Nat) : List Float :=
  (List.range count).map fun i => offset + Float.ofNat i * step

/-- How far the directions of a ring are from the taken ones, at the closest. It is asked only
where there are both; zero stands for the rest. -/
def gap (directions taken : List Float) : Float :=
  match directions.flatMap fun a => taken.map (angleBetween a) with
  | [] => 0
  | d :: rest => Scalar.leastOf d rest

/-- The turns of a ring that are tried. -/
def turns : Nat := 8

/-- A turn of a ring, with its gap to the taken directions. The one to start with has a negative
gap, which no turn that is tried has. -/
structure Turn where
  /-- The first direction. -/
  offset : Float := 0
  /-- The gap. -/
  gap : Float := -1

/-- **The directions of a ring**: of eight turns the first with the greatest gap to the taken
directions. A gap counts as greater only if it is so by more than rounding. A ring of less than
nothing has no directions, and so no gap either. -/
def ringAngles (count : Int) (taken : List Float) : Except LayoutError (List Float) :=
  if count = 0 then .error .divisionByZero
  else
    let step := fullTurn / Float.ofInt count
    let count := count.toNat
    if taken.isEmpty then .ok ((List.range count).map fun i => Float.ofNat i * step)
    else if count = 0 then .error .noDirection
    else
      let best := (List.range turns).foldl (fun (best : Turn) k =>
        let offset := Float.ofNat k * step / 8
        let d := gap (spread offset step count) taken
        if best.gap + 1e-9 < d then ⟨offset, d⟩ else best) {}
      .ok (spread best.offset step count)

end ErDiagram.Layout
