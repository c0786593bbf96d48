import ErDiagram.Layout.Placement

/-!
# The layered engine over a graph library

The layers of a diagram are computed by an engine that builds a graph from the relationships and
leaves two searches to a graph library: that for the connected components, and that for the layers
around some roots. A name that a relationship mentions is in the graph whether it is declared or
not, but it has no place in the order of the declarations, so that looking up this place fails.
When the engine fails, the diagram gets a grid.

The library is a parameter, `GraphLibrary`. What it is documented to do leaves the order open in
which it answers, and the engine sorts whatever comes, so that nothing here depends on one
library. The layers of `ErDiagram.Layout.Layered` are computed without any, with searches that are
defined there. That for a library that does what it is documented to do both are the same layout,
and that the engine fails just where that layout does not exist, is proved in
`ErDiagram.Proofs.Layout.Engine`.
-/

namespace ErDiagram.Layout

/-- **What the engine asks of a graph library.** An answer may be an error, for which there is
`none`: which one does not matter, since every error of the library has the same effect. -/
structure GraphLibrary where
  /-- The connected components of a graph, in any order, the names of each in any order. -/
  components : Graph → Option (List (List String))
  /-- The layers of a breadth-first search from some names, the names of each in any order. -/
  bfsLayers : Graph → List String → Option (List (List String))

/-- **Why the layered engine fails.** All of these lead to a grid. They are told apart because the
statement about the engine says which failure is possible at all. -/
inductive EngineFailure where
  /-- The graph library does. -/
  | library
  /-- A name has no place in the order of the declarations. -/
  | undeclared (name : String)
  /-- The first or the least of nothing is asked for. -/
  | nothing
  /-- Not all names have got a position. -/
  | unplaced
deriving Repr, DecidableEq

namespace Engine

/-- Adds the two ends of a relationship and joins them, unless they are the same name. Unlike in
the connectivity graph, the ends need not be declared. -/
def addEnds (g : Graph) (e : String × String) : Graph :=
  if e.1 = e.2 then g else ((g.addName e.1).addName e.2).addEdge e.1 e.2

/-- **The graph of the engine**: all names, declared or mentioned, and which are joined. Names that
are only mentioned come behind all that are declared. -/
def graph (names : List String) (ends : List (String × String)) : Graph :=
  ends.foldl addEnds (.ofNames names)

/-- **The order of the declarations**: the last place of each name, since a name that is declared
again overwrites its place. -/
def order (names : List String) : OrderedMap String Nat := .ofList names.zipIdx

/-- The place of a name in the order. -/
def place (order : OrderedMap String Nat) (name : String) : Except EngineFailure Nat :=
  match order.get? name with
  | some i => .ok i
  | none => .error (.undeclared name)

/-- The least place of some names. It fails if one of them has no place, and also if there are
none, which is a component that the library has no business to find. -/
def leastPlace (order : OrderedMap String Nat) (names : List String) :
    Except EngineFailure Nat := do
  (← names.mapM (place order)).min?.elim (.error .nothing) .ok

/-- **Sorts by a key** that may fail to be there. Items with the same key keep their order. All
keys are looked up before anything is compared, so that a missing one is an error also where there
is nothing to compare it with. -/
def sortBy {β : Type} (key : β → Except EngineFailure Nat) (l : List β) :
    Except EngineFailure (List β) := do
  let keyed ← l.mapM fun b => return (← key b, b)
  return (keyed.mergeSort fun a b => a.1 ≤ b.1).map Prod.snd

/-- The mean rank of the neighbours of a name that have one, as the sum of their ranks and their
number. The fraction is left as it is, and compared by `Layered.meanLe` without rounding. -/
def barycentre (g : Graph) (rank : List (String × Nat)) (name : String) : Nat × Nat :=
  let places := rank.filterMap fun e => if g.adjacent name e.1 then some e.2 else none
  (places.foldl (· + ·) 0, places.length)

/-- Orders layers one after the other, by the ranks of what is in earlier ones. The ranks of all
earlier layers are kept: that the neighbours of a name are in the layer before its own, or in its
own, or in the next, is a property of the search and not assumed here. -/
def sweep (g : Graph) (rank : List (String × Nat)) : List (List String) → List (List String)
  | [] => []
  | layer :: rest =>
    let layer := layer.mergeSort fun a b =>
      Layered.meanLe (barycentre g rank a) (barycentre g rank b)
    layer :: sweep g (rank ++ layer.zipIdx) rest

/-- What a library answers. -/
def ask {β : Type} (answer : Option β) : Except EngineFailure β :=
  match answer with
  | some b => .ok b
  | none => .error .library

/-- **The layers of a component.** Its names are put in the order of the declarations first, since
the roots are looked for in this order. -/
def componentLayers (lib : GraphLibrary) (g : Graph) (ends : List (String × String))
    (order : OrderedMap String Nat) (component : List String) :
    Except EngineFailure (List (List String)) := do
  let members ← sortBy (place order) component
  let raw ← ask (lib.bfsLayers g (Layered.roots g ends members))
  match ← raw.mapM (sortBy (place order)) with
  | [] => .error .nothing
  | top :: rest => return top :: sweep g top.zipIdx rest

/-- **The layers of all components**, in the order of their earliest names. The library may find the
components in any order; sorting them by a key that differs for each takes its choice away. -/
def parts (lib : GraphLibrary) (ends : List (String × String)) (names : List String) :
    Except EngineFailure (List (List (List String))) := do
  let g := graph names ends
  let order := order names
  let components ← sortBy (leastPlace order) (← ask (lib.components g))
  components.mapM (componentLayers lib g ends order)

end Engine

/-- **The layered engine.** At the end it counts the entities that have got a place, and fails if
some have not. Names count once, however often they are declared. -/
def engine {α : Type} [Scalar α] (lib : GraphLibrary) (f : Layered.Frame α)
    (ends : List (String × String)) (names : List String) :
    Except EngineFailure (PositionMap α) := do
  let parts ← Engine.parts lib ends names
  let m := Layered.placeComponents f (Scalar.ofNat 0) parts .empty
  if m.keys.length = (Engine.order names).keys.length then return m else .error .unplaced

/-- **A diagram in layers**, or in a grid if the engine fails. This is the strategy as it is run,
with a library. -/
def layeredBy (lib : GraphLibrary) (a : Analysis) (ends : List (String × String))
    (names : List String) (s : Settings) : PositionMap Float :=
  if names.isEmpty then .empty
  else match engine lib (s.layerFrame a.pattern) ends names with
  | .ok m => m
  | .error _ => grid s.gridFrame (columnsFor names.length) a.graph names

end ErDiagram.Layout
