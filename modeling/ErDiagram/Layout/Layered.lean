import ErDiagram.Connectivity.Pattern
import ErDiagram.Geometry.Scalar

/-!
# Layered layouts

Every component of a diagram is cut into layers by the distance from its roots, which are the
entities that no relationship points to. Within a layer entities are ordered by where their
neighbours in the layer before are. Components stand side by side.

A layer is what the one before leads to, of what is not in a layer yet (`reach`), and the
recursion ends because the list of what is left gets shorter. The same search from a single
entity, with the layers put together, gives its component. An order of the entities is never
stored: all lists are filtered from the list of all names, and have its order.

There is no graph library in this definition, and no failure but one, that a relationship refers
to a name that is not declared. `ErDiagram.Layout.Engine` has the computation with a library, step
for step; that the two agree is a theorem.
-/

namespace ErDiagram.Layout

namespace Layered

/-- Names in the order of their last occurrences, each once: the order of the declarations, in
which a name that is declared again stands at its last place. -/
def ordered (names : List String) : List String := names.reverse.eraseDups.reverse

/-- The entities of a list that have a neighbour in a layer. -/
def layerAfter (g : Graph) (unseen layer : List String) : List String :=
  unseen.filter fun n => layer.any (g.adjacent n)

/-- A list without the entities of another. -/
def without (l others : List String) : List String := l.filter fun n => !others.contains n

theorem length_without_layerAfter_lt {g : Graph} {unseen layer : List String}
    (h : layerAfter g unseen layer ≠ []) :
    (without unseen (layerAfter g unseen layer)).length < unseen.length := by
  obtain ⟨n, hn⟩ := List.exists_mem_of_ne_nil _ h
  have hc : (layerAfter g unseen layer).contains n = true := List.contains_iff_mem.2 hn
  exact List.length_filter_lt_length_iff_exists.2
    ⟨n, (List.mem_filter.1 hn).1, by rw [hc]; decide⟩

/-- **The layers from one on**: each has the neighbours of the one before that are in no earlier
one. The list of what is in no layer yet is an argument, so that what is found is taken from it,
and the entities of a layer have its order. -/
def reach (g : Graph) (unseen layer : List String) : List (List String) :=
  if _h : layerAfter g unseen layer = [] then [layer]
  else layer :: reach g (without unseen (layerAfter g unseen layer)) (layerAfter g unseen layer)
termination_by unseen.length
decreasing_by exact length_without_layerAfter_lt _h

/-- The entities that are connected with one, in the order of the list. What the search finds is
put back into this order, in which components are compared and roots are looked for. -/
def component (g : Graph) (names : List String) (name : String) : List String :=
  let found := (reach g (names.filter (· != name)) [name]).flatten
  names.filter found.contains

/-- **The components of a list of entities**, in the order of their first entities. Each is listed
at its first entity only, so that no list of visited entities has to be kept. -/
def components (g : Graph) (names : List String) : List String → List (List String)
  | [] => []
  | name :: rest =>
    let later := components g names rest
    let c := component g names name
    if c.head? = some name then c :: later else later

/-- The first of the entities with the most neighbours. -/
def mostConnected? (g : Graph) : List String → Option String
  | [] => none
  | first :: rest =>
    some (rest.foldl (fun best n => if g.degree best < g.degree n then n else best) first)

/-- **The roots of a component**: the entities that no other one points to, or, if there are none,
the first with the most neighbours. A relationship of an entity with itself is no reason for it
not to be a root. Direction counts only here; the layers go along relationships both ways. -/
def roots (g : Graph) (ends : List (String × String)) (members : List String) : List String :=
  let heads := members.filter fun n => !ends.any fun e => e.2 == n && e.1 != e.2
  if heads.isEmpty then (mostConnected? g members).toList else heads

/-- **The layers of a component** before they are ordered: by the distance from the roots. -/
def rawLayers (g : Graph) (ends : List (String × String)) (members : List String) :
    List (List String) :=
  let top := roots g ends members
  reach g (without members top) top

/-- The mean place of the neighbours of an entity in a layer, as the sum of their places and their
number. Only the layer before is looked at, which by the way layers are made has all neighbours in
earlier ones. -/
def barycentre (g : Graph) (layer : List String) (name : String) : Nat × Nat :=
  let places := layer.zipIdx.filterMap fun (n, i) => if g.adjacent name n then some i else none
  (places.foldl (· + ·) 0, places.length)

/-- Whether one mean is at most another; without neighbours it is greater than any. Means are
fractions and compared crosswise. Rounded quotients compare in the same way unless there are more
neighbours than any diagram has. -/
def meanLe (a b : Nat × Nat) : Bool :=
  if a.2 = 0 then b.2 == 0 else b.2 == 0 || a.1 * b.2 ≤ b.1 * a.2

/-- Orders a layer by the layer before. Entities with the same mean keep their order. -/
def sortLayer (g : Graph) (before layer : List String) : List String :=
  layer.mergeSort fun a b => meanLe (barycentre g before a) (barycentre g before b)

/-- Orders layers, one after the other, each by the one before as it has been ordered. -/
def sortLayers (g : Graph) (before : List String) : List (List String) → List (List String)
  | [] => []
  | layer :: rest =>
    let layer := sortLayer g before layer
    layer :: sortLayers g layer rest

/-- **The layers of a component.** -/
def layers (g : Graph) (ends : List (String × String)) (members : List String) :
    List (List String) :=
  match rawLayers g ends members with
  | [] => []
  | top :: rest => top :: sortLayers g top rest

/-- The number of entities in the widest layer. -/
def width (ls : List (List String)) : Nat := ls.foldl (fun w l => max w l.length) 0

/-- **How layers lie in the plane.** Both directions are computed in the same way, along a layer and
across layers, and which of these is horizontal is decided when a point is made of the two. -/
structure Frame (α : Type) where
  /-- Where the first layer starts. -/
  origin : Point α
  /-- Whether layers are columns, rather than rows. -/
  toRight : Bool
  /-- How far apart the entities of a layer are. -/
  along : α
  /-- How far apart layers are. -/
  across : α

variable {α : Type} [Scalar α]

/-- The point that is some way along and some way across layers. -/
def Frame.point (f : Frame α) (along across : α) : Point α :=
  if f.toRight then ⟨f.origin.x + across, f.origin.y + along⟩
  else ⟨f.origin.x + along, f.origin.y + across⟩

/-- Places a layer, in the middle of its component. -/
def placeLayer (f : Frame α) (offset : α) (wide index : Nat) (layer : List String)
    (m : PositionMap α) : PositionMap α :=
  let start := offset + Scalar.ofNat (wide - layer.length) * f.along / 2
  layer.zipIdx.foldl (fun m (name, i) =>
    m.insert name (f.point (start + Scalar.ofNat i * f.along) (Scalar.ofNat index * f.across))) m

/-- Places a component. -/
def placeComponent (f : Frame α) (offset : α) (ls : List (List String)) (m : PositionMap α) :
    PositionMap α :=
  ls.zipIdx.foldl (fun m (layer, index) => placeLayer f offset (width ls) index layer m) m

/-- Places components side by side: each starts where the widest layer of the one before ends. -/
def placeComponents (f : Frame α) : (offset : α) → List (List (List String)) →
    PositionMap α → PositionMap α
  | _, [], m => m
  | offset, ls :: rest, m =>
    placeComponents f (offset + Scalar.ofNat (width ls) * f.along) rest
      (placeComponent f offset ls m)

/-- Whether every relationship between two names joins declared ones. One of a name with itself
does not count, since the engine passes it over before it looks at names. -/
def isClosed (names : List String) (ends : List (String × String)) : Bool :=
  ends.all fun e => e.1 == e.2 || (names.contains e.1 && names.contains e.2)

end Layered

variable {α : Type} [Scalar α]

/-- **Places a diagram in layers**, if no relationship refers to a name that is not declared and
every name gets a place. The second is always so, but it is asked, and what is proved of the
layout says that it is. -/
def layered? (f : Layered.Frame α) (g : Graph) (ends : List (String × String))
    (names : List String) : Option (PositionMap α) :=
  if Layered.isClosed names ends then
    let order := Layered.ordered names
    let parts := (Layered.components g order order).map (Layered.layers g ends)
    let m := Layered.placeComponents f (Scalar.ofNat 0) parts .empty
    if m.keys.length = order.length then some m else none
  else none

end ErDiagram.Layout
