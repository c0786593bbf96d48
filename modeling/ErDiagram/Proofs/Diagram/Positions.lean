import ErDiagram.Diagram.Basic
import ErDiagram.Proofs.OrderedMap

/-!
# Writing places onto a diagram

A map of places is written entity by entity: an entity that the map names gets the place that the
map has for it, any other keeps what it has, be it a place, half of one or none. So nothing but
places changes, names of no entity are passed over, and of two maps that are written one after the
other the later one decides for the names that it has. Two maps are then as good as one, which is
the second laid over the first.

Everything is proved for a single entity first (`Entity.movedBy`), where no name has to be looked
for among the entities. A diagram is then a list to which one function is applied. Only the list
of places of a diagram needs distinct names: it is a map, and of entities with one name it can
have one only.
-/

namespace ErDiagram

/-! ## One entity -/

namespace Entity

variable {e : Entity} {m m₁ m₂ : PositionMap Float}

/-- **The entity with the place that a map has for it**, if it has one. -/
def movedBy (m : PositionMap Float) (e : Entity) : Entity :=
  ((m.get? e.name).map e.moveTo).getD e

/-- Whether two entities differ in their places at most. It is an equation, so that it covers all
other fields of an entity, and any that are added to it. -/
def EqButPlace (e e' : Entity) : Prop := e' = { e with x := e'.x, y := e'.y }

theorem movedBy_of_some {p : Point Float} (h : m.get? e.name = some p) :
    e.movedBy m = e.moveTo p := by
  rw [movedBy, h]
  rfl

theorem movedBy_of_none (h : m.get? e.name = none) : e.movedBy m = e := by
  rw [movedBy, h]
  rfl

theorem eqButPlace_movedBy (e : Entity) (m : PositionMap Float) : e.EqButPlace (e.movedBy m) := by
  cases h : m.get? e.name with
  | none => rw [movedBy_of_none h]; rfl
  | some p => rw [movedBy_of_some h]; rfl

@[simp] theorem name_movedBy (e : Entity) (m : PositionMap Float) :
    (e.movedBy m).name = e.name := by
  rw [eqButPlace_movedBy e m]

/-- **The place after a map is written** is that of the map, or else the one before. An entity
with half a place has none, before and after. -/
theorem center?_movedBy (e : Entity) (m : PositionMap Float) :
    (e.movedBy m).center? = (m.get? e.name).or e.center? := by
  cases h : m.get? e.name with
  | none => rw [movedBy_of_none h, Option.none_or]
  | some p => rw [movedBy_of_some h]; rfl

/-- **The later of two places stays.** Coordinates are set together, so that no half of the
earlier place is left. -/
theorem movedBy_movedBy (h : m.get? e.name = (m₂.get? e.name).or (m₁.get? e.name)) :
    (e.movedBy m₁).movedBy m₂ = e.movedBy m := by
  cases h₂ : m₂.get? e.name with
  | none =>
    rw [h₂, Option.none_or] at h
    rw [movedBy_of_none (by rw [name_movedBy, h₂]), movedBy, movedBy, h]
  | some p =>
    rw [h₂, Option.some_or] at h
    rw [movedBy_of_some (by rw [name_movedBy, h₂]), movedBy_of_some h, eqButPlace_movedBy e m₁]
    rfl

end Entity

/-! ## All entities -/

namespace Diagram

variable {d : Diagram} {m m₁ m₂ : PositionMap Float}

theorem applyPositions_eq (d : Diagram) (m : PositionMap Float) :
    d.applyPositions m = { d with entities := d.entities.map (Entity.movedBy m) } := rfl

theorem entities_applyPositions (d : Diagram) (m : PositionMap Float) :
    (d.applyPositions m).entities = d.entities.map (Entity.movedBy m) := rfl

theorem entityNames_applyPositions (d : Diagram) (m : PositionMap Float) :
    (d.applyPositions m).entityNames = d.entityNames := by
  rw [entityNames, entities_applyPositions, List.map_map]
  exact List.map_congr_left fun e _ => e.name_movedBy m

/-- **Where names differ, places are listed in the order of the entities.** -/
theorem entries_positions (hnames : d.entityNames.Nodup) :
    d.positions.entries = d.entities.filterMap fun e => e.center?.map (e.name, ·) := by
  refine OrderedMap.entries_ofList (hnames.sublist ?_)
  have hkeys := OrderedMap.sublist_keys_present (d.entities.map fun e => (e.name, e.center?))
  rwa [List.filterMap_map, List.map_map] at hkeys

/-- Where names differ, the place of a name is that of its entity. -/
theorem get?_positions (hnames : d.entityNames.Nodup) {e : Entity} (he : e ∈ d.entities) :
    d.positions.get? e.name = e.center? := by
  refine Option.ext fun p => ?_
  rw [OrderedMap.get?_eq_some_iff, entries_positions hnames, List.mem_filterMap]
  constructor
  · rintro ⟨e', he', hp⟩
    obtain ⟨p', hp', heq⟩ := Option.map_eq_some_iff.1 hp
    obtain ⟨hname, rfl⟩ := Prod.mk.inj heq
    rwa [List.inj_on_of_nodup_map hnames he he' hname.symm]
  · intro hp
    exact ⟨e, he, by rw [hp]; rfl⟩

/-- Only the places that a map has for entities matter. -/
theorem applyPositions_congr (h : ∀ e ∈ d.entities, e.movedBy m₁ = e.movedBy m₂) :
    d.applyPositions m₁ = d.applyPositions m₂ := by
  rw [applyPositions_eq, applyPositions_eq, List.map_congr_left h]

/-- **Two maps are as good as one**, the second laid over the first. It is the same statement for
each entity, since an entity looks for its own name only. -/
theorem applyPositions_applyPositions (d : Diagram) (m₁ m₂ : PositionMap Float) :
    (d.applyPositions m₁).applyPositions m₂ = d.applyPositions (m₁.overlay m₂) := by
  rw [applyPositions_eq, applyPositions_eq, applyPositions_eq, List.map_map]
  congr 1
  exact List.map_congr_left fun e _ =>
    Entity.movedBy_movedBy (OrderedMap.get?_overlay m₁ m₂ e.name)

/-- **The last place that is written wins, and nothing but places is written.** Where names differ,
the places after a map is written are listed in the order of the entities, each from the map if it
has one and as before otherwise. Only what the map has for entities matters. Title, relationships
and all other fields of the entities stay, and so does everything of an entity that the map does
not name. Two maps that are written one after the other are the second laid over the first. -/
theorem applyPositions_last_wins (hnames : d.entityNames.Nodup) (m₁ m₂ : PositionMap Float) :
    (d.applyPositions m₁).positions.entries
        = (d.entityNames.filterMap fun n =>
            ((m₁.get? n).or (d.positions.get? n)).map (n, ·)) ∧
      (∀ m, (∀ n ∈ d.entityNames, m.get? n = m₁.get? n) →
        d.applyPositions m = d.applyPositions m₁) ∧
      (d.applyPositions m₁).title = d.title ∧
      (d.applyPositions m₁).relationships = d.relationships ∧
      List.Forall₂ (fun e e' => e.EqButPlace e' ∧ (m₁.get? e.name = none → e' = e))
        d.entities (d.applyPositions m₁).entities ∧
      (∀ n, (m₁.overlay m₂).get? n = (m₂.get? n).or (m₁.get? n)) ∧
      (d.applyPositions m₁).applyPositions m₂ = d.applyPositions (m₁.overlay m₂) := by
  refine ⟨?_, fun m hm => applyPositions_congr fun e he => ?_, rfl, rfl, ?_,
    OrderedMap.get?_overlay m₁ m₂, applyPositions_applyPositions d m₁ m₂⟩
  · rw [entries_positions (by rwa [entityNames_applyPositions]), entities_applyPositions,
      entityNames, List.filterMap_map, List.filterMap_map]
    refine List.filterMap_congr fun e he => ?_
    rw [Function.comp_apply, Function.comp_apply, Entity.center?_movedBy, Entity.name_movedBy,
      get?_positions hnames he]
  · rw [Entity.movedBy, Entity.movedBy, hm e.name (List.mem_map_of_mem he)]
  · rw [entities_applyPositions]
    exact List.forall₂_map_right_iff.2
      (List.forall₂_same.2 fun e _ => ⟨e.eqButPlace_movedBy m₁, Entity.movedBy_of_none⟩)

/-- Four entities: one with a place, one with half of one, one with none, and one more with a
place. -/
def strewn : Diagram where
  entities := [{ name := "A", x := some 1, y := some 2 }, { name := "B", x := some 3 },
    { name := "C" }, { name := "D", x := some 4, y := some 5, weak := true }]

/-- Places for two of the entities and for a name of none. -/
def firstPlaces : PositionMap Float := .ofList [("Z", ⟨6, 6⟩), ("C", ⟨7, 7⟩), ("A", ⟨8, 8⟩)]

/-- Places for one of these two and for another entity. -/
def laterPlaces : PositionMap Float := .ofList [("B", ⟨9, 9⟩), ("C", ⟨10, 10⟩)]

theorem applyPositions_last_wins_strewn :
    strewn.entityNames.Nodup ∧
      (strewn.applyPositions firstPlaces).positions.entries
        = [("A", ⟨8, 8⟩), ("C", ⟨7, 7⟩), ("D", ⟨4, 5⟩)] ∧
      ((strewn.applyPositions firstPlaces).applyPositions laterPlaces).positions.entries
        = [("A", ⟨8, 8⟩), ("B", ⟨9, 9⟩), ("C", ⟨10, 10⟩), ("D", ⟨4, 5⟩)] := by
  have hnames : strewn.entityNames.Nodup := by decide
  obtain ⟨hfirst, -, -, -, -, -, hboth⟩ :=
    applyPositions_last_wins hnames firstPlaces laterPlaces
  refine ⟨hnames, hfirst, ?_⟩
  rw [hboth, (applyPositions_last_wins hnames (firstPlaces.overlay laterPlaces) laterPlaces).1]
  rfl

end Diagram

end ErDiagram
