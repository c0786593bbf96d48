import ErDiagram.Proofs.Diagram.WellFormed

/-!
# The entity that was declared last

A document that gives its entities one after the other declares each of them and then says what is
known of it. While it does so, the entity is the last one, and what is said of it changes nothing
else.

A diagram of which the last entity is known is written as `d.append e`. The condition is always
the same: the name of `e` is not among those of `d`. Then `e` is the one that is found by its
name, and adding an attribute is a change of `e` alone. Proofs about reading entities are
inductions in which `d` grows by one entity at a time.
-/

namespace ErDiagram.Diagram

/-- The diagram with one more entity, whether its name is new or not. `Diagram.declare` is this
for a bare name that is new. -/
def append (d : Diagram) (e : Entity) : Diagram := { d with entities := d.entities ++ [e] }

variable {d : Diagram} {e : Entity}

theorem entityNames_append : (d.append e).entityNames = d.entityNames ++ [e.name] := by
  unfold entityNames append
  rw [List.map_append, List.map_singleton]

/-- A new name is declared at the end. -/
theorem declare_of_notMem {name : String} (h : name ∉ d.entityNames) :
    d.declare name = d.append { name } := if_neg h

theorem modifyEntity_go_append {l : List Entity} (f : Entity → Entity)
    (h : e.name ∉ l.map (·.name)) : modifyEntity.go e.name f (l ++ [e]) = l ++ [f e] := by
  induction l with
  | nil => exact if_pos rfl
  | cons e' l ih =>
    rw [List.map_cons, List.mem_cons, not_or] at h
    rw [List.cons_append, modifyEntity.go, if_neg (Ne.symm h.1), ih h.2, List.cons_append]

theorem modifyEntity_append (f : Entity → Entity) (h : e.name ∉ d.entityNames) :
    (d.append e).modifyEntity e.name f = d.append (f e) := by
  unfold modifyEntity append
  rw [modifyEntity_go_append f h]

theorem addAttribute_append (a : Attribute) (h : e.name ∉ d.entityNames) :
    (d.append e).addAttribute e.name a
      = d.append { e with attributes := e.attributes ++ [a] } := by
  have hmem : e.name ∈ (d.append e).entityNames := by
    rw [entityNames_append]
    exact List.mem_append_right _ (List.mem_singleton_self _)
  rw [addAttribute, declare_of_mem hmem, modifyEntity_append _ h]

/-- **The attributes of the last entity** grow at their end. Its name does not change on the way,
so that it is found again for each of them. -/
theorem foldl_addAttribute_append (l : List Attribute) (h : e.name ∉ d.entityNames) :
    l.foldl (·.addAttribute e.name ·) (d.append e)
      = d.append { e with attributes := e.attributes ++ l } := by
  induction l generalizing e with
  | nil => rw [List.append_nil, List.foldl_nil]
  | cons a l ih =>
    have hstep := ih (e := { e with attributes := e.attributes ++ [a] }) h
    rw [List.foldl_cons, addAttribute_append a h]
    refine hstep.trans ?_
    rw [List.append_assoc, List.singleton_append]

end ErDiagram.Diagram
