import ErDiagram.Proofs.OrderedMap
import ErDiagram.Refinement.Passes

/-!
# Refinement moves entities, and does nothing else

Each pass gives new places to entities that have one. The map that comes out therefore has the
keys of the map that went in, in the same order, whatever the numbers of the refinement are. There
is no hypothesis about the numbers anywhere, and the lemmas are about an arbitrary `Scalar`.

A pass writes into a map only under a name that it has just looked up there, or, in the third
pass, under a name of the list of entries that it goes through. A map keeps the place of a key
that it has already, so that neither adds a key nor changes the order. One lemma
(`keys_foldl_moves`) carries this through every fold, given that one step does it.
-/

namespace ErDiagram.Refinement

variable {α : Type} [Scalar α]

omit [Scalar α] in
/-- Moves that keep the keys of a map, one after the other, keep its keys. A step is only asked
about maps with these keys, since the third pass knows that a name is a key only from the list
that it goes through. -/
theorem keys_foldl_moves {β : Type} {step : Moves α → β → Moves α} {keys : List String}
    {l : List β} (h : ∀ s, s.positions.keys = keys → ∀ b ∈ l, (step s b).positions.keys = keys)
    {s : Moves α} (hs : s.positions.keys = keys) : (l.foldl step s).positions.keys = keys :=
  List.foldlRecOn (motive := fun s => s.positions.keys = keys) l step hs h

omit [Scalar α] in
/-- Two entities that have a place keep it in the order, when both are given new ones. The first
two passes move the two entities of a pair in this way. -/
theorem keys_insert_insert {m : PositionMap α} {a b : String} {p q p' q' : Point α}
    (ha : m.get? a = some p) (hb : m.get? b = some q) :
    ((m.insert a p').insert b q').keys = m.keys := by
  have hkeys := OrderedMap.keys_insert_of_mem (OrderedMap.mem_keys_of_get?_eq_some ha) p'
  rw [OrderedMap.keys_insert_of_mem, hkeys]
  rw [hkeys]
  exact OrderedMap.mem_keys_of_get?_eq_some hb

/-! ## The passes -/

theorem keys_correctPair (minDistance : α) (s : Moves α) (p : Pair) :
    (correctPair minDistance s p).positions.keys = s.positions.keys := by
  unfold correctPair
  split
  · next ha hb =>
    split
    · rfl
    · exact keys_insert_insert ha hb
  · rfl

theorem keys_sweep (minDistance : α) (m : PositionMap α) :
    (sweep minDistance m).positions.keys = m.keys :=
  keys_foldl_moves (fun s hs p _ => (keys_correctPair minDistance s p).trans hs) rfl

theorem keys_resolveCollisions (minDistance : α) (sweeps : Nat) (m : PositionMap α) :
    (resolveCollisions minDistance sweeps m).positions.keys = m.keys := by
  induction sweeps generalizing m with
  | zero => rfl
  | succ sweeps ih =>
    rw [resolveCollisions]
    split
    · exact keys_sweep minDistance m
    · exact (ih _).trans (keys_sweep minDistance m)

theorem keys_tightenPair (threshold share minDistance : α) (s : Moves α)
    (ends : String × String) :
    (tightenPair threshold share minDistance s ends).positions.keys = s.positions.keys := by
  obtain ⟨source, target⟩ := ends
  unfold tightenPair
  dsimp only
  split
  · rfl
  split
  · next hp hq =>
    split
    · rfl
    split
    · exact keys_insert_insert hp hq
    · rfl
  · rfl

theorem keys_tighten (threshold share minDistance : α) (ends : List (String × String))
    (m : PositionMap α) :
    (tighten threshold share minDistance ends m).positions.keys = m.keys :=
  keys_foldl_moves
    (fun s hs e _ => (keys_tightenPair threshold share minDistance s e).trans hs) rfl

theorem keys_clearEntity (buffer minDistance : α) (seg : Segment α) (normal : Point α)
    (source target : String) {s : Moves α} {e : String × Point α}
    (he : e.1 ∈ s.positions.keys) :
    (clearEntity buffer minDistance seg normal source target s e).positions.keys
      = s.positions.keys := by
  obtain ⟨name, p⟩ := e
  unfold clearEntity
  dsimp only
  split
  · rfl
  split
  · rfl
  split
  · exact OrderedMap.keys_insert_of_mem he _
  · rfl

theorem keys_clearLine (buffer minDistance : α) (s : Moves α) (ends : String × String) :
    (clearLine buffer minDistance s ends).positions.keys = s.positions.keys := by
  obtain ⟨source, target⟩ := ends
  unfold clearLine
  dsimp only
  split
  · rfl
  split
  · split
    · rfl
    · -- the entities that are visited were keys before the first of them was moved
      refine keys_foldl_moves (fun s' hs' e he => ?_) rfl
      have hkey : e.1 ∈ s'.positions.keys := hs' ▸ OrderedMap.mem_keys_of_mem_entries he
      exact (keys_clearEntity buffer minDistance _ _ _ _ hkey).trans hs'
  · rfl

theorem keys_clearLines (buffer minDistance : α) (ends : List (String × String))
    (m : PositionMap α) : (clearLines buffer minDistance ends m).positions.keys = m.keys :=
  keys_foldl_moves (fun s hs e _ => (keys_clearLine buffer minDistance s e).trans hs) rfl

theorem keys_enforceBounds (margin : α) (m : PositionMap α) :
    (enforceBounds margin m).keys = m.keys := by
  unfold enforceBounds
  split
  · rfl
  · exact OrderedMap.keys_mapValues _ m

/-- **Refinement keeps every entity in its place of the order**, and adds none. The four passes
follow each other, and so do their lemmas. -/
theorem keys_refine (o : Options α) (ends : List (String × String)) (m : PositionMap α) :
    (refine o ends m).keys = m.keys := by
  unfold refine
  dsimp only
  rw [keys_enforceBounds, keys_clearLines, keys_tighten, keys_resolveCollisions]

end ErDiagram.Refinement
