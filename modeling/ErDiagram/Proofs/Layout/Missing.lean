import ErDiagram.Layout.Missing
import ErDiagram.Proofs.Except
import ErDiagram.Proofs.OrderedMap

/-!
# Filling in gives every entity a place

An entity without a finite place is taken out of the map and comes back at its end, whether or not
a place is found for it. So what is in the map afterwards is what was there before and the
entities that were asked for.

An entity with a finite place is passed over. If all entities of a map have one, the map is
therefore a prefix of what comes out: nothing is moved, and new entities come behind. This is how
what a strategy has computed is recognised in the finished layout.
-/

namespace ErDiagram.Layout

variable {g : Graph} {centre : Point Float}

/-- What is placed is in the map. -/
theorem mem_keys_of_isPlaced {m : SpotMap} {name : String} (h : m.isPlaced name = true) :
    name ∈ m.keys := by
  unfold SpotMap.isPlaced at h
  cases hget : m.get? name with
  | none =>
    rw [hget] at h
    cases h
  | some v => exact OrderedMap.mem_keys_of_get?_eq_some hget

theorem exists_spots_of_placeNear {s s' : Placing} {name : String}
    (h : placeNear g centre s name = .ok s') :
    ∃ v, s'.spots = s.spots.insert name v := by
  unfold placeNear at h
  obtain ⟨partners, _, h⟩ := Except.bind_eq_ok.1 h
  obtain ⟨⟨found, random⟩, _, h⟩ := Except.bind_eq_ok.1 h
  cases h
  exact ⟨found, rfl⟩

/-- **One entity is filled in**, and no other is lost. That it is taken out first does not show in
the keys, only in their order. -/
theorem mem_keys_placeIfMissing {s s' : Placing} {name : String}
    (h : placeIfMissing g centre s name = .ok s') (x : String) :
    x ∈ s'.spots.keys ↔ x ∈ s.spots.keys ∨ x = name := by
  unfold placeIfMissing at h
  split at h
  · next hplaced =>
    cases h
    exact ⟨.inl, fun hx => hx.elim id fun hx => hx ▸ mem_keys_of_isPlaced hplaced⟩
  · -- the entity is taken out first, so that it comes back last
    obtain ⟨v, hv⟩ := exists_spots_of_placeNear h
    rw [hv, OrderedMap.mem_keys_insert, OrderedMap.keys_erase, List.mem_filter]
    by_cases hx : x = name <;> simp [hx]

theorem mem_keys_placeAll {names : List String} {s s' : Placing}
    (h : placeAll g centre s names = .ok s') (x : String) :
    x ∈ s'.spots.keys ↔ x ∈ s.spots.keys ∨ x ∈ names := by
  induction names generalizing s with
  | nil =>
    cases h
    simp
  | cons name rest ih =>
    rw [placeAll] at h
    obtain ⟨s₁, hs₁, h⟩ := Except.bind_eq_ok.1 h
    rw [ih h, mem_keys_placeIfMissing hs₁, List.mem_cons, or_assoc]

/-- **Filling in adds the names that it is asked for**, and nothing else. Those that have a place
already are asked for too, and keep their keys. -/
theorem mem_keys_fillMissing {names : List String} {random : Twister} {m m' : SpotMap}
    (h : fillMissing g names centre random m = .ok m') (x : String) :
    x ∈ m'.keys ↔ x ∈ m.keys ∨ x ∈ names := by
  unfold fillMissing at h
  obtain ⟨s, hs, h⟩ := Except.bind_eq_ok.1 h
  cases h
  exact mem_keys_placeAll hs x

/-! ## What has a place keeps it

Places are filled in behind those that are there. So what was placed before is a beginning of the
map in the end, as long as all of it is finite. -/

theorem SpotMap.isPlaced_of_isPrefix {m m' : SpotMap} (h : m.entries <+: m'.entries)
    {n : String} (hn : m.isPlaced n = true) : m'.isPlaced n = true := by
  unfold SpotMap.isPlaced at hn ⊢
  cases hget : m.get? n with
  | none =>
    rw [hget] at hn
    cases hn
  | some v =>
    rw [OrderedMap.get?_of_isPrefix h hget]
    rwa [hget] at hn

theorem isPrefix_placeIfMissing {m : SpotMap} (hm : ∀ n ∈ m.keys, m.isPlaced n = true)
    {s s' : Placing} {name : String} (h : placeIfMissing g centre s name = .ok s')
    (hs : m.entries <+: s.spots.entries) : m.entries <+: s'.spots.entries := by
  unfold placeIfMissing at h
  split at h
  · rw [← Except.ok.inj h]
    exact hs
  · next hmissing =>
    obtain ⟨v, hv⟩ := exists_spots_of_placeNear h
    have hname : name ∉ m.keys := fun hn => hmissing (SpotMap.isPlaced_of_isPrefix hs (hm name hn))
    have herased : name ∉ (s.spots.erase name).keys := by simp [OrderedMap.keys_erase]
    have hkept : m.entries.filter (fun e => e.1 ≠ name) = m.entries := by
      refine List.filter_eq_self.2 fun e he => decide_eq_true ?_
      rintro rfl
      exact hname (OrderedMap.mem_keys_of_mem_entries he)
    obtain ⟨later, hlater⟩ := hs
    rw [hv, OrderedMap.entries_insert_of_notMem herased]
    show m.entries <+: s.spots.entries.filter (fun e => e.1 ≠ name) ++ [(name, v)]
    rw [← hlater, List.filter_append, hkept, List.append_assoc]
    exact List.prefix_append _ _

theorem isPrefix_placeAll {m : SpotMap} (hm : ∀ n ∈ m.keys, m.isPlaced n = true)
    {names : List String} {s s' : Placing} (h : placeAll g centre s names = .ok s')
    (hs : m.entries <+: s.spots.entries) : m.entries <+: s'.spots.entries := by
  induction names generalizing s with
  | nil =>
    rw [← Except.ok.inj h]
    exact hs
  | cons name rest ih =>
    rw [placeAll] at h
    obtain ⟨s₁, hs₁, h⟩ := Except.bind_eq_ok.1 h
    exact ih h (isPrefix_placeIfMissing hm hs₁ hs)

/-- **Filling in moves nothing that has a finite place.** The entries stay at the beginning, with
their points and in their order. -/
theorem isPrefix_fillMissing {m m' : SpotMap} {names : List String} {random : Twister}
    (hm : ∀ n ∈ m.keys, m.isPlaced n = true) (h : fillMissing g names centre random m = .ok m') :
    m.entries <+: m'.entries := by
  unfold fillMissing at h
  obtain ⟨s, hs, h⟩ := Except.bind_eq_ok.1 h
  rw [← Except.ok.inj h]
  exact isPrefix_placeAll hm hs (List.prefix_refl _)

@[simp] theorem SpotMap.keys_ofPositions (m : PositionMap Float) :
    (SpotMap.ofPositions m).keys = m.keys :=
  OrderedMap.keys_mapValues _ m

theorem SpotMap.get?_ofPositions (m : PositionMap Float) (n : String) :
    (SpotMap.ofPositions m).get? n = (m.get? n).map some := by
  cases hget : m.get? n with
  | none =>
    rw [OrderedMap.get?_eq_none_iff] at hget
    exact OrderedMap.get?_eq_none_iff.2 (by rwa [SpotMap.keys_ofPositions])
  | some p =>
    refine OrderedMap.get?_eq_some_iff.2 (List.mem_map.2 ⟨(n, p), ?_, rfl⟩)
    exact OrderedMap.get?_eq_some_iff.1 hget

/-- **The points of all entities have their keys**, in the same order. -/
theorem SpotMap.keys_of_positions_eq_ok {m : SpotMap} {p : PositionMap Float}
    (h : m.positions = .ok p) : p.keys = m.keys := by
  unfold SpotMap.positions at h
  split at h
  · next hall =>
    cases h
    exact OrderedMap.keys_present (List.all_eq_true.1 hall)
  · cases h

end ErDiagram.Layout
