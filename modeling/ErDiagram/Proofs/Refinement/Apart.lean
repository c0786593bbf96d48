import ErDiagram.Proofs.Refinement.Spacing

/-!
# What becomes of two entities that are apart

In a map that is not spaced, the second and the third pass can still do no harm. Two entities that
are apart stay so, whatever the distances of all others are, as long as one of them only is moved
at a time: where it comes to be is clear of the other one. So the third pass keeps any two apart,
and the second all that are not the two ends of one relationship.

Nothing has to be proved again for this. `SpacedBut` says that a map is spaced as far as some
names are not looked at, and a pass keeps it with any names ignored. To follow two entities is to
ignore all names but these two (`othersThan`), and then being spaced is the same as the two being
apart, in both directions (`AreApart.spacedBut`, `SpacedBut.areApart`). The statement about two
entities is therefore an instance of the one about a map, and not a second proof beside it.

The exception of the second pass is real. The ends of a relationship move at once, and each is
only compared with third entities; how near they come to each other is a matter of the settings,
which is what `Options.KeepsSpacing` is about.
-/

namespace ErDiagram.Refinement

/-- **Two entities are apart**: both have a place, and their distance is at least the least one,
up to the tolerance. It is a property of the two and the map alone, so that it can be followed
through a pass in which other entities are too close to each other. That both have a place is a
part of it: otherwise two entities without a place would be apart, and a pass that lost one would
keep them so. -/
def AreApart (minDistance : ℝ) (m : PositionMap ℝ) (a b : String) : Prop :=
  ∃ p q, m.get? a = some p ∧ m.get? b = some q ∧ minDistance - tolerance ≤ p.distance q

/-- All names of a list but two. With these ignored, spacing is about the two alone. -/
def othersThan (a b : String) (names : List String) : List String :=
  names.filter fun k => k ≠ a ∧ k ≠ b

section Others

variable {a b : String} {names : List String}

theorem notMem_othersThan_iff {k : String} (hk : k ∈ names) :
    k ∉ othersThan a b names ↔ k = a ∨ k = b := by
  rw [othersThan, List.mem_filter, decide_eq_true_iff, not_and_or, not_and_or, not_not, not_not]
  exact or_iff_right (not_not.2 hk)

theorem notMem_othersThan (names : List String) :
    a ∉ othersThan a b names ∧ b ∉ othersThan a b names := by
  simp [othersThan]

variable {minDistance : ℝ} {m : PositionMap ℝ}

/-- If all but two entities are ignored, then spacing says that the two are apart. The names that
are ignored need only be among a list that has all names of the map. -/
theorem AreApart.spacedBut (h : AreApart minDistance m a b) (hnames : m.keys ⊆ names) :
    SpacedBut minDistance (othersThan a b names) m := by
  obtain ⟨p, q, hp, hq, hdistance⟩ := h
  have hpq := tooClose_eq_false_iff.2 hdistance
  have hleft : ∀ e ∈ m.entries, e.1 ∉ othersThan a b names → e = (a, p) ∨ e = (b, q) := by
    intro e he hi
    have hvalue : m.get? e.1 = some e.2 := OrderedMap.get?_eq_some_iff.2 he
    have hname : e.1 ∈ names := hnames (OrderedMap.mem_keys_of_mem_entries he)
    rcases (notMem_othersThan_iff hname).1 hi with ha | hb
    · rw [ha, hp] at hvalue
      exact .inl (Prod.ext ha (Option.some.inj hvalue).symm)
    · rw [hb, hq] at hvalue
      exact .inr (Prod.ext hb (Option.some.inj hvalue).symm)
  intro e he e' he' hi hi' hne
  rcases hleft e he hi with rfl | rfl <;> rcases hleft e' he' hi' with rfl | rfl
  · exact absurd rfl hne
  · exact hpq
  · rw [tooClose_comm]
    exact hpq
  · exact absurd rfl hne

theorem SpacedBut.areApart (h : SpacedBut minDistance (othersThan a b names) m)
    (ha : a ∈ m.keys) (hb : b ∈ m.keys) (hne : a ≠ b) : AreApart minDistance m a b := by
  obtain ⟨p, hp⟩ := OrderedMap.exists_get?_of_mem_keys ha
  obtain ⟨q, hq⟩ := OrderedMap.exists_get?_of_mem_keys hb
  obtain ⟨hout, hout'⟩ := notMem_othersThan (a := a) (b := b) names
  exact ⟨p, q, hp, hq, tooClose_eq_false_iff.1
    (h _ (OrderedMap.mem_entries_of_get?_eq_some hp) _
      (OrderedMap.mem_entries_of_get?_eq_some hq) hout hout' hne)⟩

theorem AreApart.mem_keys (h : AreApart minDistance m a b) : a ∈ m.keys ∧ b ∈ m.keys := by
  obtain ⟨p, q, hp, hq, -⟩ := h
  exact ⟨OrderedMap.mem_keys_of_get?_eq_some hp, OrderedMap.mem_keys_of_get?_eq_some hq⟩

/-- **Two entities stay apart** in a map with the same entities if the spacing is kept with any
others ignored. This is how what a pass does to a map becomes what it does to two entities; the
passes below differ only in the hypothesis that they discharge. -/
theorem AreApart.of_spacedBut {m' : PositionMap ℝ} (h : AreApart minDistance m a b) (hne : a ≠ b)
    (hkeys : m'.keys = m.keys) (hnames : m.keys ⊆ names)
    (hkeeps : SpacedBut minDistance (othersThan a b names) m →
      SpacedBut minDistance (othersThan a b names) m') : AreApart minDistance m' a b :=
  (hkeeps (h.spacedBut hnames)).areApart (hkeys ▸ h.mem_keys.1) (hkeys ▸ h.mem_keys.2) hne

end Others

/-! ## The passes -/

section Passes

variable {a b : String} {m : PositionMap ℝ} {ends : List (String × String)}

theorem AreApart.clearLines {minDistance : ℝ} (h : AreApart minDistance m a b) (hne : a ≠ b)
    (buffer : ℝ) (ends : List (String × String)) :
    AreApart minDistance (clearLines buffer minDistance ends m).positions a b :=
  h.of_spacedBut hne (keys_clearLines buffer minDistance ends m) (List.Subset.refl _)
    (spacedBut_clearLines buffer ends)

theorem AreApart.tighten {o : Options ℝ} (h : AreApart o.minDistance m a b) (hne : a ≠ b)
    (hend : (a, b) ∉ ends) (hend' : (b, a) ∉ ends) :
    AreApart o.minDistance (tighten o.threshold o.pull o.minDistance ends m).positions a b := by
  -- names of ends that have no place are ignored as well
  have hnames : m.keys ⊆ m.keys ++ ends.flatMap fun e => [e.1, e.2] := List.subset_append_left _ _
  refine h.of_spacedBut hne (keys_tighten o.threshold o.pull o.minDistance ends m) hnames
    (spacedBut_tighten fun e he hdiffer hi hi' => ?_)
  have hmem {k} (hk : k ∈ [e.1, e.2]) : k ∈ m.keys ++ ends.flatMap fun e => [e.1, e.2] :=
    List.mem_append_right _ (List.mem_flatMap.2 ⟨e, he, hk⟩)
  have hfirst := (notMem_othersThan_iff (hmem List.mem_cons_self)).1 hi
  have hsecond := (notMem_othersThan_iff (hmem (List.mem_pair.2 (.inr rfl)))).1 hi'
  rcases hfirst with ha | hb <;> rcases hsecond with ha' | hb'
  · exact absurd (ha.trans ha'.symm) hdiffer
  · have heq : e = (a, b) := Prod.ext ha hb'
    exact absurd (heq ▸ he) hend
  · have heq : e = (b, a) := Prod.ext hb ha'
    exact absurd (heq ▸ he) hend'
  · exact absurd (hb.trans hb'.symm) hdiffer

/-- **The second and the third pass bring no two entities too close** that were apart before, with
one exception: the second pass may do so to the two ends of one relationship. This holds for all
settings and maps, spaced or not: neither the distance that the ends of a relationship keep nor
the distances of the other entities are asked for. Both passes keep the entities in their order,
so that no entity escapes by losing its place. -/
theorem areApart_after_passes (o : Options ℝ) (d : Diagram) (m : PositionMap ℝ) :
    ((tighten o.threshold o.pull o.minDistance d.ends m).positions.keys = m.keys ∧
      ∀ a b, a ≠ b → AreApart o.minDistance m a b → (a, b) ∉ d.ends → (b, a) ∉ d.ends →
        AreApart o.minDistance
          (tighten o.threshold o.pull o.minDistance d.ends m).positions a b) ∧
    ((clearLines o.buffer o.minDistance d.ends m).positions.keys = m.keys ∧
      ∀ a b, a ≠ b → AreApart o.minDistance m a b →
        AreApart o.minDistance
          (clearLines o.buffer o.minDistance d.ends m).positions a b) :=
  ⟨⟨keys_tighten _ _ _ _ _, fun _ _ hne h hend hend' => h.tighten hne hend hend'⟩,
    ⟨keys_clearLines _ _ _ _, fun _ _ hne h => h.clearLines hne o.buffer d.ends⟩⟩

/-- Two entities and a third one that has no part in the relationship between them, far enough
from both, and from the point where a pull of all the way would bring them. -/
noncomputable def watched : PositionMap ℝ where
  entries := [("A", ⟨100, 100⟩), ("B", ⟨700, 100⟩), ("C", ⟨400, 400⟩)]
  nodup_keys := by
    show ["A", "B", "C"].Nodup
    decide

/-- Also where two ends are pulled to the middle and meet there, one of them is still apart from a
third entity. -/
theorem areApart_after_passes_watched :
    AreApart 140 watched "A" "C" ∧
      AreApart 140 (tighten 400 1 140 related.ends watched).positions "A" "C" ∧
      AreApart 140 (clearLines 70 140 related.ends watched).positions "A" "C" := by
  have hapart : AreApart pulledToMiddle.minDistance watched "A" "C" := by
    refine ⟨⟨100, 100⟩, ⟨400, 400⟩, rfl, rfl, ?_⟩
    rw [tolerance_real, Point.distance_real, pulledToMiddle]
    refine Real.le_sqrt_of_sq_le ?_
    norm_num
  obtain ⟨⟨-, htighten⟩, ⟨-, hclear⟩⟩ := areApart_after_passes pulledToMiddle related watched
  exact ⟨hapart, htighten "A" "C" (by decide) hapart (by decide) (by decide),
    hclear "A" "C" (by decide) hapart⟩

end Passes

end ErDiagram.Refinement
