import Mathlib.Data.Finset.Card
import Mathlib.Data.List.Induction

/-!
# Each once, in the order of first occurrences

`List.eraseDups` keeps the first occurrence of everything in a list. A list that grows at its end
is read by one equation: what is new comes last, and what is there changes nothing. This is how
names are declared, so that the names of a diagram are the first occurrences of all names that it
mentions.

The equation of the library takes a list apart at its front, where an element removes what is
equal to it from the rest. Declaring goes the other way, and so the inductions here are on lists
that grow at their end.
-/

namespace ErDiagram

variable {α : Type} [DecidableEq α]

/-- **What is appended counts if it is new.** -/
theorem eraseDups_concat (l : List α) (a : α) :
    (l ++ [a]).eraseDups = if a ∈ l then l.eraseDups else l.eraseDups ++ [a] := by
  rw [List.eraseDups_append]
  by_cases h : a ∈ l
  · rw [if_pos h]
    simp [List.removeAll, h]
  · rw [if_neg h]
    simp [List.removeAll, h, List.eraseDups_cons]

theorem nodup_eraseDups (l : List α) : l.eraseDups.Nodup := by
  induction l using List.reverseRecOn with
  | nil => exact List.nodup_nil
  | append_singleton l a ih =>
    rw [eraseDups_concat]
    split
    · exact ih
    · next h =>
      refine List.nodup_append.2 ⟨ih, by simp, fun x hx y hy => ?_⟩
      rw [List.mem_singleton.1 hy]
      rintro rfl
      exact h (List.mem_eraseDups.1 hx)

/-- A list without repetitions has nothing to erase. -/
theorem eraseDups_eq_self {l : List α} (hl : l.Nodup) : l.eraseDups = l := by
  induction l using List.reverseRecOn with
  | nil => rfl
  | append_singleton l a ih =>
    obtain ⟨hkept, -, hnew⟩ := List.nodup_append.1 hl
    rw [eraseDups_concat, if_neg fun ha => hnew a ha a (List.mem_singleton_self a) rfl, ih hkept]

/-- Things that occur once stand in the order of their places. -/
theorem pairwise_idxOf {l : List α} (hl : l.Nodup) :
    l.Pairwise fun a b => l.idxOf a < l.idxOf b := by
  rw [List.pairwise_iff_getElem]
  intro i j hi hj hij
  rwa [hl.idxOf_getElem, hl.idxOf_getElem]

/-- The last of things that occur once has the last place. -/
theorem idxOf_le_of_nodup_concat {l : List α} {a b : α} (hl : (l ++ [a]).Nodup)
    (hb : b ∈ l ++ [a]) : (l ++ [a]).idxOf b ≤ (l ++ [a]).idxOf a := by
  rcases List.mem_append.1 hb with hb | hb
  · exact ((List.pairwise_append.1 (pairwise_idxOf hl)).2.2 b hb a (List.mem_singleton_self a)).le
  · rw [List.mem_singleton.1 hb]

/-- **First occurrences stand in the order of their places.** -/
theorem pairwise_idxOf_eraseDups (l : List α) :
    l.eraseDups.Pairwise fun a b => l.idxOf a < l.idxOf b := by
  induction l using List.reverseRecOn with
  | nil => exact .nil
  | append_singleton l a ih =>
    have hplace : ∀ x ∈ l.eraseDups, (l ++ [a]).idxOf x = l.idxOf x := fun x hx =>
      List.idxOf_append_of_mem (List.mem_eraseDups.1 hx)
    have hkept : l.eraseDups.Pairwise fun x y => (l ++ [a]).idxOf x < (l ++ [a]).idxOf y := by
      refine ih.imp_of_mem fun hx hy hlt => ?_
      rwa [hplace _ hx, hplace _ hy]
    rw [eraseDups_concat]
    split
    · exact hkept
    · next hnew =>
      refine List.pairwise_append.2 ⟨hkept, List.pairwise_singleton _ a, fun x hx y hy => ?_⟩
      rw [List.mem_singleton.1 hy, hplace x hx, List.idxOf_append_of_notMem hnew]
      exact (List.idxOf_lt_length_of_mem (List.mem_eraseDups.1 hx)).trans_le (Nat.le_add_right _ _)

/-- Lists of the same things have as many different things. -/
theorem length_eraseDups_congr {l l' : List α} (h : ∀ a, a ∈ l ↔ a ∈ l') :
    l.eraseDups.length = l'.eraseDups.length := by
  refine List.Perm.length_eq ?_
  refine (List.perm_ext_iff_of_nodup (nodup_eraseDups l) (nodup_eraseDups l')).2 fun a => ?_
  rw [List.mem_eraseDups, List.mem_eraseDups, h]

/-- The different things in a list are as many as its finite set has. -/
theorem length_eraseDups (l : List α) : l.eraseDups.length = l.toFinset.card := by
  rw [← List.toFinset_card_of_nodup (nodup_eraseDups l)]
  congr 1
  ext a
  rw [List.mem_toFinset, List.mem_toFinset, List.mem_eraseDups]

/-- **A function makes as many different things of a list as are in it** exactly if it makes
different things of what is different. -/
theorem length_eraseDups_map_eq_iff {β : Type} [DecidableEq β] (f : α → β) (l : List α) :
    (l.map f).eraseDups.length = l.eraseDups.length ↔ Set.InjOn f {a | a ∈ l} := by
  have himage : (l.map f).toFinset = l.toFinset.image f := by
    ext b
    simp
  rw [length_eraseDups, length_eraseDups, himage, Finset.card_image_iff, List.coe_toFinset]

end ErDiagram
