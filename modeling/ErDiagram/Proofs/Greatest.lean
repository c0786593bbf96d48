import Mathlib.Data.List.Induction

/-!
# The first of the greatest

Keeping the better of two, and the earlier one if they are equal, is how the best of a list is
found. What is kept in the end is the first of the greatest: all before it are less, and nothing
after it is greater.

The place in the list matters to those who keep something, since it is how ties are broken. So the
list is cut at what is kept, and the two parts are compared with it in different ways.
-/

namespace ErDiagram

/-- **What is kept of a list is the first of the greatest.** -/
theorem exists_foldl_greatest {β : Type} (key : β → ℕ) (first : β) (rest : List β) :
    ∃ earlier later,
      first :: rest = earlier ++
        rest.foldl (fun best b => if key best < key b then b else best) first :: later ∧
      (∀ b ∈ earlier,
        key b < key (rest.foldl (fun best b => if key best < key b then b else best) first)) ∧
      ∀ b ∈ later,
        key b ≤ key (rest.foldl (fun best b => if key best < key b then b else best) first) := by
  induction rest using List.reverseRecOn with
  | nil => exact ⟨[], [], rfl, nofun, nofun⟩
  | append_singleton rest b ih =>
    obtain ⟨earlier, later, hsplit, hearlier, hlater⟩ := ih
    rw [List.foldl_append, List.foldl_cons, List.foldl_nil, ← List.cons_append, hsplit]
    generalize rest.foldl (fun best b => if key best < key b then b else best) first = best at *
    split
    · next hlt =>
      refine ⟨earlier ++ best :: later, [], rfl, fun c hc => ?_, nofun⟩
      rcases List.mem_append.1 hc with hc | hc
      · exact Nat.lt_trans (hearlier c hc) hlt
      · rcases List.mem_cons.1 hc with rfl | hc
        · exact hlt
        · exact Nat.lt_of_le_of_lt (hlater c hc) hlt
    · next hle =>
      refine ⟨earlier, later ++ [b], by simp, hearlier, fun c hc => ?_⟩
      rcases List.mem_append.1 hc with hc | hc
      · exact hlater c hc
      · exact List.mem_singleton.1 hc ▸ Nat.le_of_not_lt hle

end ErDiagram
