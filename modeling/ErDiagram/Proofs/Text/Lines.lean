import ErDiagram.Text.Split

/-!
# Cutting a text at one character

A separator ends the pieces of what stands before it and starts those of what stands behind it. So
a text that is put together from parts with a separator behind each of them is cut into the pieces
of these parts, and an empty one at the end. A part without the separator is one piece.

The last of these is what texts in a document rely on: they are written line by line, with a line
feed behind each, and a line that has a line feed in it is read as several.
-/

namespace ErDiagram.Text

theorem splitAt_of_notMem {sep : Char} {cs : List Char} (h : ∀ c ∈ cs, c ≠ sep) :
    splitAt sep cs = [cs] := by
  induction cs with
  | nil => rfl
  | cons c cs ih =>
    rw [splitAt, if_neg (h c List.mem_cons_self), ih fun d hd => h d (List.mem_cons_of_mem c hd)]

/-- No text is cut into nothing. -/
theorem splitAt_ne_nil (sep : Char) (cs : List Char) : splitAt sep cs ≠ [] := by
  cases cs with
  | nil => exact List.cons_ne_nil _ _
  | cons c cs =>
    rw [splitAt]
    split
    · exact List.cons_ne_nil _ _
    · split <;> exact List.cons_ne_nil _ _

/-- **A separator cuts a text in two**, and the parts are cut on their own. What is cut on one
side does not depend on the other side. -/
theorem splitAt_append_cons (sep : Char) (cs rest : List Char) :
    splitAt sep (cs ++ sep :: rest) = splitAt sep cs ++ splitAt sep rest := by
  induction cs with
  | nil => exact if_pos rfl
  | cons c cs ih =>
    rw [List.cons_append, splitAt, splitAt]
    by_cases hc : c = sep
    · rw [if_pos hc, if_pos hc, ih, List.cons_append]
    · obtain ⟨p, ps, hp⟩ := List.exists_cons_of_ne_nil (splitAt_ne_nil sep cs)
      rw [if_neg hc, if_neg hc, ih, hp]
      rfl

/-- **Parts with a separator behind each** are cut into their pieces. -/
theorem splitAt_flatMap_concat (sep : Char) (parts : List (List Char)) :
    splitAt sep (parts.flatMap (· ++ [sep])) = parts.flatMap (splitAt sep) ++ [[]] := by
  induction parts with
  | nil => rfl
  | cons p parts ih =>
    rw [List.flatMap_cons, List.append_assoc, List.singleton_append, splitAt_append_cons, ih,
      List.flatMap_cons, List.append_assoc]

/-- The lines of a text, as line feeds cut it. A text without a line feed is one line, also if it
is empty. -/
def pieces (s : String) : List String := (splitAt '\n' s.toList).map String.ofList

/-- Texts without line feeds are their own lines. -/
theorem flatMap_pieces_eq_self {ls : List String} (h : ∀ l ∈ ls, ∀ c ∈ l.toList, c ≠ '\n') :
    ls.flatMap pieces = ls := by
  induction ls with
  | nil => rfl
  | cons l ls ih =>
    rw [List.flatMap_cons, ih fun l' hl' => h l' (List.mem_cons_of_mem l hl'), pieces,
      splitAt_of_notMem (h l List.mem_cons_self), List.map_singleton, String.ofList_toList,
      List.singleton_append]

end ErDiagram.Text
