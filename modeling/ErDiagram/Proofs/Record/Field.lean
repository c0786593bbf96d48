import ErDiagram.Record.Field

/-!
# Looking up the fields of a record

A record is a list of fields, and it is read only by looking them up. What is changed about a
record is therefore told by what is found in it afterwards: a field that is set, the fields that
are left out, and one that was found under another name.

A record that was written is read field by field. A field that is found is read as what it was
written from, and one that was left out as its default.

Fields that may be left out are written by one function (`ifSome`), and there is one lemma for
reading them back (`optional_of_map`), whatever the field holds. Kinds of values have a lemma
each, which says that what is written of a value is read as this value.
-/

namespace ErDiagram.Record

variable {r : Record} {key name : String} {v : Json}

theorem get?_cons (f : String × Json) (r : Record) (name : String) :
    get? (f :: r) name = if name = f.1 then some f.2 else r.get? name := by
  rw [get?, List.lookup_cons]
  by_cases h : name = f.1
  · rw [if_pos h, beq_iff_eq.2 h]
  · rw [if_neg h, beq_false_of_ne h]
    rfl

theorem get?_append (r r' : Record) (name : String) :
    get? (r ++ r') name = (r.get? name).or (get? r' name) := List.lookup_append

theorem has_eq_isSome (r : Record) (name : String) : r.has name = (r.get? name).isSome := by
  induction r with
  | nil => rfl
  | cons f r ih =>
    rw [get?_cons, has, List.any_cons]
    by_cases h : name = f.1
    · rw [if_pos h, beq_iff_eq.2 h.symm]
      rfl
    · rw [if_neg h, beq_false_of_ne (Ne.symm h)]
      exact ih

/-- A field is missing if it is none of those that are listed. -/
theorem get?_eq_none_iff : r.get? name = none ↔ name ∉ r.map Prod.fst := by
  induction r with
  | nil => exact iff_of_true rfl List.not_mem_nil
  | cons f r ih =>
    rw [get?_cons, List.map_cons, List.mem_cons, not_or, ← ih]
    split
    · next h => exact iff_of_false (Option.some_ne_none _) fun hn => hn.1 h
    · next h => rw [and_iff_right h]

/-- Replacing the value of a field changes what is found under its name, if anything is. -/
theorem get?_replace (r : Record) (key : String) (v : Json) (name : String) :
    get? (r.map fun f => if f.1 == key then (key, v) else f) name
      = if name = key then (r.get? key).map fun _ => v else r.get? name := by
  induction r with
  | nil => exact (ite_self none).symm
  | cons f r ih =>
    rw [List.map_cons, get?_cons, get?_cons, get?_cons, ih]
    by_cases hf : f.1 = key
    · rw [if_pos (beq_iff_eq.2 hf), hf, if_pos rfl]
      by_cases h : name = key
      · rw [if_pos h, if_pos h]
        rfl
      · rw [if_neg h, if_neg h, if_neg h, if_neg h]
    · rw [if_neg (mt beq_iff_eq.1 hf), if_neg (Ne.symm hf)]
      by_cases h : name = key
      · rw [if_pos h, if_pos h, if_neg (h ▸ Ne.symm hf)]
      · rw [if_neg h, if_neg h]

/-- **What is set is found**, and everything else as before. -/
theorem get?_set (r : Record) (key : String) (v : Json) (name : String) :
    (r.set key v).get? name = if name = key then some v else r.get? name := by
  unfold set
  rw [has_eq_isSome]
  cases hkey : r.get? key with
  | some w =>
    rw [Option.isSome_some, if_pos rfl, get?_replace, hkey]
    rfl
  | none =>
    rw [Option.isSome_none, if_neg Bool.false_ne_true, get?_append, get?_cons]
    by_cases h : name = key
    · rw [if_pos h, if_pos h, h, hkey]
      rfl
    · rw [if_neg h, if_neg h]
      exact Option.or_none

/-- A field that is left out is not found. -/
theorem get?_without (r : Record) (key name : String) :
    get? (r.filter (·.1 != key)) name = if name = key then none else r.get? name := by
  induction r with
  | nil => exact (ite_self none).symm
  | cons f r ih =>
    by_cases hf : f.1 = key
    · rw [List.filter_cons_of_neg (by simpa using hf), ih, get?_cons, hf]
      by_cases h : name = key
      · rw [if_pos h, if_pos h]
      · rw [if_neg h, if_neg h, if_neg h]
    · rw [List.filter_cons_of_pos (by simpa using hf), get?_cons, get?_cons, ih]
      by_cases h : name = f.1
      · rw [if_pos h, if_pos h, if_neg (h ▸ hf)]
      · rw [if_neg h, if_neg h]

/-- Fields without other names keep theirs. -/
theorem rename_eq_self {names : List (String × String)} (h : ∀ p ∈ names, r.get? p.1 = none) :
    r.rename names = r := by
  induction names with
  | nil => rfl
  | cons p names ih =>
    rw [rename, h p List.mem_cons_self]
    exact ih fun q hq => h q (List.mem_cons_of_mem p hq)

/-- A record that has none of the other names among its keys stays as it is. -/
theorem rename_of_keys_subset {names : List (String × String)} {keys : List String}
    (hkeys : r.map Prod.fst ⊆ keys) (h : ∀ p ∈ names, p.1 ∉ keys) : r.rename names = r :=
  rename_eq_self fun p hp => get?_eq_none_iff.2 fun hmem => h p hp (hkeys hmem)

/-- **A field with another name is found under its proper one**, and no longer under the
other. -/
theorem get?_rename_cons {old new : String} {names : List (String × String)}
    (hold : r.get? old = some v) (hnew : r.get? new = none) (hne : new ≠ old)
    (h : ∀ p ∈ names, r.get? p.1 = none ∧ p.1 ≠ new) (name : String) :
    (r.rename ((old, new) :: names)).get? name
      = if name = new then some v else if name = old then none else r.get? name := by
  have hget : ∀ n, get? (r.filter (·.1 != old) ++ [(new, v)]) n
      = if n = new then some v else if n = old then none else r.get? n := by
    intro n
    rw [get?_append, get?_without, get?_cons]
    by_cases hn : n = new
    · rw [hn, if_neg hne, if_pos rfl, if_pos rfl, hnew]
      rfl
    · rw [if_neg hn, if_neg hn]
      exact Option.or_none
  rw [rename, hold]
  dsimp only
  rw [has_eq_isSome, hnew, Option.isSome_none, if_neg Bool.false_ne_true, rename_eq_self, hget]
  intro p hp
  rw [hget, if_neg (h p hp).2, (h p hp).1, ite_self]

/-! ## Reading what was written -/

section Reading

variable {α : Type} {read : Json → Checked α} {a default : α}

theorem required_eq_ok (hv : r.get? name = some v) (ha : read v = .ok a) :
    r.required name read = .ok a := by
  rw [required, hv]
  dsimp only
  rw [ha]
  rfl

theorem optional_eq_ok (hv : r.get? name = some v) (ha : read v = .ok a) :
    r.optional name default read = .ok a := by
  rw [optional, hv]
  dsimp only
  rw [ha]
  rfl

/-- A field that is written only if there is something to write. It is a record of one field or
none, so that a record is put together of such parts. -/
def ifSome (key : String) (write : α → Json) (o : Option α) : Record :=
  o.toList.map fun a => (key, write a)

theorem get?_ifSome (key : String) (write : α → Json) (o : Option α) (name : String) :
    (ifSome key write o).get? name = if name = key then o.map write else none := by
  cases o with
  | none => exact (ite_self none).symm
  | some a => exact get?_cons (key, write a) [] name

theorem keys_ifSome_subset (key : String) (write : α → Json) (o : Option α) :
    (ifSome key write o).map Prod.fst ⊆ [key] := by
  cases o with
  | none => exact List.nil_subset _
  | some a => exact List.Subset.refl _

/-- **What was written only if it was there** is read back as it was. -/
theorem optional_of_map {write : α → Json} {read : Json → Checked (Option α)} {o : Option α}
    (hget : r.get? name = o.map write) (h : ∀ a, read (write a) = .ok (some a)) :
    r.optional name none read = .ok o := by
  cases o with
  | none => rw [optional, hget, Option.map_none]
  | some a => exact optional_eq_ok hget (h a)

theorem string_str (s : String) : string (.str s) = .ok s := rfl

theorem bool_bool (b : Bool) : bool (.bool b) = .ok b := rfl

theorem float_float (x : Float) : float (.float x) = .ok x := rfl

theorem nullable_ofString? (s : Option String) : nullable string (.ofString? s) = .ok s := by
  cases s <;> rfl

theorem nullable_ofFloat? (x : Option Float) : nullable float (.ofFloat? x) = .ok x := by
  cases x <;> rfl

/-- **A list is read back** if each of its items is. Items are read with their numbers, which
count only for what is wrong with them. -/
theorem list_map {write : α → Json} {l : List α} (h : ∀ a ∈ l, read (write a) = .ok a) :
    list read (.arr (l.map write)) = .ok l := by
  -- the index of the first item matters for issues only
  have hfrom : ∀ i, listFrom read i (l.map write) = .ok l := by
    induction l with
    | nil => exact fun _ => rfl
    | cons a l ih =>
      intro i
      rw [List.map_cons, listFrom, h a List.mem_cons_self,
        ih (fun b hb => h b (List.mem_cons_of_mem a hb)) (i + 1)]
      rfl
  exact hfrom 0

end Reading

end ErDiagram.Record
