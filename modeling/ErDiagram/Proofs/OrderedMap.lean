import ErDiagram.OrderedMap
import ErDiagram.Proofs.FirstOccurrences
import Mathlib.Data.List.Basic

/-!
# Keys and entries of a map

A key is in a map from when it is inserted on, and inserting it again does not move it. A map that
is filled from a list with different keys has the list as its entries. With repeated keys it has
each key once, and which value that is depends on the keys alone, so that values may be computed
before or after the map is filled.

Maps are filled by folds, and there is a lemma for the keys and one for the values of each way of
filling them, so that no other proof has to go through a fold. Loops whose steps write several
entries are covered as well (`mem_keys_foldl`, `keys_foldl_subset`): they ask for what a single
step does to the keys.
-/

namespace ErDiagram.OrderedMap

variable {κ ν μ : Type} [DecidableEq κ]

/-! ## Keys -/

theorem contains_iff_mem_keys {m : OrderedMap κ ν} {k : κ} : m.contains k = true ↔ k ∈ m.keys :=
  List.contains_iff_mem

omit [DecidableEq κ] in
theorem mem_keys_of_mem_entries {m : OrderedMap κ ν} {e : κ × ν} (h : e ∈ m.entries) :
    e.1 ∈ m.keys :=
  List.mem_map_of_mem h

theorem mem_entries_of_get?_eq_some {m : OrderedMap κ ν} {k : κ} {v : ν}
    (h : m.get? k = some v) : (k, v) ∈ m.entries := by
  obtain ⟨e, he, rfl⟩ := Option.map_eq_some_iff.1 h
  have hkey : e.1 = k := by simpa using List.find?_some he
  exact hkey ▸ List.mem_of_find?_eq_some he

/-- What has a value is a key. -/
theorem mem_keys_of_get?_eq_some {m : OrderedMap κ ν} {k : κ} {v : ν} (h : m.get? k = some v) :
    k ∈ m.keys :=
  mem_keys_of_mem_entries (mem_entries_of_get?_eq_some h)

/-- Every key has a value. -/
theorem exists_get?_of_mem_keys {m : OrderedMap κ ν} {k : κ} (h : k ∈ m.keys) :
    ∃ v, m.get? k = some v := by
  obtain ⟨e, he, rfl⟩ := List.mem_map.1 h
  have hfound : (m.entries.find? fun e' => e'.1 = e.1).isSome = true :=
    List.find?_isSome.2 ⟨e, he, decide_eq_true rfl⟩
  obtain ⟨e', he'⟩ := Option.isSome_iff_exists.1 hfound
  exact ⟨e'.2, by rw [get?, he']; rfl⟩

/-- **A key keeps its place** when it gets another value. -/
theorem keys_insert_of_mem {m : OrderedMap κ ν} {k : κ} (h : k ∈ m.keys) (v : ν) :
    (m.insert k v).keys = m.keys := by
  rw [keys_insert, if_pos h]

theorem mem_keys_insert {m : OrderedMap κ ν} {k x : κ} {v : ν} :
    x ∈ (m.insert k v).keys ↔ x ∈ m.keys ∨ x = k := by
  rw [keys_insert]
  split
  · next h => exact ⟨.inl, fun hx => hx.elim id fun e => e ▸ h⟩
  · rw [List.mem_append, List.mem_singleton]

theorem keys_insert_subset {m : OrderedMap κ ν} {names : List κ} {k : κ} (hm : m.keys ⊆ names)
    (hk : k ∈ names) (v : ν) : (m.insert k v).keys ⊆ names := fun x hx => by
  rcases mem_keys_insert.1 hx with hx | rfl
  · exact hm hx
  · exact hk

omit [DecidableEq κ] in
/-- A row of steps none of which leaves some names does not leave them. -/
theorem keys_foldl_subset {β : Type} {step : OrderedMap κ ν → β → OrderedMap κ ν}
    {names : List κ} {l : List β} {m : OrderedMap κ ν} (hm : m.keys ⊆ names)
    (h : ∀ m : OrderedMap κ ν, m.keys ⊆ names → ∀ b ∈ l, (step m b).keys ⊆ names) :
    (l.foldl step m).keys ⊆ names :=
  List.foldlRecOn (motive := fun m : OrderedMap κ ν => m.keys ⊆ names) l step hm h

omit [DecidableEq κ] in
/-- A row of steps that each add the keys of an item adds the keys of all items. -/
theorem mem_keys_foldl {β : Type} {step : OrderedMap κ ν → β → OrderedMap κ ν}
    (gives : β → List κ)
    (h : ∀ m b x, x ∈ (step m b).keys ↔ x ∈ m.keys ∨ x ∈ gives b)
    {l : List β} {m : OrderedMap κ ν} {x : κ} :
    x ∈ (l.foldl step m).keys ↔ x ∈ m.keys ∨ x ∈ l.flatMap gives := by
  induction l generalizing m with
  | nil => simp
  | cons b l ih => rw [List.foldl_cons, ih, h, List.flatMap_cons, List.mem_append, or_assoc]

/-- **The keys of a map that is filled from a list** stand where they came first. -/
theorem keys_ofList (l : List (κ × ν)) : (ofList l).keys = (l.map Prod.fst).eraseDups := by
  induction l using List.reverseRecOn with
  | nil => rfl
  | append_singleton l e ih =>
    rw [ofList, List.foldl_append]
    show ((ofList l).insert e.1 e.2).keys = _
    rw [keys_insert, ih, List.map_append, List.map_singleton, eraseDups_concat]
    simp only [List.mem_eraseDups]

theorem mem_keys_ofList {l : List (κ × ν)} {x : κ} :
    x ∈ (ofList l).keys ↔ x ∈ l.map Prod.fst := by
  rw [keys_ofList, List.mem_eraseDups]

omit [DecidableEq κ] in
/-- If every key has something, all keys are present. -/
theorem keys_present {m : OrderedMap κ (Option ν)} (h : ∀ v ∈ m.values, v.isSome = true) :
    m.present.keys = m.keys := by
  unfold present keys
  rw [List.map_filterMap, List.filterMap_eq_map_iff_forall_eq_some]
  intro e he
  obtain ⟨v, hv⟩ := Option.isSome_iff_exists.1 (h e.2 (List.mem_map_of_mem he))
  rw [hv]
  rfl

/-! ## Values -/

/-- **The value of a key is the one that stands with it.** Keys are distinct, so that the first
entry of a key is the only one. -/
theorem get?_eq_some_iff {m : OrderedMap κ ν} {k : κ} {v : ν} :
    m.get? k = some v ↔ (k, v) ∈ m.entries := by
  refine ⟨mem_entries_of_get?_eq_some, fun h => ?_⟩
  obtain ⟨v', hv'⟩ := exists_get?_of_mem_keys (mem_keys_of_mem_entries h)
  have heq := List.inj_on_of_nodup_map m.nodup_keys h (mem_entries_of_get?_eq_some hv') rfl
  rw [hv', (Prod.mk.inj heq).2]

theorem get?_eq_none_iff {m : OrderedMap κ ν} {k : κ} : m.get? k = none ↔ k ∉ m.keys := by
  constructor
  · intro h hk
    obtain ⟨v, hv⟩ := exists_get?_of_mem_keys hk
    rw [h] at hv
    cases hv
  · intro hk
    cases h : m.get? k with
    | none => rfl
    | some v => exact absurd (mem_keys_of_get?_eq_some h) hk

/-- Entries that are added at the end change no value. -/
theorem get?_of_isPrefix {m m' : OrderedMap κ ν} (h : m.entries <+: m'.entries) {k : κ} {v : ν}
    (hk : m.get? k = some v) : m'.get? k = some v :=
  get?_eq_some_iff.2 (h.subset (get?_eq_some_iff.1 hk))

/-! ## Entries

The order of the entries is a part of what a map is. For a map that is filled from a list it is
the order of first occurrences. -/

/-- A new key goes to the end. -/
theorem entries_insert_of_notMem {m : OrderedMap κ ν} {k : κ} (h : k ∉ m.keys) (v : ν) :
    (m.insert k v).entries = m.entries ++ [(k, v)] := by
  rw [insert, dif_neg h]

/-- **A list with different keys is what the map holds.** No insertion finds its key present. -/
theorem entries_ofList {l : List (κ × ν)} (h : (l.map Prod.fst).Nodup) :
    (ofList l).entries = l := by
  -- for the induction the map may hold other keys already
  have hfold : ∀ (l : List (κ × ν)) (m : OrderedMap κ ν),
      (m.keys ++ l.map Prod.fst).Nodup →
      (l.foldl (fun m e => m.insert e.1 e.2) m).entries = m.entries ++ l := by
    intro l
    induction l with
    | nil => exact fun m _ => (List.append_nil _).symm
    | cons e l ih =>
      intro m hm
      have hk : e.1 ∉ m.keys := fun hmem =>
        (List.nodup_append.1 hm).2.2 e.1 hmem e.1 (by simp) rfl
      rw [List.foldl_cons, ih, entries_insert_of_notMem hk, List.append_assoc]
      · rfl
      · rw [keys_insert, if_neg hk, List.append_assoc]
        exact hm
  exact hfold l empty (by simpa [keys, empty] using h)

/-- **A key that gets a value** has this one alone, and all other entries stay. -/
theorem mem_entries_insert_iff {m : OrderedMap κ ν} {k : κ} {v : ν} {e : κ × ν} :
    e ∈ (m.insert k v).entries ↔ e ∈ m.entries ∧ e.1 ≠ k ∨ e = (k, v) := by
  by_cases hk : k ∈ m.keys
  · have hentries : (m.insert k v).entries
        = m.entries.map fun e => (e.1, if e.1 = k then v else e.2) := by
      rw [insert, dif_pos hk]
      rfl
    rw [hentries, List.mem_map]
    constructor
    · rintro ⟨e', he', rfl⟩
      by_cases hkey : e'.1 = k
      · exact .inr (by rw [if_pos hkey, hkey])
      · exact .inl ⟨by rw [if_neg hkey]; exact he', hkey⟩
    · rintro (⟨he, hkey⟩ | rfl)
      · exact ⟨e, he, by rw [if_neg hkey]⟩
      · obtain ⟨e', he', rfl⟩ := List.mem_map.1 hk
        exact ⟨e', he', by rw [if_pos rfl]⟩
  · rw [entries_insert_of_notMem hk, List.mem_append, List.mem_singleton]
    refine or_congr_left ⟨fun he => ⟨he, ?_⟩, And.left⟩
    rintro rfl
    exact hk (mem_keys_of_mem_entries he)

/-- **What is read after a key gets a value.** -/
theorem get?_insert (m : OrderedMap κ ν) (k k' : κ) (v : ν) :
    (m.insert k v).get? k' = if k' = k then some v else m.get? k' := by
  split
  · next h => exact get?_eq_some_iff.2 (mem_entries_insert_iff.2 (.inr (by rw [h])))
  · next h =>
    refine Option.ext fun v' => ?_
    rw [get?_eq_some_iff, get?_eq_some_iff, mem_entries_insert_iff]
    simp [h]

/-- **What is read after a key is taken out.** -/
theorem get?_erase (m : OrderedMap κ ν) (k k' : κ) :
    (m.erase k).get? k' = if k' = k then none else m.get? k' := by
  split
  · next h =>
    rw [get?_eq_none_iff, keys_erase, h]
    exact fun hmem => of_decide_eq_true (List.mem_filter.1 hmem).2 rfl
  · next h =>
    refine Option.ext fun v => ?_
    rw [get?_eq_some_iff, get?_eq_some_iff]
    exact ⟨fun he => (List.mem_filter.1 he).1, fun he =>
      List.mem_filter.2 ⟨he, decide_eq_true h⟩⟩

omit [DecidableEq κ] in
/-- Maps with the same entries are the same. -/
theorem eq_of_entries_eq {m m' : OrderedMap κ ν} (h : m.entries = m'.entries) : m = m' := by
  cases m
  cases m'
  cases h
  rfl

/-- A map that is filled from a list has nothing but the pairs of the list. -/
theorem mem_of_mem_entries_ofList {l : List (κ × ν)} {e : κ × ν}
    (h : e ∈ (ofList l).entries) : e ∈ l := by
  induction l using List.reverseRecOn with
  | nil => cases h
  | append_singleton l p ih =>
    rw [ofList, List.foldl_append] at h
    rcases mem_entries_insert_iff.1 h with ⟨h, _⟩ | rfl
    · exact List.mem_append_left _ (ih h)
    · exact List.mem_append_right _ (List.mem_singleton_self _)

/-- **The last value wins** in a map that is filled from a list. The places of keys play no part
in it. -/
theorem get?_ofList (l : List (κ × ν)) (k : κ) :
    (ofList l).get? k = ((l.filter fun e => e.1 = k).getLast?).map Prod.snd := by
  induction l using List.reverseRecOn with
  | nil => rfl
  | append_singleton l e ih =>
    rw [ofList, List.foldl_append]
    show ((ofList l).insert e.1 e.2).get? k = _
    rw [get?_insert, ih, List.filter_append, List.filter_singleton]
    by_cases h : k = e.1
    · simp [h]
    · simp [h, Ne.symm h]

/-- **Where the value follows from the key**, the map has each key once with its value. -/
theorem entries_ofList_of_keys (f : κ → ν) (l : List κ) :
    (ofList (l.map fun k => (k, f k))).entries = l.eraseDups.map fun k => (k, f k) := by
  have hkeys : (ofList (l.map fun k => (k, f k))).keys = l.eraseDups := by
    rw [keys_ofList, List.map_map]
    exact congrArg List.eraseDups (List.map_id l)
  rw [← hkeys, keys, List.map_map]
  refine ((List.map_congr_left fun e he => ?_).trans (List.map_id _)).symm
  obtain ⟨k, _, rfl⟩ := List.mem_map.1 (mem_of_mem_entries_ofList he)
  rfl

theorem entries_insert_map (f : ν → μ) {m : OrderedMap κ ν} {m' : OrderedMap κ μ}
    (h : m'.entries = m.entries.map fun e => (e.1, f e.2)) (k : κ) (v : ν) :
    (m'.insert k (f v)).entries = (m.insert k v).entries.map fun e => (e.1, f e.2) := by
  have hkeys : m'.keys = m.keys := by
    unfold keys
    rw [h, List.map_map]
    rfl
  by_cases hk : k ∈ m.keys
  · rw [insert, insert, dif_pos hk, dif_pos (hkeys ▸ hk)]
    show m'.entries.map _ = (m.entries.map _).map _
    rw [h, List.map_map, List.map_map]
    refine List.map_congr_left fun e _ => ?_
    simp only [Function.comp_apply, apply_ite f]
  · rw [entries_insert_of_notMem hk, entries_insert_of_notMem (hkeys ▸ hk), h, List.map_append]
    rfl

/-- **Values may be computed before or after** a map is filled. The keys decide where an entry
goes and which one is replaced, and they are the same on both sides. -/
theorem entries_ofList_map (f : ν → μ) (l : List (κ × ν)) :
    (ofList (l.map fun e => (e.1, f e.2))).entries
      = (ofList l).entries.map fun e => (e.1, f e.2) := by
  induction l using List.reverseRecOn with
  | nil => rfl
  | append_singleton l p ih =>
    rw [List.map_append, ofList, ofList, List.foldl_append, List.foldl_append]
    exact entries_insert_map f ih p.1 p.2

/-! ## A map laid over another -/

/-- **The map with the entries of a second one written into it**, one after the other. Keys of the
first map keep their places, and new ones go to the end. -/
def overlay (m m' : OrderedMap κ ν) : OrderedMap κ ν :=
  m'.entries.foldl (fun m e => m.insert e.1 e.2) m

/-- **What is read is the value of the second map** where it has one, and that of the first
elsewhere. -/
theorem get?_overlay (m m' : OrderedMap κ ν) (k : κ) :
    (m.overlay m').get? k = (m'.get? k).or (m.get? k) := by
  have hfold : ∀ (l : List (κ × ν)) (m : OrderedMap κ ν), (l.map Prod.fst).Nodup →
      (l.foldl (fun m e => m.insert e.1 e.2) m).get? k
        = ((l.find? fun e => e.1 = k).map Prod.snd).or (m.get? k) := by
    intro l
    induction l with
    | nil => exact fun m _ => Option.none_or.symm
    | cons e l ih =>
      intro m hl
      rw [List.map_cons, List.nodup_cons] at hl
      rw [List.foldl_cons, ih _ hl.2, get?_insert]
      by_cases hk : e.1 = k
      · -- no later entry has the key
        have hlater : l.find? (fun e => e.1 = k) = none := by
          refine List.find?_eq_none.2 fun e' he' h => hl.1 ?_
          rw [hk, ← of_decide_eq_true h]
          exact List.mem_map_of_mem he'
        rw [hlater, List.find?_cons_of_pos (by simpa using hk), if_pos hk.symm]
        rfl
      · rw [List.find?_cons_of_neg (by simpa using hk), if_neg (Ne.symm hk)]
  exact hfold m'.entries m m'.nodup_keys

end ErDiagram.OrderedMap
