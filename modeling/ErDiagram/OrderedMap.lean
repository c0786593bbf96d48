/-!
# Maps that remember insertion order

An `OrderedMap` lists its entries in the order in which their keys were first inserted. A key
occurs once: inserting a key that is present replaces its value and keeps its place, and only
erasing it first moves it to the end.

That keys are distinct is a field of the structure, so that it does not have to be proved of any
map that is built by the operations. The order matters: what is computed from a map, such as a
layout, goes through it from the first entry to the last.
-/

namespace ErDiagram

/-- **A map with insertion order**: a list of entries with distinct keys. Two maps are equal if
they have the same entries in the same order. That no key occurs twice is part of the type, so
that no proof about a map has to carry it along. -/
structure OrderedMap (κ ν : Type) where
  /-- The keys and their values, in insertion order. -/
  entries : List (κ × ν)
  /-- No key occurs twice. -/
  nodup_keys : (entries.map Prod.fst).Nodup

namespace OrderedMap

variable {κ ν μ : Type}

/-- The map without entries. -/
def empty : OrderedMap κ ν := ⟨[], by simp⟩

instance : Inhabited (OrderedMap κ ν) := ⟨empty⟩

/-- The keys in insertion order. -/
def keys (m : OrderedMap κ ν) : List κ := m.entries.map Prod.fst

/-- The values in insertion order of their keys. -/
def values (m : OrderedMap κ ν) : List ν := m.entries.map Prod.snd

/-- Whether the map has no entry. -/
def isEmpty (m : OrderedMap κ ν) : Bool := m.entries.isEmpty

/-- Replaces every value by one computed from its key and itself. -/
def mapValues (f : κ → ν → μ) (m : OrderedMap κ ν) : OrderedMap κ μ where
  entries := m.entries.map fun e => (e.1, f e.1 e.2)
  nodup_keys := by simpa [List.map_map, Function.comp_def] using m.nodup_keys

@[simp] theorem keys_mapValues (f : κ → ν → μ) (m : OrderedMap κ ν) :
    (m.mapValues f).keys = m.keys := by
  simp [keys, mapValues, Function.comp_def]

theorem sublist_keys_present (l : List (κ × Option ν)) :
    ((l.filterMap fun e => e.2.map (e.1, ·)).map Prod.fst).Sublist (l.map Prod.fst) := by
  induction l with
  | nil => simp
  | cons e l ih =>
    obtain ⟨k, v⟩ := e
    cases v with
    | none => simpa using ih.cons k
    | some v => simpa using ih.cons_cons k

/-- The keys that have something as their value, with what they have. -/
def present (m : OrderedMap κ (Option ν)) : OrderedMap κ ν where
  entries := m.entries.filterMap fun e => e.2.map (e.1, ·)
  nodup_keys := m.nodup_keys.sublist (sublist_keys_present m.entries)

variable [DecidableEq κ]

/-- The value of a key. -/
def get? (m : OrderedMap κ ν) (k : κ) : Option ν :=
  (m.entries.find? fun e => e.1 = k).map Prod.snd

/-- Whether a key has a value. -/
def contains (m : OrderedMap κ ν) (k : κ) : Bool := m.keys.contains k

/-- The map without one key. -/
def erase (m : OrderedMap κ ν) (k : κ) : OrderedMap κ ν where
  entries := m.entries.filter fun e => e.1 ≠ k
  nodup_keys := m.nodup_keys.sublist (List.filter_sublist.map Prod.fst)

/-- **Gives a key a value.** A key that is present keeps its place; a new one goes to the
end. -/
def insert (m : OrderedMap κ ν) (k : κ) (v : ν) : OrderedMap κ ν :=
  if h : k ∈ m.keys then m.mapValues fun k' v' => if k' = k then v else v'
  else
    { entries := m.entries ++ [(k, v)]
      nodup_keys := by
        simp only [List.map_append, List.map_cons, List.map_nil]
        refine List.nodup_append.2 ⟨m.nodup_keys, by simp, ?_⟩
        intro a ha b hb
        simp only [List.mem_singleton] at hb
        rintro rfl
        exact h (hb ▸ ha) }

/-- **The map of a list of pairs**: a repeated key has the last of its values and the first of
its places. -/
def ofList (l : List (κ × ν)) : OrderedMap κ ν :=
  l.foldl (fun m e => m.insert e.1 e.2) empty

theorem keys_insert (m : OrderedMap κ ν) (k : κ) (v : ν) :
    (m.insert k v).keys = if k ∈ m.keys then m.keys else m.keys ++ [k] := by
  unfold insert
  split
  · next h => simp
  · next h => simp [keys]

theorem keys_erase (m : OrderedMap κ ν) (k : κ) :
    (m.erase k).keys = m.keys.filter (· ≠ k) := by
  simp [keys, erase, List.filter_map, Function.comp_def]

end OrderedMap

end ErDiagram
