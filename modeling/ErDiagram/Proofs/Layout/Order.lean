import ErDiagram.Layout.Engine
import ErDiagram.Proofs.Except
import ErDiagram.Proofs.Layout.Layers

/-!
# The order of the declarations

The engine sorts names by their places in the order of the declarations, and components by the
least place of a name. Declared names have different places, so that sorting them forgets the
order in which they were listed: what comes out are the components as they are found by going
through the declarations, each in the order of the declarations.

A name that is declared again has the place of its last declaration, in the table of the engine as
in the list `Layered.ordered`. Both are built from the front, and are compared by adding one
declaration at the end: its name moves to the end of the list and gets the greatest place
(`rank_concat`, `ordered_concat`). From then on the list is known to be sorted by place, and
everything that is sorted by place is a part of it.
-/

namespace ErDiagram.Layout.Engine

open Layered

variable {names : List String}

/-! ## Places -/

/-- The place of a declared name. For others it is zero, which nothing depends on; with a number
for every name, places can be compared without carrying a proof that a name is declared. -/
def rank (names : List String) (n : String) : ℕ := ((order names).get? n).getD 0

theorem keys_order : (order names).keys = names.eraseDups := by
  rw [order, OrderedMap.keys_ofList, List.zipIdx_map_fst]

theorem place_of_mem {n : String} (h : n ∈ names) :
    place (order names) n = .ok (rank names n) := by
  obtain ⟨i, hi⟩ := OrderedMap.exists_get?_of_mem_keys
    (keys_order ▸ List.mem_eraseDups.2 h : n ∈ (order names).keys)
  rw [place, rank, hi]
  rfl

theorem place_of_notMem {n : String} (h : n ∉ names) :
    place (order names) n = .error (.undeclared n) := by
  rw [place, OrderedMap.get?_eq_none_iff.2 fun hn => h (List.mem_eraseDups.1 (keys_order ▸ hn))]

theorem rank_concat (names : List String) (a n : String) :
    rank (names ++ [a]) n = if n = a then names.length else rank names n := by
  have horder : order (names ++ [a]) = (order names).insert a names.length := by
    simp [order, OrderedMap.ofList, List.zipIdx_append]
  rw [rank, horder, OrderedMap.get?_insert]
  split <;> rfl

theorem rank_lt_length {n : String} (h : n ∈ names) : rank names n < names.length := by
  induction names using List.reverseRecOn with
  | nil => cases h
  | append_singleton names a ih =>
    rw [rank_concat, List.length_append, List.length_singleton]
    split
    · exact Nat.lt_succ_self _
    · next hne =>
      exact (ih ((List.mem_append.1 h).resolve_right fun ha => hne (List.mem_singleton.1 ha))).trans
        (Nat.lt_succ_self _)

theorem eraseDups_filter (p : String → Bool) (l : List String) :
    (l.filter p).eraseDups = l.eraseDups.filter p := by
  induction l using List.reverseRecOn with
  | nil => rfl
  | append_singleton l a ih =>
    rw [List.filter_append, eraseDups_concat]
    by_cases hp : p a = true
    · rw [List.filter_cons_of_pos hp, List.filter_nil, eraseDups_concat, ih]
      by_cases ha : a ∈ l
      · rw [if_pos ha, if_pos (List.mem_filter.2 ⟨ha, hp⟩)]
      · rw [if_neg ha, if_neg fun h => ha (List.mem_filter.1 h).1, List.filter_append,
          List.filter_cons_of_pos hp, List.filter_nil]
    · rw [List.filter_cons_of_neg hp, List.filter_nil, List.append_nil, ih]
      split
      · rfl
      · rw [List.filter_append, List.filter_cons_of_neg hp, List.filter_nil, List.append_nil]

/-- A name that is declared again moves to the end. -/
theorem ordered_concat (names : List String) (a : String) :
    ordered (names ++ [a]) = (ordered names).filter (fun n => !n == a) ++ [a] := by
  unfold ordered
  rw [List.reverse_append, List.reverse_singleton, List.singleton_append, List.eraseDups_cons,
    List.reverse_cons, eraseDups_filter, List.filter_reverse]

/-- **Names stand in the order of their places.** The induction adds declarations at the end,
where a new one has a greater place than all before. -/
theorem pairwise_ordered (names : List String) :
    (ordered names).Pairwise fun a b => rank names a < rank names b := by
  induction names using List.reverseRecOn with
  | nil => exact .nil
  | append_singleton names a ih =>
    rw [ordered_concat, List.pairwise_append]
    have hmem : ∀ n ∈ (ordered names).filter (fun n => !n == a), n ∈ names ∧ n ≠ a := fun n hn => by
      obtain ⟨hn, hne⟩ := List.mem_filter.1 hn
      exact ⟨mem_ordered.1 hn, by simpa using hne⟩
    refine ⟨?_, List.pairwise_singleton _ a, fun n hn b hb => ?_⟩
    · refine (ih.filter _).imp_of_mem fun hx hy hlt => ?_
      rwa [rank_concat, rank_concat, if_neg (hmem _ hx).2, if_neg (hmem _ hy).2]
    · rw [List.mem_singleton.1 hb, rank_concat, rank_concat, if_pos rfl, if_neg (hmem n hn).2]
      exact rank_lt_length (hmem n hn).1

/-- Different names have different places. -/
theorem rank_injOn {a b : String} (ha : a ∈ names) (hb : b ∈ names)
    (h : rank names a = rank names b) : a = b := by
  by_contra hne
  have hdiffer : (ordered names).Pairwise fun a b => rank names a ≠ rank names b :=
    (pairwise_ordered names).imp Nat.ne_of_lt
  have : Std.Symm fun a b : String => rank names a ≠ rank names b := ⟨fun _ _ => Ne.symm⟩
  exact hdiffer.forall (mem_ordered.2 ha) (mem_ordered.2 hb) hne h

/-! ## Sorting by places

Names are sorted by their places in the order of the declarations. Different names have different
places, so that the result is determined by which names there are. -/

section SortBy

variable {β : Type} {key : β → Except EngineFailure ℕ} {l : List β}

/-- **Sorting succeeds if all keys are there.** What comes out has the same items and is sorted;
where keys are different, this determines it. -/
theorem exists_sortBy_eq_ok {f : β → ℕ} (h : ∀ b ∈ l, key b = .ok (f b)) :
    ∃ l', sortBy key l = .ok l' ∧ l'.Perm l ∧ l'.Pairwise fun a b => f a ≤ f b := by
  have hkeyed : (l.mapM fun b => return (← key b, b)) = .ok (l.map fun b => (f b, b)) :=
    Except.mapM_eq_ok fun b hb => by rw [h b hb]; rfl
  refine ⟨((l.map fun b => (f b, b)).mergeSort fun a b => a.1 ≤ b.1).map Prod.snd, ?_, ?_, ?_⟩
  · rw [sortBy, hkeyed]
    rfl
  · refine ((List.mergeSort_perm _ _).map _).trans (.of_eq ?_)
    rw [List.map_map]
    exact List.map_id l
  · have hsorted : ((l.map fun b => (f b, b)).mergeSort fun a b => a.1 ≤ b.1).Pairwise
        fun a b => decide (a.1 ≤ b.1) = true :=
      List.pairwise_mergeSort (fun a b c => by simpa using Nat.le_trans)
        (fun a b => by simpa using Nat.le_total a.1 b.1) _
    rw [List.pairwise_map]
    refine hsorted.imp_of_mem fun ha hb hab => ?_
    obtain ⟨a, _, rfl⟩ := List.mem_map.1 (List.mem_mergeSort.1 ha)
    obtain ⟨b, _, rfl⟩ := List.mem_map.1 (List.mem_mergeSort.1 hb)
    simpa using hab

/-- Sorting fails if a key is not there. -/
theorem exists_sortBy_eq_error {b : β} {e : EngineFailure} (hb : b ∈ l) (h : key b = .error e) :
    ∃ e, sortBy key l = .error e := by
  obtain ⟨e', he'⟩ := Except.exists_mapM_eq_error (f := fun b => return (← key b, b)) hb
    (by rw [h]; rfl)
  exact ⟨e', by rw [sortBy, he']; rfl⟩

end SortBy

/-- The names of a list in the order of the declarations. It is a filter of the declared names, so
that two lists with the same names are equal when they have been put in order. -/
def inOrder (names l : List String) : List String := (ordered names).filter l.contains

theorem mem_inOrder {l : List String} (hl : l ⊆ names) {n : String} :
    n ∈ inOrder names l ↔ n ∈ l := by
  rw [inOrder, List.mem_filter, List.contains_iff_mem, mem_ordered]
  exact and_iff_right_of_imp (@hl n)

theorem pairwise_inOrder (names l : List String) :
    (inOrder names l).Pairwise fun a b => rank names a < rank names b :=
  (pairwise_ordered names).filter _

/-- **Declared names are put in order.** Every declared name has a place, so that the sort has all
its keys. -/
theorem sortBy_place {l : List String} (hnodup : l.Nodup) (hl : l ⊆ names) :
    sortBy (place (order names)) l = .ok (inOrder names l) := by
  obtain ⟨l', hsort, hperm, hsorted⟩ :=
    exists_sortBy_eq_ok (l := l) (f := rank names) fun n hn => place_of_mem (hl hn)
  have hstrict : l'.Pairwise fun a b => rank names a < rank names b := by
    refine (hsorted.and (hperm.nodup_iff.2 hnodup)).imp_of_mem fun ha hb hab => ?_
    refine lt_of_le_of_ne hab.1 fun heq => hab.2 ?_
    exact rank_injOn (hl (hperm.mem_iff.1 ha)) (hl (hperm.mem_iff.1 hb)) heq
  rw [hsort, eq_of_pairwise_lt hstrict (pairwise_inOrder names l) fun n =>
    hperm.mem_iff.trans (mem_inOrder hl).symm]

/-! ## Components in order -/

/-- The least place of some names, and zero if there are none. -/
def least (names l : List String) : ℕ := ((l.map (rank names)).min?).getD 0

theorem min?_map_rank {l : List String} (h : l ≠ []) :
    (l.map (rank names)).min? = some (least names l) := by
  cases hmin : (l.map (rank names)).min? with
  | none => exact absurd (List.map_eq_nil_iff.1 (List.min?_eq_none_iff.1 hmin)) h
  | some i => rw [least, hmin, Option.getD_some]

theorem exists_rank_eq_least (names : List String) {l : List String} (h : l ≠ []) :
    ∃ n ∈ l, rank names n = least names l :=
  List.mem_map.1 (List.min?_eq_some_iff.1 (min?_map_rank h)).1

theorem least_le {l : List String} {n : String} (hn : n ∈ l) : least names l ≤ rank names n :=
  (List.min?_eq_some_iff.1 (min?_map_rank (List.ne_nil_of_mem hn))).2 _ (List.mem_map_of_mem hn)

theorem leastPlace_eq_ok {l : List String} (h : l ≠ []) (hl : l ⊆ names) :
    leastPlace (order names) l = .ok (least names l) := by
  rw [leastPlace, Except.mapM_eq_ok fun n hn => place_of_mem (hl hn)]
  show (l.map (rank names)).min?.elim (.error EngineFailure.nothing) Except.ok = _
  rw [min?_map_rank h]
  rfl

/-- The first of some names in order has the least place. -/
theorem least_eq_rank {l : List String} {n : String}
    (h : l.Pairwise fun a b => rank names a < rank names b) (hn : l.head? = some n) :
    least names l = rank names n := by
  obtain ⟨rest, rfl⟩ := List.head?_eq_some_iff.1 hn
  refine Nat.le_antisymm (least_le List.mem_cons_self) ?_
  obtain ⟨m, hm, hrank⟩ := exists_rank_eq_least names (List.cons_ne_nil n rest)
  rw [← hrank]
  rcases List.mem_cons.1 hm with rfl | hm
  · exact le_rfl
  · exact ((List.pairwise_cons.1 h).1 m hm).le

variable {g : Graph}

theorem least_component {n : String} (h : (component g (ordered names) n).head? = some n) :
    least names (component g (ordered names) n) = rank names n :=
  least_eq_rank ((pairwise_ordered names).sublist (component_sublist _ n)) h

/-- **Components come in the order of their first names.** They are listed when their first name
is met. -/
theorem pairwise_components {l : List String}
    (hl : l.Pairwise fun a b => rank names a < rank names b) :
    (components g (ordered names) l).Pairwise fun a b => least names a < least names b := by
  induction l with
  | nil => exact .nil
  | cons n l ih =>
    obtain ⟨hn, hl⟩ := List.pairwise_cons.1 hl
    rw [components]
    split
    · next hhead =>
      refine List.pairwise_cons.2 ⟨fun c hc => ?_, ih hl⟩
      obtain ⟨m, hm, hhead', rfl⟩ := mem_components.1 hc
      rw [least_component hhead, least_component hhead']
      exact hn m hm
    · exact ih hl

section Components

variable {cs : List (List String)}

/-- A component of the library, in order, is that of any of its names. -/
theorem inOrder_eq_component (hg : g.IsSimple) (hnames : ∀ n, n ∈ g.names ↔ n ∈ names)
    (hcs : IsComponents g cs) {c : List String} (hc : c ∈ cs) {n : String} (hn : n ∈ c) :
    inOrder names c = component g (ordered names) n := by
  have hsub : c ⊆ names := fun m hm =>
    (hnames m).1 ((hcs.mem_names_iff m).2 ⟨c, hc, hm⟩)
  refine filter_eq_of_mem_iff fun m => ?_
  show m ∈ inOrder names c ↔ m ∈ component g (ordered names) n
  rw [mem_inOrder hsub, mem_component_iff_reachable hg
    (fun k hk => mem_ordered.2 ((hnames k).1 hk)) (mem_ordered.2 (hsub hn))]
  obtain ⟨k, _, hk⟩ := hcs.connected c hc
  have hkn := (hk n).1 hn
  rw [hk m]
  exact ⟨fun h => hkn.symm.trans h, fun h => hkn.trans h⟩

/-- **The components of the library are put in order**, in whatever order they are listed. Each,
put in order, is the component that is found from any of its names, and their least places are
different since no name is in two of them. -/
theorem exists_sortBy_leastPlace (hg : g.IsSimple) (hnames : ∀ n, n ∈ g.names ↔ n ∈ names)
    (hcs : IsComponents g cs) :
    ∃ cs', sortBy (leastPlace (order names)) cs = .ok cs' ∧ cs'.Perm cs ∧
      cs'.map (inOrder names) = components g (ordered names) (ordered names) := by
  have hsub : ∀ c ∈ cs, c ⊆ names := fun c hc n hn =>
    (hnames n).1 ((hcs.mem_names_iff n).2 ⟨c, hc, hn⟩)
  have hne : ∀ c ∈ cs, c ≠ [] := fun c hc => by
    obtain ⟨n, hn, _⟩ := hcs.connected c hc
    exact List.ne_nil_of_mem hn
  have hleast : ∀ c ∈ cs, least names (inOrder names c) = least names c := fun c hc => by
    obtain ⟨n, hn, hrank⟩ := exists_rank_eq_least names (hne c hc)
    have hn := (mem_inOrder (hsub c hc)).2 hn
    obtain ⟨m, hm, hrank'⟩ := exists_rank_eq_least names (List.ne_nil_of_mem hn)
    refine Nat.le_antisymm (hrank ▸ least_le hn) ?_
    exact hrank' ▸ least_le ((mem_inOrder (hsub c hc)).1 hm)
  obtain ⟨cs', hsort, hperm, hsorted⟩ :=
    exists_sortBy_eq_ok (l := cs) (f := least names) fun c hc =>
      leastPlace_eq_ok (hne c hc) (hsub c hc)
  have hdisjoint : cs'.Pairwise List.Disjoint :=
    hperm.symm.pairwise hcs.disjoint fun h => h.symm
  refine ⟨cs', hsort, hperm, eq_of_pairwise_lt (f := least names) ?_ ?_ fun c => ?_⟩
  · -- different components have no name in common, so that their least places differ
    rw [List.pairwise_map]
    refine (hsorted.and hdisjoint).imp_of_mem fun ha hb hab => ?_
    have ha := hperm.mem_iff.1 ha
    have hb := hperm.mem_iff.1 hb
    rw [hleast _ ha, hleast _ hb]
    refine lt_of_le_of_ne hab.1 fun heq => ?_
    obtain ⟨n, hn, hrank⟩ := exists_rank_eq_least names (hne _ ha)
    obtain ⟨m, hm, hrank'⟩ := exists_rank_eq_least names (hne _ hb)
    have hnm := rank_injOn (hsub _ ha hn) (hsub _ hb hm) (hrank.trans (heq.trans hrank'.symm))
    exact hab.2 hn (hnm ▸ hm)
  · exact pairwise_components (pairwise_ordered names)
  · rw [List.mem_map, mem_components]
    constructor
    · rintro ⟨c, hc, rfl⟩
      have hc := hperm.mem_iff.1 hc
      obtain ⟨n, hn, _⟩ := hcs.connected c hc
      obtain ⟨m, hm⟩ := Option.isSome_iff_exists.1 (List.isSome_head?.2
        (List.ne_nil_of_mem ((mem_inOrder (hsub c hc)).2 hn)))
      have hmc := (mem_inOrder (hsub c hc)).1 (List.mem_of_head? hm)
      have heq := inOrder_eq_component hg hnames hcs hc hmc
      exact ⟨m, mem_ordered.2 (hsub c hc hmc), heq ▸ hm, heq.symm⟩
    · rintro ⟨n, hn, _, rfl⟩
      obtain ⟨c, hc, hnc⟩ := (hcs.mem_names_iff n).1 ((hnames n).2 (mem_ordered.1 hn))
      exact ⟨c, hperm.mem_iff.2 hc, inOrder_eq_component hg hnames hcs hc hnc⟩

end Components

end ErDiagram.Layout.Engine
