import ErDiagram.Connectivity.Backbone
import ErDiagram.Proofs.Connectivity.Distance

/-!
# A breadth-first search finds the nearer entities first

While a search runs, its queue holds entities of two distances at most, first those of the one and
then those of the next, and all that is farther away has not been seen. So entities are found in
the order of their distances, and the one that an entity is found from is nearer by one. The path
back from an entity that was found is therefore a shortest one, and nothing that can be reached is
farther away than the last entity that is found.

The queue of two distances is the invariant, `Frontier`. It is kept by a visit, and when the
nearer distance is used up the farther one takes its place (`Frontier.advance`). It is stated for
several sources, although the searches of a backbone have one, as the layers of a layout go by
distances from several.

What has been found is described by a second invariant, `Traced`: read from the latest item back,
each entity has its parent among the earlier ones, at a distance less by one. It is an inductive
predicate along the list, so that a path back, which is a recursion along the same list, is
followed by induction.
-/

namespace ErDiagram.Graph

variable {g : Graph} {sources : List String}

/-! ## The steps of a search

The recursion is taken apart once: an entity is visited, or it is not unseen any more. All later
proofs go by these equations and by the induction that belongs to them. -/

/-- What a search finds when it visits an entity. -/
def newlyFound (g : Graph) (unseen : List String) (f : Found) : List String :=
  (g.neighbours f.entity).filter (unseen.contains ·)

/-- What is unseen after the visit. -/
def unseenAfter (g : Graph) (unseen : List String) (f : Found) : List String :=
  unseen.filter (!(g.newlyFound unseen f).contains ·)

theorem mem_newlyFound {unseen : List String} {f : Found} {n : String} :
    n ∈ g.newlyFound unseen f ↔ n ∈ g.neighbours f.entity ∧ n ∈ unseen := by
  rw [newlyFound, List.mem_filter, List.contains_iff_mem]

theorem mem_unseenAfter {unseen : List String} {f : Found} {n : String} :
    n ∈ g.unseenAfter unseen f ↔ n ∈ unseen ∧ n ∉ g.newlyFound unseen f := by
  simp [unseenAfter]

/-- **A visit** takes an entity off the queue and puts what it finds at the end. -/
theorem searchFrom_cons (unseen : List String) (f : Found) (queue : List Found) :
    g.searchFrom unseen (f :: queue)
      = f :: g.searchFrom (g.unseenAfter unseen f)
          (queue ++ (g.newlyFound unseen f).map fun n => ⟨n, some f.entity⟩) := by
  rw [searchFrom]
  split
  · next hnone =>
    have hnone : g.newlyFound unseen f = [] := hnone
    rw [unseenAfter, hnone, List.map_nil, List.append_nil]
    simp
  · rfl

/-- When nothing is unseen, a search visits the rest of its queue. -/
theorem searchFrom_nil_left (queue : List Found) : g.searchFrom [] queue = queue := by
  induction queue with
  | nil => rw [searchFrom]
  | cons f queue ih =>
    have hnew : g.newlyFound [] f = [] :=
      List.eq_nil_iff_forall_not_mem.2 fun n hn => List.not_mem_nil (mem_newlyFound.1 hn).2
    rw [searchFrom_cons, hnew, List.map_nil, List.append_nil, unseenAfter, List.filter_nil, ih]

/-- **Induction along a search**: every entity of the queue is visited. -/
@[elab_as_elim]
theorem searchFrom_induction (g : Graph) {motive : List String → List Found → Prop}
    (nil : ∀ unseen, motive unseen [])
    (visit : ∀ unseen f queue,
      motive (g.unseenAfter unseen f)
        (queue ++ (g.newlyFound unseen f).map fun n => ⟨n, some f.entity⟩) →
      motive unseen (f :: queue))
    (unseen : List String) (queue : List Found) : motive unseen queue := by
  induction unseen, queue using searchFrom.induct g with
  | case1 unseen => exact nil unseen
  | case2 unseen f queue next hnone ih =>
    have hnone : g.newlyFound unseen f = [] := hnone
    refine visit unseen f queue ?_
    rw [unseenAfter, hnone, List.map_nil, List.append_nil]
    simpa using ih
  | case3 unseen f queue next _ ih => exact visit unseen f queue ih

/-! ## Distances along the queue

The queue holds entities of one distance and behind them entities of the next one, and what is
unseen is farther away. A visit keeps this, and when the nearer ones are done, the roles of the
two parts change. -/

/-- **The state of a search**: the queue holds entities of some distance, and behind them entities
of the next one. What is farther away is unseen, and what is unseen and of the next distance is
adjacent to an entity that is still to be visited.

The queue is given in two parts, with the distance of the first. The last three fields are what
makes the invariant inductive: an entity of the next distance that is not in the queue yet must be
found before the first part is used up, and this is promised by a neighbour of it in the first
part. -/
structure Frontier (g : Graph) (sources : List String) (i : ℕ) (unseen : List String)
    (near far : List Found) : Prop where
  /-- The first entities of the queue are at one distance. -/
  atNear : ∀ f ∈ near, AtDistance g.simple sources f.entity i
  /-- The others are farther away by one. -/
  atFar : ∀ f ∈ far, AtDistance g.simple sources f.entity (i + 1)
  /-- What is unseen is farther away than the first entities. So nothing that is found from here
  on is nearer than they are. -/
  lt_unseen : ∀ n ∈ unseen, ∀ j, AtDistance g.simple sources n j → i < j
  /-- What is as far away as the others is one of them or unseen. When the first entities are
  done, none of it is unseen any more. -/
  mem_far : ∀ n, AtDistance g.simple sources n (i + 1) → n ∈ unseen ∨ ∃ f ∈ far, f.entity = n
  /-- What is unseen and as far away as the others will be found from one of the first. -/
  ahead : ∀ n ∈ unseen, AtDistance g.simple sources n (i + 1) →
    ∃ f ∈ near, n ∈ g.neighbours f.entity
  /-- What is farther away than all of the queue is unseen, as a search does not jump ahead. -/
  beyond : ∀ n j, AtDistance g.simple sources n j → i + 1 < j → n ∈ unseen

namespace Frontier

variable {i : ℕ} {unseen : List String} {f : Found} {near far queue : List Found}

/-- What is found from an entity is farther away than it by one. -/
theorem atDistance_newlyFound (hg : g.IsSimple)
    (h : g.Frontier sources i unseen (f :: near) far) {n : String}
    (hn : n ∈ g.newlyFound unseen f) : AtDistance g.simple sources n (i + 1) := by
  obtain ⟨hadj, hunseen⟩ := mem_newlyFound.1 hn
  obtain ⟨j, hj, hat⟩ := (h.atNear f List.mem_cons_self).exists_of_adj (hg.adj_iff.2 hadj)
  exact Nat.le_antisymm hj (h.lt_unseen n hunseen j hat) ▸ hat

/-- **A visit keeps the state.** What is found is of the next distance: it is not nearer, since it
was unseen, and a neighbour is farther away by one at most. -/
theorem visit (hg : g.IsSimple) (h : g.Frontier sources i unseen (f :: near) far) :
    g.Frontier sources i (g.unseenAfter unseen f) near
      (far ++ (g.newlyFound unseen f).map fun n => ⟨n, some f.entity⟩) where
  atNear f' hf' := h.atNear f' (List.mem_cons_of_mem f hf')
  atFar f' hf' := by
    rcases List.mem_append.1 hf' with hf' | hf'
    · exact h.atFar f' hf'
    · obtain ⟨n, hn, rfl⟩ := List.mem_map.1 hf'
      exact h.atDistance_newlyFound hg hn
  lt_unseen n hn := h.lt_unseen n (mem_unseenAfter.1 hn).1
  mem_far n hn := by
    rcases h.mem_far n hn with hunseen | ⟨f', hf', rfl⟩
    · by_cases hnew : n ∈ g.newlyFound unseen f
      · exact .inr ⟨_, List.mem_append_right _ (List.mem_map_of_mem hnew), rfl⟩
      · exact .inl (mem_unseenAfter.2 ⟨hunseen, hnew⟩)
    · exact .inr ⟨f', List.mem_append_left _ hf', rfl⟩
  ahead n hn hat := by
    obtain ⟨hunseen, hnew⟩ := mem_unseenAfter.1 hn
    obtain ⟨f', hf', hadj⟩ := h.ahead n hunseen hat
    rcases List.mem_cons.1 hf' with rfl | hf'
    · exact absurd (mem_newlyFound.2 ⟨hadj, hunseen⟩) hnew
    · exact ⟨f', hf', hadj⟩
  beyond n j hat hj := by
    refine mem_unseenAfter.2 ⟨h.beyond n j hat hj, fun hnew => ?_⟩
    exact hj.ne ((h.atDistance_newlyFound hg hnew).unique hat)

/-- **When one distance is done**, the queue holds all entities of the next one. The shell that
was next is then the one at hand, and the one behind it is still empty. -/
theorem advance (hg : g.IsSimple) (h : g.Frontier sources i unseen [] far) :
    g.Frontier sources (i + 1) unseen far [] where
  atNear := h.atFar
  atFar := nofun
  lt_unseen n hn j hat := by
    refine lt_of_le_of_ne (h.lt_unseen n hn j hat) ?_
    rintro rfl
    obtain ⟨_, hf, _⟩ := h.ahead n hn hat
    cases hf
  mem_far n hat := .inl (h.beyond n _ hat (Nat.lt_succ_self _))
  ahead n hn hat := by
    obtain ⟨m, hadj, hm⟩ := hat.exists_nearer
    rcases h.mem_far m hm with hunseen | ⟨f, hf, rfl⟩
    · obtain ⟨_, hf, _⟩ := h.ahead m hunseen hm
      cases hf
    · exact ⟨f, hf, hg.adj_iff.1 hadj⟩
  beyond n j hat hj := h.beyond n j hat (Nat.lt_of_succ_lt hj)

/-- The first entity of the queue may be taken to be of the nearer of the two distances. -/
theorem exists_cons (hg : g.IsSimple) (h : g.Frontier sources i unseen near far)
    (hqueue : near ++ far = f :: queue) :
    ∃ j near' far', i ≤ j ∧ g.Frontier sources j unseen (f :: near') far' ∧
      queue = near' ++ far' := by
  cases near with
  | nil =>
    obtain rfl : far = f :: queue := hqueue
    exact ⟨i + 1, queue, [], Nat.le_succ i, h.advance hg, (List.append_nil queue).symm⟩
  | cons f' near =>
    obtain ⟨rfl, rfl⟩ := List.cons.inj hqueue
    exact ⟨i, near, far, le_rfl, h, rfl⟩

/-- When the queue is empty, nothing is left that can be reached. -/
theorem not_atDistance (hg : g.IsSimple) (h : g.Frontier sources i unseen [] []) {n : String}
    (hn : n ∈ unseen) (j : ℕ) : ¬ AtDistance g.simple sources n j := by
  -- an empty queue stays empty at all greater distances
  have hempty : ∀ k, g.Frontier sources (i + k) unseen [] [] := by
    intro k
    induction k with
    | zero => exact h
    | succ k ih => exact ih.advance hg
  intro hat
  have hlt := (hempty j).lt_unseen n hn j hat
  omega

/-- **What a search finds**: nothing that is nearer than the queue. -/
theorem exists_atDistance (hg : g.IsSimple) (h : g.Frontier sources i unseen near far) :
    ∀ f ∈ g.searchFrom unseen (near ++ far), ∃ j ≥ i, AtDistance g.simple sources f.entity j := by
  generalize hqueue : near ++ far = queue
  induction unseen, queue using searchFrom_induction g generalizing i near far with
  | nil unseen =>
    rw [searchFrom]
    exact fun f hf => absurd hf List.not_mem_nil
  | visit unseen f queue ih =>
    obtain ⟨j, near, far, hij, h, rfl⟩ := h.exists_cons hg hqueue
    rw [searchFrom_cons]
    refine List.forall_mem_cons.2 ⟨⟨j, hij, h.atNear f List.mem_cons_self⟩, fun f' hf' => ?_⟩
    obtain ⟨k, hk, hat⟩ := ih (h.visit hg) (List.append_assoc _ _ _).symm f' hf'
    exact ⟨k, hij.trans hk, hat⟩

/-- **The nearer entities are found first.** -/
theorem pairwise_le (hg : g.IsSimple) (h : g.Frontier sources i unseen near far) :
    (g.searchFrom unseen (near ++ far)).Pairwise fun f f' =>
      ∀ j j', AtDistance g.simple sources f.entity j →
        AtDistance g.simple sources f'.entity j' → j ≤ j' := by
  generalize hqueue : near ++ far = queue
  induction unseen, queue using searchFrom_induction g generalizing i near far with
  | nil unseen =>
    rw [searchFrom]
    exact .nil
  | visit unseen f queue ih =>
    obtain ⟨j, near, far, _, h, rfl⟩ := h.exists_cons hg hqueue
    have hvisit := h.visit hg
    rw [searchFrom_cons, List.append_assoc]
    refine List.pairwise_cons.2 ⟨fun f' hf' k k' hk hk' => ?_,
      List.append_assoc near _ _ ▸ ih hvisit (List.append_assoc _ _ _).symm⟩
    obtain ⟨l, hl, hat⟩ := hvisit.exists_atDistance hg f' hf'
    exact hk.unique (h.atNear f List.mem_cons_self) ▸ hk'.unique hat ▸ hl

end Frontier

/-- What is in the queue is found. -/
theorem mem_searchFrom_of_mem {unseen : List String} {queue : List Found} {f : Found}
    (hf : f ∈ queue) : f ∈ g.searchFrom unseen queue := by
  induction unseen, queue using searchFrom_induction g with
  | nil unseen => cases hf
  | visit unseen f' queue ih =>
    rw [searchFrom_cons]
    rcases List.mem_cons.1 hf with rfl | hf
    · exact List.mem_cons_self
    · exact List.mem_cons_of_mem f' (ih (List.mem_append_left _ hf))

/-- **All that can be reached is found.** A shortest way to it leaves what has been done at some
point, and what stands there is in the queue. -/
theorem Frontier.exists_mem_searchFrom (hg : g.IsSimple) {i : ℕ} {unseen : List String}
    {near far : List Found} (h : g.Frontier sources i unseen near far) {n : String}
    (hn : n ∈ unseen) {j : ℕ} (hat : AtDistance g.simple sources n j) :
    ∃ f ∈ g.searchFrom unseen (near ++ far), f.entity = n := by
  generalize hqueue : near ++ far = queue
  induction unseen, queue using searchFrom_induction g generalizing i near far with
  | nil unseen =>
    obtain ⟨rfl, rfl⟩ := List.append_eq_nil_iff.1 hqueue
    exact absurd hat (h.not_atDistance hg hn j)
  | visit unseen f queue ih =>
    obtain ⟨k, near, far, _, h, rfl⟩ := h.exists_cons hg hqueue
    rw [searchFrom_cons]
    by_cases hnew : n ∈ g.newlyFound unseen f
    · have hfound : (⟨n, some f.entity⟩ : Found) ∈
          (near ++ far) ++ (g.newlyFound unseen f).map fun n => ⟨n, some f.entity⟩ :=
        List.mem_append_right _ (List.mem_map_of_mem hnew)
      exact ⟨_, List.mem_cons_of_mem f (mem_searchFrom_of_mem hfound), rfl⟩
    · obtain ⟨f', hf', rfl⟩ := ih (h.visit hg) (mem_unseenAfter.2 ⟨hn, hnew⟩)
        (List.append_assoc _ _ _).symm
      exact ⟨f', List.mem_cons_of_mem f hf', rfl⟩

/-! ## Paths back

The path to an entity is read from its end, from link to link. The list of what has been found,
the latest first, is what the way back goes along, and so the induction is on this list. -/

/-- **What a search has found, the latest first**: sources, and entities that are farther away by
one than the entity that they were found from, which was found before. No entity is found twice.
Each constructor adds one item to the front, as the search adds it to the end. -/
inductive Traced (g : Graph) (sources : List String) : List Found → Prop
  | nil : Traced g sources []
  | source {n : String} {earlier : List Found} : Traced g sources earlier → n ∈ sources →
      (∀ f ∈ earlier, f.entity ≠ n) → Traced g sources (⟨n, none⟩ :: earlier)
  | step {n : String} {f : Found} {i : ℕ} {earlier : List Found} : Traced g sources earlier →
      f ∈ earlier → g.simple.Adj f.entity n → AtDistance g.simple sources f.entity i →
      AtDistance g.simple sources n (i + 1) → (∀ f ∈ earlier, f.entity ≠ n) →
      Traced g sources (⟨n, some f.entity⟩ :: earlier)

/-- **The path back is a shortest walk**, read from its end. The induction is on the trace: the
path of an entity is that of its parent and one more step. -/
theorem Traced.exists_walk {found : List Found} (h : Traced g sources found) {f : Found}
    (hf : f ∈ found) :
    ∃ s ∈ sources, ∃ p : g.simple.Walk s f.entity,
      AtDistance g.simple sources f.entity p.length ∧
        (pathBack f.entity found).reverse = p.support := by
  induction h generalizing f with
  | nil => cases hf
  | @source n earlier _ hn hfresh ih =>
    rcases List.mem_cons.1 hf with rfl | hf
    · refine ⟨n, hn, .nil, atDistance_zero_iff.2 hn, ?_⟩
      rw [pathBack, if_pos rfl]
      rfl
    · rw [pathBack, if_neg (hfresh f hf).symm]
      exact ih hf
  | @step n f' i earlier _ hf' hadj hat hat' hfresh ih =>
    rcases List.mem_cons.1 hf with rfl | hf
    · obtain ⟨s, hs, p, hp, hback⟩ := ih hf'
      refine ⟨s, hs, p.concat hadj, ?_, ?_⟩
      · rw [SimpleGraph.Walk.length_concat, ← hat.unique hp]
        exact hat'
      · rw [pathBack, if_pos rfl, List.reverse_cons, hback, SimpleGraph.Walk.support_concat]
    · rw [pathBack, if_neg (hfresh f hf).symm]
      exact ih hf

/-- What is found from an entity joins the trace. -/
theorem Traced.append {found : List Found} (h : Traced g sources found) {f : Found}
    (hf : f ∈ found) {i : ℕ} (hat : AtDistance g.simple sources f.entity i) {new : List String}
    (hnodup : new.Nodup) (hadj : ∀ n ∈ new, g.simple.Adj f.entity n)
    (hnew : ∀ n ∈ new, AtDistance g.simple sources n (i + 1))
    (hfresh : ∀ n ∈ new, ∀ f ∈ found, f.entity ≠ n) :
    Traced g sources ((new.map fun n => ⟨n, some f.entity⟩).reverse ++ found) := by
  induction new generalizing found with
  | nil => exact h
  | cons n new ih =>
    obtain ⟨hn, hnodup⟩ := List.nodup_cons.1 hnodup
    rw [List.forall_mem_cons] at hadj hnew hfresh
    rw [List.map_cons, List.reverse_cons, List.append_assoc]
    refine ih (h.step hf hadj.1 hat hnew.1 hfresh.1) (List.mem_cons_of_mem _ hf) hnodup hadj.2
      hnew.2 fun n' hn' => List.forall_mem_cons.2 ⟨?_, hfresh.2 n' hn'⟩
    rintro rfl
    exact hn hn'

/-- **A search leaves a trace.** The queue counts as found, since its items have their parents,
and what was done before is carried along. -/
theorem Frontier.traced (hg : g.IsSimple) {i : ℕ} {unseen : List String}
    {near far done : List Found} (h : g.Frontier sources i unseen near far)
    (htraced : Traced g sources ((near ++ far).reverse ++ done))
    (hfresh : ∀ n ∈ unseen, ∀ f ∈ (near ++ far).reverse ++ done, f.entity ≠ n) :
    Traced g sources ((g.searchFrom unseen (near ++ far)).reverse ++ done) := by
  generalize hqueue : near ++ far = queue at htraced hfresh ⊢
  induction unseen, queue using searchFrom_induction g generalizing i near far done with
  | nil unseen =>
    rw [searchFrom]
    exact htraced
  | visit unseen f queue ih =>
    obtain ⟨j, near, far, _, h, rfl⟩ := h.exists_cons hg hqueue
    have hnew : ∀ n ∈ g.newlyFound unseen f, g.simple.Adj f.entity n := fun n hn =>
      hg.adj_iff.2 (mem_newlyFound.1 hn).1
    have hnewFresh : ∀ n ∈ g.newlyFound unseen f,
        ∀ f' ∈ (f :: (near ++ far)).reverse ++ done, f'.entity ≠ n := fun n hn =>
      hfresh n (mem_newlyFound.1 hn).2
    have happend := htraced.append (by simp) (h.atNear f List.mem_cons_self)
      ((hg.nodup_neighbours f.entity).filter _) hnew (fun n hn => h.atDistance_newlyFound hg hn)
      hnewFresh
    rw [searchFrom_cons, List.reverse_cons, List.append_assoc, List.singleton_append]
    refine ih (h.visit hg) (List.append_assoc _ _ _).symm ?_ ?_
    · simpa [newlyFound] using happend
    · intro n hn f' hf'
      obtain ⟨hunseen, hnot⟩ := mem_unseenAfter.1 hn
      rw [List.reverse_append, List.append_assoc, List.mem_append] at hf'
      rcases hf' with hf' | hf'
      · obtain ⟨n', hn', rfl⟩ := List.mem_map.1 (List.mem_reverse.1 hf')
        rintro rfl
        exact hnot hn'
      · exact hfresh n hunseen f' (by simpa [or_assoc, or_left_comm] using hf')

/-! ## The search from one entity

With a single start everything so far becomes a statement about the search itself, without a queue
and without what is unseen. -/

variable {start : String}

/-- **The state that a search starts in.** -/
theorem frontier_start (hg : g.IsSimple) (hs : start ∈ g.names) :
    g.Frontier [start] 0 (g.names.filter (· != start)) [⟨start, none⟩] [] := by
  have hunseen : ∀ n j, AtDistance g.simple [start] n (j + 1) →
      n ∈ g.names.filter (· != start) := by
    intro n j hat
    have hreach := (atDistance_singleton_iff.1 hat).1
    refine List.mem_filter.2 ⟨hg.mem_names_of_reachable hs hreach, bne_iff_ne.2 ?_⟩
    rintro rfl
    cases hat.unique (atDistance_zero_iff.2 (List.mem_singleton_self n))
  refine ⟨?_, nofun, ?_, fun n hat => .inl (hunseen n 0 hat), ?_, ?_⟩
  · exact List.forall_mem_singleton.2 (atDistance_zero_iff.2 (List.mem_singleton_self start))
  · intro n hn j hat
    refine Nat.pos_of_ne_zero ?_
    rintro rfl
    exact bne_iff_ne.1 (List.mem_filter.1 hn).2 (List.mem_singleton.1 (atDistance_zero_iff.1 hat))
  · intro n _ hat
    obtain ⟨m, hadj, hm⟩ := hat.exists_nearer
    rw [atDistance_zero_iff, List.mem_singleton] at hm
    exact ⟨_, List.mem_singleton_self _, hm ▸ hg.adj_iff.1 hadj⟩
  · rintro n (_ | j) hat hj
    · cases hj
    · exact hunseen n j hat

theorem start_mem_search (g : Graph) (start : String) : ⟨start, none⟩ ∈ g.search start :=
  mem_searchFrom_of_mem (List.mem_singleton_self _)

/-- **A search finds what can be reached**, and nothing else. One direction is the trace, along
which each entity is reached; the other is that nothing is left out. -/
theorem exists_mem_search_iff (hg : g.IsSimple) (hs : start ∈ g.names) {n : String} :
    (∃ f ∈ g.search start, f.entity = n) ↔ g.simple.Reachable start n := by
  have h := frontier_start hg hs
  constructor
  · rintro ⟨f, hf, rfl⟩
    obtain ⟨j, _, hat⟩ := h.exists_atDistance hg f hf
    exact (atDistance_singleton_iff.1 hat).1
  · intro hreach
    by_cases hn : n = start
    · exact ⟨⟨start, none⟩, start_mem_search g start, hn.symm⟩
    · exact h.exists_mem_searchFrom hg
        (List.mem_filter.2 ⟨hg.mem_names_of_reachable hs hreach, bne_iff_ne.2 hn⟩)
        (atDistance_singleton_iff.2 ⟨hreach, rfl⟩)

/-- **The search from an entity leaves a trace.** -/
theorem traced_search (hg : g.IsSimple) (hs : start ∈ g.names) :
    Traced g [start] (g.search start).reverse := by
  have hstart : Traced g [start] [⟨start, none⟩] :=
    .source .nil (List.mem_singleton_self start) nofun
  have hfresh : ∀ n ∈ g.names.filter (· != start), ∀ f ∈ [(⟨start, none⟩ : Found)],
      f.entity ≠ n := fun n hn f hf => by
    rw [List.mem_singleton.1 hf]
    exact (bne_iff_ne.1 (List.mem_filter.1 hn).2).symm
  have hrun : Traced g [start] ((g.search start).reverse ++ []) :=
    (frontier_start hg hs).traced hg hstart hfresh
  rwa [List.append_nil] at hrun

/-- The path back to where a search started is a shortest one. -/
theorem exists_walk_pathBack (hg : g.IsSimple) (hs : start ∈ g.names) {f : Found}
    (hf : f ∈ g.search start) :
    ∃ p : g.simple.Walk start f.entity, p.length = g.simple.dist start f.entity ∧
      (pathBack f.entity (g.search start).reverse).reverse = p.support := by
  obtain ⟨s, hmem, p, hat, hback⟩ := (traced_search hg hs).exists_walk (List.mem_reverse.2 hf)
  obtain rfl := List.mem_singleton.1 hmem
  exact ⟨p, (atDistance_singleton_iff.1 hat).2.symm, hback⟩

/-- **A search finds the entities in the order of their distances.** This is what makes the entity
that is found last one of the farthest. -/
theorem pairwise_dist_search (hg : g.IsSimple) (hs : start ∈ g.names) :
    (g.search start).Pairwise fun f f' =>
      g.simple.dist start f.entity ≤ g.simple.dist start f'.entity := by
  have hat : ∀ f ∈ g.search start,
      AtDistance g.simple [start] f.entity (g.simple.dist start f.entity) := fun f hf =>
    atDistance_singleton_iff.2 ⟨(exists_mem_search_iff hg hs).1 ⟨f, hf, rfl⟩, rfl⟩
  have hsorted := (frontier_start hg hs).pairwise_le hg
  exact List.Pairwise.imp_of_mem (fun hf hf' h => h _ _ (hat _ hf) (hat _ hf')) hsorted

/-! ## The entity that a search returns -/

/-- **The entity that a search returns**: the last one that it finds. A search finds its start at
least, so that there is one. -/
def lastFound (g : Graph) (start : String) : String :=
  ((g.search start).getLast?.map (·.entity)).getD start

theorem exists_search_eq (g : Graph) (start : String) :
    ∃ found f, g.search start = found ++ [f] ∧ g.lastFound start = f.entity := by
  have hne := List.ne_nil_of_mem (start_mem_search g start)
  refine ⟨_, _, (List.dropLast_append_getLast hne).symm, ?_⟩
  rw [lastFound, List.getLast?_eq_getLast_of_ne_nil hne]
  rfl

/-- **Nothing that can be reached is farther away than what is found last.** -/
theorem dist_le_lastFound (hg : g.IsSimple) (hs : start ∈ g.names) {n : String}
    (hn : g.simple.Reachable start n) :
    g.simple.dist start n ≤ g.simple.dist start (g.lastFound start) := by
  obtain ⟨found, f, hsplit, hlast⟩ := exists_search_eq g start
  obtain ⟨f', hf', rfl⟩ := (exists_mem_search_iff hg hs).2 hn
  have hsorted := pairwise_dist_search hg hs
  rw [hlast]
  rw [hsplit] at hf' hsorted
  rcases List.mem_append.1 hf' with hf' | hf'
  · exact (List.pairwise_append.1 hsorted).2.2 f' hf' f (List.mem_singleton_self f)
  · rw [List.mem_singleton.1 hf']

/-- **The path to the last entity that is found** is a shortest one, and no other entity that can
be reached is farther away. -/
theorem exists_walk_farthestPath (hg : g.IsSimple) (hs : start ∈ g.names) :
    ∃ p : g.simple.Walk start (g.lastFound start),
      p.length = g.simple.dist start (g.lastFound start) ∧ g.farthestPath start = p.support ∧
        ∀ n, g.simple.Reachable start n → g.simple.dist start n ≤ p.length := by
  have hpath : g.farthestPath start
      = (pathBack (g.lastFound start) (g.search start).reverse).reverse := rfl
  obtain ⟨found, f, hsplit, hlast⟩ := exists_search_eq g start
  obtain ⟨p, hlength, hback⟩ := exists_walk_pathBack hg hs (f := f) (by simp [hsplit])
  have hfar : ∀ n, g.simple.Reachable start n → g.simple.dist start n ≤ p.length := fun n hn => by
    rw [hlength, ← hlast]
    exact dist_le_lastFound hg hs hn
  rw [hpath, hlast]
  exact ⟨p, hlength, hback, hfar⟩

end ErDiagram.Graph
