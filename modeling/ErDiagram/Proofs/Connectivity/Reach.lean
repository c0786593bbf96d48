import ErDiagram.Proofs.Connectivity.Graph
import Mathlib.Logic.Relation

/-!
# What the searches reach

A chain is found by going on as long as there is one way. A group is found with a stack of
entities that are still to be visited, and the order in which the neighbours of an entity are
pushed decides in which order the group is found. It does not decide what the group is: whatever
the order, the search visits exactly what can be reached from the stack through hubs that have not
been seen, and leaves the rest unseen in its order.

The search is a recursion on a pair of lists that ends by a measure, and its own induction
principle speaks of the terms of the definition. `explore_induction` is the same with names for
the two things that can happen to the top of the stack, and everything else about the search is
proved by it. Reachability is relative to the unseen entities: what is on the other side of one
that has been seen is out of reach, and that is how searches keep out of each other's groups.
-/

namespace ErDiagram.Graph

variable {g : Graph}

/-! ## Paths -/

/-- A path goes on where one neighbour is left and is acceptable. -/
theorem grow_of_filter_eq {accept : String → Bool} {unseen : List String} {current next : String}
    (h : (g.neighbours current).filter (unseen.contains ·) = [next]) :
    g.grow accept unseen current =
      if accept next then next :: g.grow accept (unseen.erase next) next else [] := by
  rw [grow]
  split
  · next n hn =>
    obtain rfl : next = n := List.singleton_inj.1 (h.symm.trans hn)
    rfl
  · next hnone => exact absurd h (hnone next)

/-- It ends where there is nothing or something to choose. -/
theorem grow_of_forall_filter_ne {accept : String → Bool} {unseen : List String} {current : String}
    (h : ∀ next, (g.neighbours current).filter (unseen.contains ·) ≠ [next]) :
    g.grow accept unseen current = [] := by
  rw [grow]
  split
  · next n hn => exact absurd hn (h n)
  · rfl

/-! ## Reachability

What a search visits is described without its stack, as what can be reached in steps to hubs that
have not been seen. The set of what is unseen is a parameter, since searches follow each other. -/

/-- One step of a search: to a neighbour that is a hub and has not been seen. Nothing is asked of
where the step starts. -/
def HubStep (g : Graph) (unseen : List String) (a b : String) : Prop :=
  b ∈ g.neighbours a ∧ b ∈ unseen ∧ 2 ≤ g.degree b

/-- **What a search reaches** from an entity through hubs that have not been seen. The entity
itself is always reached, whether or not it is a hub. -/
def Reaches (g : Graph) (unseen : List String) : String → String → Prop :=
  Relation.ReflTransGen (g.HubStep unseen)

/-- The neighbours that a search goes on to. -/
def nextHubs (g : Graph) (unseen : List String) (current : String) : List String :=
  (g.neighbours current).filter fun n => unseen.contains n && 2 ≤ g.degree n

theorem mem_nextHubs {unseen : List String} {a b : String} :
    b ∈ g.nextHubs unseen a ↔ g.HubStep unseen a b := by
  simp [nextHubs, HubStep]

/-! ## The steps of a search -/

theorem explore_nil (unseen : List String) : g.explore unseen [] = ([], unseen) := by
  rw [explore]

theorem explore_cons_of_notMem {unseen : List String} {a : String} (h : a ∉ unseen)
    (stack : List String) : g.explore unseen (a :: stack) = g.explore unseen stack := by
  rw [explore, dif_neg h]

/-- **A visit** takes an entity off the unseen ones and puts its hubs on the stack. -/
theorem explore_cons_of_mem {unseen : List String} {a : String} (h : a ∈ unseen)
    (stack : List String) :
    g.explore unseen (a :: stack)
      = let found := g.explore (unseen.erase a) ((g.nextHubs (unseen.erase a) a).reverse ++ stack)
        (a :: found.1, found.2) := by
  rw [explore, dif_pos h]
  rfl

/-- **Induction along a search**: an entity on the stack is visited or skipped. -/
@[elab_as_elim]
theorem explore_induction (g : Graph) {motive : List String → List String → Prop}
    (nil : ∀ unseen, motive unseen [])
    (visit : ∀ unseen a stack, a ∈ unseen →
      motive (unseen.erase a) ((g.nextHubs (unseen.erase a) a).reverse ++ stack) →
      motive unseen (a :: stack))
    (skip : ∀ unseen a stack, a ∉ unseen → motive unseen stack → motive unseen (a :: stack))
    (unseen stack : List String) : motive unseen stack :=
  explore.induct g motive nil (fun unseen a stack h _ _ _ ih => visit unseen a stack h ih) skip
    unseen stack

/-! ## What a search visits

Both inclusions are inductions along the search. That all is found uses that a visit puts
everything on the stack that is one step away; that nothing else is found uses only what is on the
stack. -/

/-- Only unseen entities are visited. -/
theorem mem_unseen_of_mem_explore {unseen stack : List String} {n : String}
    (h : n ∈ (g.explore unseen stack).1) : n ∈ unseen := by
  induction unseen, stack using explore_induction g with
  | nil unseen =>
    rw [explore_nil] at h
    cases h
  | visit unseen a stack ha ih =>
    rw [explore_cons_of_mem ha] at h
    rcases List.mem_cons.1 h with rfl | h
    · exact ha
    · exact List.mem_of_mem_erase (ih h)
  | skip unseen a stack ha ih =>
    rw [explore_cons_of_notMem ha] at h
    exact ih h

/-- **No entity is visited twice.** An entity that is visited is taken off the unseen ones first,
and only unseen ones are visited. -/
theorem nodup_explore {unseen stack : List String} (hu : unseen.Nodup) :
    (g.explore unseen stack).1.Nodup := by
  induction unseen, stack using explore_induction g with
  | nil unseen =>
    rw [explore_nil]
    exact List.nodup_nil
  | visit unseen a stack ha ih =>
    rw [explore_cons_of_mem ha]
    refine List.nodup_cons.2 ⟨fun hmem => ?_, ih (hu.erase a)⟩
    exact (hu.mem_erase_iff.1 (mem_unseen_of_mem_explore hmem)).1 rfl
  | skip unseen a stack ha ih =>
    rw [explore_cons_of_notMem ha]
    exact ih hu

/-- **What is not visited stays unseen**, in its order. Those that are left are filtered out of
those that were there, so that nothing about them changes. -/
theorem explore_snd {unseen stack : List String} (hu : unseen.Nodup) :
    (g.explore unseen stack).2 = unseen.filter fun n => !(g.explore unseen stack).1.contains n := by
  induction unseen, stack using explore_induction g with
  | nil unseen =>
    rw [explore_nil]
    simp
  | visit unseen a stack ha ih =>
    rw [explore_cons_of_mem ha]
    dsimp only
    rw [ih (hu.erase a), hu.erase_eq_filter, List.filter_filter]
    refine List.filter_congr fun n _ => ?_
    rw [List.contains_cons, Bool.not_or, Bool.and_comm]
    rfl
  | skip unseen a stack ha ih =>
    rw [explore_cons_of_notMem ha]
    exact ih hu

theorem mem_explore_snd {unseen stack : List String} (hu : unseen.Nodup) {n : String} :
    n ∈ (g.explore unseen stack).2 ↔ n ∈ unseen ∧ n ∉ (g.explore unseen stack).1 := by
  rw [explore_snd hu, List.mem_filter, Bool.not_eq_true', ← Bool.not_eq_true,
    List.contains_iff_mem]

theorem nodup_explore_snd {unseen stack : List String} (hu : unseen.Nodup) :
    (g.explore unseen stack).2.Nodup := by
  rw [explore_snd hu]
  exact hu.filter _

theorem Reaches.of_erase {unseen : List String} {a b c : String}
    (h : g.Reaches (unseen.erase c) a b) : g.Reaches unseen a b := by
  have hstep : g.HubStep (unseen.erase c) ≤ g.HubStep unseen :=
    fun _ _ hs => ⟨hs.1, List.mem_of_mem_erase hs.2.1, hs.2.2⟩
  exact Relation.ReflTransGen.mono hstep _ _ h

/-- Whatever is visited can be reached from the stack. -/
theorem exists_reaches_of_mem_explore {unseen stack : List String} {n : String}
    (h : n ∈ (g.explore unseen stack).1) :
    ∃ a ∈ stack, a ∈ unseen ∧ g.Reaches unseen a n := by
  induction unseen, stack using explore_induction g with
  | nil unseen =>
    rw [explore_nil] at h
    cases h
  | visit unseen a stack ha ih =>
    rw [explore_cons_of_mem ha] at h
    rcases List.mem_cons.1 h with rfl | h
    · exact ⟨n, List.mem_cons_self, ha, .refl⟩
    obtain ⟨b, hb, hbu, hbn⟩ := ih h
    rcases List.mem_append.1 hb with hb | hb
    · -- it was pushed as a neighbour of the visited entity
      obtain ⟨hab, _, hdegree⟩ := mem_nextHubs.1 (List.mem_reverse.1 hb)
      exact ⟨a, List.mem_cons_self, ha,
        .head ⟨hab, List.mem_of_mem_erase hbu, hdegree⟩ hbn.of_erase⟩
    · exact ⟨b, List.mem_cons_of_mem a hb, List.mem_of_mem_erase hbu, hbn.of_erase⟩
  | skip unseen a stack ha ih =>
    rw [explore_cons_of_notMem ha] at h
    obtain ⟨b, hb, hbn⟩ := ih h
    exact ⟨b, List.mem_cons_of_mem a hb, hbn⟩

/-- What is on the stack is visited, unless it has been seen. -/
theorem mem_explore_of_mem_stack {unseen stack : List String} {a : String}
    (ha : a ∈ stack) (hu : a ∈ unseen) : a ∈ (g.explore unseen stack).1 := by
  induction unseen, stack using explore_induction g with
  | nil unseen => cases ha
  | visit unseen b stack hb ih =>
    rw [explore_cons_of_mem hb]
    by_cases hab : a = b
    · exact hab ▸ List.mem_cons_self
    · have hstack := (List.mem_cons.1 ha).resolve_left hab
      exact List.mem_cons_of_mem b
        (ih (List.mem_append_right _ hstack) ((List.mem_erase_of_ne hab).2 hu))
  | skip unseen b stack hb ih =>
    rw [explore_cons_of_notMem hb]
    rcases List.mem_cons.1 ha with rfl | ha
    · exact absurd hu hb
    · exact ih ha hu

/-- **What is visited is closed under steps.** When an entity is visited, its unseen hubs are put
on the stack, and everything on the stack is visited unless it has been already. -/
theorem mem_explore_of_hubStep {unseen stack : List String} {a b : String}
    (ha : a ∈ (g.explore unseen stack).1) (hab : g.HubStep unseen a b) :
    b ∈ (g.explore unseen stack).1 := by
  induction unseen, stack using explore_induction g with
  | nil unseen =>
    rw [explore_nil] at ha
    cases ha
  | visit unseen c stack hc ih =>
    rw [explore_cons_of_mem hc] at ha ⊢
    by_cases hbc : b = c
    · exact hbc ▸ List.mem_cons_self
    have hstep : g.HubStep (unseen.erase c) a b :=
      ⟨hab.1, (List.mem_erase_of_ne hbc).2 hab.2.1, hab.2.2⟩
    refine List.mem_cons_of_mem c ?_
    rcases List.mem_cons.1 ha with rfl | ha
    · -- the steps from the visited entity are what it pushes
      exact mem_explore_of_mem_stack
        (List.mem_append_left _ (List.mem_reverse.2 (mem_nextHubs.2 hstep))) hstep.2.1
    · exact ih ha hstep
  | skip unseen c stack hc ih =>
    rw [explore_cons_of_notMem hc] at ha ⊢
    exact ih ha hab

/-- **A search visits exactly what can be reached from its stack.** Both directions together say
that the order of the stack plays no part. -/
theorem mem_explore_iff {unseen stack : List String} {n : String} :
    n ∈ (g.explore unseen stack).1 ↔ ∃ a ∈ stack, a ∈ unseen ∧ g.Reaches unseen a n := by
  refine ⟨exists_reaches_of_mem_explore, ?_⟩
  rintro ⟨a, ha, hu, hreach⟩
  induction hreach with
  | refl => exact mem_explore_of_mem_stack ha hu
  | tail _ hstep ih => exact mem_explore_of_hubStep ih hstep

theorem mem_explore_singleton_iff {unseen : List String} {a n : String} (ha : a ∈ unseen) :
    n ∈ (g.explore unseen [a]).1 ↔ g.Reaches unseen a n := by
  rw [mem_explore_iff]
  simp [ha]

/-! ## Groups -/

/-- **A group starts at an entity that has not been seen.** -/
theorem groupsFrom_cons_of_mem {unseen rest : List String} {a : String} (h : a ∈ unseen) :
    g.groupsFrom unseen (a :: rest)
      = (g.explore unseen [a]).1 :: g.groupsFrom (g.explore unseen [a]).2 rest := by
  rw [groupsFrom, if_pos (List.contains_iff_mem.2 h)]

theorem groupsFrom_cons_of_notMem {unseen rest : List String} {a : String} (h : a ∉ unseen) :
    g.groupsFrom unseen (a :: rest) = g.groupsFrom unseen rest := by
  rw [groupsFrom, if_neg fun hc => h (List.contains_iff_mem.1 hc)]

end ErDiagram.Graph
