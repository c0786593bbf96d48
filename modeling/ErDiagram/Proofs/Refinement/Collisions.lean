import ErDiagram.Proofs.Geometry.Real
import ErDiagram.Proofs.Refinement.Keys

/-!
# What a sweep that moves nothing has seen

A sweep looks at a pair of entities where they are at that time, and what it does to one pair
moves entities that other pairs are about. So a sweep that has moved something says nothing of the
map that it leaves. But one that has moved nothing has found every pair where it still is, and
this is the map that the pass ends with if it ends by itself.

Nothing of this is about numbers. It holds in exact arithmetic, and also where numbers are rounded
or are none at all, since a pair counts as apart only if the comparison says so. This is why
`AllApart` is stated with the comparison that the pass makes, from the first entity of a pair to
the second, and not with a distance: over an arbitrary `Scalar` there is no law by which the way
back would be as long.

The proof follows the loops from the inside. A pair is left alone just if it is apart, and is
counted otherwise; counts only grow, so that a sweep without a count has left every pair alone,
and with it the map that the next pair was looked up in. For the whole pass, the sweeps are
written down as a list (`executedSweeps`), since what is to be said is about the last of them,
which the result of the pass does not show. That the list belongs to the pass is
`resolveCollisions_eq_executedSweeps`.
-/

namespace ErDiagram.Refinement

variable {α : Type} [Scalar α]

/-- **All entities are apart**: of any two, taken in the order of the map, the way from the first
to the second is long enough. Each pair is taken once and in the order in which a sweep takes it.
With numbers that cannot be compared the inequality is false, so that `AllApart` is a positive
statement that every comparison was made and came out well. -/
def AllApart (minDistance : α) (m : PositionMap α) : Prop :=
  m.entries.Pairwise fun e e' =>
    minDistance - tolerance ≤ Scalar.norm (e'.2.x - e.2.x) (e'.2.y - e.2.y)

/-- **The sweeps of the first pass**, each with what it has done. The first one starts with the
given map, every other one with the map that the one before has left, and the last one is the
first that moves nothing, unless there have been enough before.

A pass returns only where it ended and how much it has moved in all. Whether its last sweep moved
something cannot be read off these two, and this list is there to say it. -/
def executedSweeps (minDistance : α) : (sweeps : Nat) → PositionMap α → List (Moves α)
  | 0, _ => []
  | sweeps + 1, m =>
    let s := sweep minDistance m
    if s.count = 0 then [s] else s :: executedSweeps minDistance sweeps s.positions

/-- The entities of a pair are apart, if both have places. An entity that has none is in no pair
of the map's own keys; the implication spares the lemmas about a single pair to say so. -/
def Pair.IsApartIn (minDistance : α) (m : PositionMap α) (p : Pair) : Prop :=
  ∀ a b, m.get? p.first = some a → m.get? p.second = some b → isApart minDistance a b = true

/-! ## All pairs -/

/-- **The pairs of a list** are its items with those after them. -/
theorem forall_pairsFrom_iff {place : Nat} {names : List String} {R : String → String → Prop} :
    (∀ p ∈ pairsFrom place names, R p.first p.second) ↔ names.Pairwise R := by
  induction names generalizing place with
  | nil => exact iff_of_true nofun .nil
  | cons a rest ih =>
    rw [pairsFrom, List.forall_mem_append, List.forall_mem_map, ih, List.pairwise_cons]

theorem isApart_iff {minDistance : α} {a b : Point α} :
    isApart minDistance a b = true ↔
      minDistance - tolerance ≤ Scalar.norm (b.x - a.x) (b.y - a.y) :=
  decide_eq_true_iff

/-- All entities are apart just if all pairs are that a sweep looks at. This turns the statement
about the entries of a map into one about the list that the sweep folds over. -/
theorem allApart_iff {minDistance : α} {m : PositionMap α} :
    AllApart minDistance m ↔ ∀ p ∈ pairsFrom 0 m.keys, p.IsApartIn minDistance m := by
  unfold Pair.IsApartIn AllApart
  rw [forall_pairsFrom_iff (R := fun k k' => ∀ a b, m.get? k = some a → m.get? k' = some b →
    isApart minDistance a b = true), OrderedMap.keys, List.pairwise_map]
  refine List.Pairwise.iff_of_mem fun {e e'} he he' => ?_
  have hvalue : m.get? e.1 = some e.2 := OrderedMap.get?_eq_some_iff.2 he
  have hvalue' : m.get? e'.1 = some e'.2 := OrderedMap.get?_eq_some_iff.2 he'
  rw [hvalue, hvalue', ← isApart_iff]
  simp

/-! ## One pair

A step either leaves the map as it is or moves two entities and counts. So a count that stays the
same says that nothing was moved, and this is all that the later lemmas use. -/

section Pairs

variable {minDistance : α} {s : Moves α}

/-- A pair that is apart is left where it is. -/
theorem correctPair_of_isApartIn {p : Pair} (h : p.IsApartIn minDistance s.positions) :
    correctPair minDistance s p = s := by
  unfold correctPair
  split
  · next a b ha hb => rw [if_pos (h a b ha hb)]
  · rfl

/-- **A pair that is not apart is moved, and counted.** Together with the lemma before it, a count
is exactly a pair that was found too close. -/
theorem count_correctPair_of_not {p : Pair} (h : ¬ p.IsApartIn minDistance s.positions) :
    (correctPair minDistance s p).count = s.count + 1 := by
  unfold Pair.IsApartIn at h
  push Not at h
  obtain ⟨a, b, ha, hb, hclose⟩ := h
  unfold correctPair
  rw [ha, hb]
  dsimp only
  rw [if_neg hclose]

theorem count_le_count_correctPair (minDistance : α) (s : Moves α) (p : Pair) :
    s.count ≤ (correctPair minDistance s p).count := by
  by_cases h : p.IsApartIn minDistance s.positions
  · rw [correctPair_of_isApartIn h]
  · rw [count_correctPair_of_not h]
    exact Nat.le_succ _

theorem count_le_count_foldl (minDistance : α) (l : List Pair) (s : Moves α) :
    s.count ≤ (l.foldl (correctPair minDistance) s).count :=
  List.foldlRecOn (motive := fun s' : Moves α => s.count ≤ s'.count) l _ le_rfl
    fun s' h p _ => h.trans (count_le_count_correctPair minDistance s' p)

/-- Pairs that are apart are all left where they are. -/
theorem foldl_correctPair_of_isApartIn {l : List Pair}
    (h : ∀ p ∈ l, p.IsApartIn minDistance s.positions) :
    l.foldl (correctPair minDistance) s = s :=
  List.foldlRecOn (motive := fun s' => s' = s) l _ rfl fun s' hs' p hp => by
    rw [hs']
    exact correctPair_of_isApartIn (h p hp)

/-- **Where nothing is counted, all pairs were apart**, and none was looked at elsewhere than
where it was in the beginning. The induction is on the list of pairs: since counts only grow, none
was added by the first pair, which is then left alone, and the rest starts from the same map. -/
theorem isApartIn_of_count_foldl {l : List Pair}
    (h : (l.foldl (correctPair minDistance) s).count = s.count) :
    ∀ p ∈ l, p.IsApartIn minDistance s.positions := by
  induction l with
  | nil => exact nofun
  | cons p l ih =>
    rw [List.foldl_cons] at h
    by_cases hp : p.IsApartIn minDistance s.positions
    · rw [correctPair_of_isApartIn hp] at h
      exact List.forall_mem_cons.2 ⟨hp, ih h⟩
    · -- what is counted once stays counted
      have hcount := count_le_count_foldl minDistance l (correctPair minDistance s p)
      rw [count_correctPair_of_not hp] at hcount
      omega

end Pairs

/-! ## One sweep -/

section Sweeps

variable {minDistance : α} {m : PositionMap α}

theorem sweep_of_allApart (h : AllApart minDistance m) : sweep minDistance m = ⟨m, 0⟩ :=
  foldl_correctPair_of_isApartIn (s := ⟨m, 0⟩) (allApart_iff.1 h)

/-- **A sweep moves nothing just if all entities are apart.** A pair is counted when it is moved,
and as long as none was, all pairs are compared in the map that there was at the start. -/
theorem count_sweep_eq_zero_iff : (sweep minDistance m).count = 0 ↔ AllApart minDistance m :=
  ⟨fun h => allApart_iff.2 (isApartIn_of_count_foldl (s := ⟨m, 0⟩) h),
    fun h => by rw [sweep_of_allApart h]⟩

/-! ## The whole pass

The pass stops after a sweep that counts nothing. Its sweeps are listed, with what each of them
has done, so that one can speak of the last one. -/

/-- **Where all entities are apart, the pass moves nothing**, however many sweeps it may make: the
first one ends it. -/
theorem resolveCollisions_of_allApart (h : AllApart minDistance m) (sweeps : Nat) :
    resolveCollisions minDistance sweeps m = ⟨m, 0⟩ := by
  cases sweeps with
  | zero => rfl
  | succ sweeps =>
    rw [resolveCollisions, sweep_of_allApart h]
    rfl

/-- The pass is its sweeps: it ends where the last of them does, and counts what they all do. -/
theorem resolveCollisions_eq_executedSweeps (minDistance : α) (sweeps : Nat) (m : PositionMap α) :
    resolveCollisions minDistance sweeps m =
      ⟨((executedSweeps minDistance sweeps m).getLast?.map (·.positions)).getD m,
        ((executedSweeps minDistance sweeps m).map (·.count)).sum⟩ := by
  induction sweeps generalizing m with
  | zero => rfl
  | succ sweeps ih =>
    rw [resolveCollisions, executedSweeps]
    dsimp only
    split
    · next h => simp
    · rw [ih, List.getLast?_cons]
      cases (executedSweeps minDistance sweeps (sweep minDistance m).positions).getLast? <;> rfl

theorem exists_eq_sweep_of_mem {sweeps : Nat} {s : Moves α}
    (h : s ∈ executedSweeps minDistance sweeps m) : ∃ m', s = sweep minDistance m' := by
  induction sweeps generalizing m with
  | zero => cases h
  | succ sweeps ih =>
    rw [executedSweeps] at h
    split at h
    · exact ⟨m, List.mem_singleton.1 h⟩
    · rcases List.mem_cons.1 h with rfl | h
      · exact ⟨m, rfl⟩
      · exact ih h

/-- **A pass whose last sweep moves nothing** ends with a map whose entities are all apart. The
last sweep started from some map, found it apart and returned it, and this is the map the pass
ends with. -/
theorem allApart_resolveCollisions {sweeps : Nat} {s : Moves α}
    (hlast : (executedSweeps minDistance sweeps m).getLast? = some s) (hs : s.count = 0) :
    AllApart minDistance (resolveCollisions minDistance sweeps m).positions := by
  obtain ⟨m', rfl⟩ := exists_eq_sweep_of_mem (List.mem_of_getLast? hlast)
  have hapart := count_sweep_eq_zero_iff.1 hs
  -- the map that the last sweep has looked at is the one that it leaves
  rw [resolveCollisions_eq_executedSweeps, hlast, sweep_of_allApart hapart]
  exact hapart

theorem count_resolveCollisions_eq_zero_iff {sweeps : Nat} (h : 1 ≤ sweeps) :
    (resolveCollisions minDistance sweeps m).count = 0 ↔ AllApart minDistance m := by
  obtain ⟨sweeps, rfl⟩ := Nat.exists_eq_add_of_le' h
  constructor
  · intro hcount
    rw [resolveCollisions] at hcount
    dsimp only at hcount
    split at hcount
    · next hsweep => exact count_sweep_eq_zero_iff.1 hsweep
    · next hsweep =>
      exact absurd (Nat.eq_zero_of_add_eq_zero_right hcount) hsweep
  · intro hapart
    rw [resolveCollisions_of_allApart hapart]

/-- **What the first pass certifies.** If the last sweep that it makes moves nothing, then in the
map that it leaves all entities are apart, and the pass would leave this map alone. If it may make
a sweep at all, it moves nothing just if all entities were apart before. In any case the entities
are the same, in the same order.

The condition is on the last sweep and not on the number of sweeps: a pass that has used up its
sweeps may or may not have ended well, and its last sweep says which. -/
theorem allApart_of_unmoved (minDistance : α) (sweeps : Nat) (m : PositionMap α) :
    (resolveCollisions minDistance sweeps m).positions.keys = m.keys ∧
      (∀ s, (executedSweeps minDistance sweeps m).getLast? = some s → s.count = 0 →
        AllApart minDistance (resolveCollisions minDistance sweeps m).positions ∧
          ∀ again, resolveCollisions minDistance again
              (resolveCollisions minDistance sweeps m).positions
            = ⟨(resolveCollisions minDistance sweeps m).positions, 0⟩) ∧
      (1 ≤ sweeps →
        ((resolveCollisions minDistance sweeps m).count = 0 ↔ AllApart minDistance m) ∧
          ((resolveCollisions minDistance sweeps m).count = 0 →
            (resolveCollisions minDistance sweeps m).positions = m)) := by
  refine ⟨keys_resolveCollisions minDistance sweeps m, fun s hlast hs => ?_, fun h => ?_⟩
  · have hapart := allApart_resolveCollisions hlast hs
    exact ⟨hapart, resolveCollisions_of_allApart hapart⟩
  · have hiff : (resolveCollisions minDistance sweeps m).count = 0 ↔ AllApart minDistance m :=
      count_resolveCollisions_eq_zero_iff h
    refine ⟨hiff, fun hcount => ?_⟩
    rw [resolveCollisions_of_allApart (hiff.1 hcount)]

end Sweeps

/-! ## Two entities that are too close -/

/-- Two entities beside each other, on one height, so that a push is to the left and to the right
and the sines and cosines of the definition come to numbers. -/
def beside (x y : ℝ) : PositionMap ℝ where
  entries := [("A", ⟨x, 0⟩), ("B", ⟨y, 0⟩)]
  nodup_keys := by
    show ["A", "B"].Nodup
    decide

theorem norm_beside {x y : ℝ} (h : x ≤ y) : Scalar.norm (y - x) (0 - 0 : ℝ) = y - x := by
  show √((y - x) ^ 2 + (0 - 0) ^ 2) = y - x
  rw [sub_zero, zero_pow two_ne_zero, add_zero, Real.sqrt_sq (sub_nonneg.2 h)]

theorem tolerance_real : (tolerance : ℝ) = 1 / 10 ^ 6 := by
  rw [tolerance, Scalar.decimal_real, Nat.cast_one]

theorem isApart_beside {minDistance x y : ℝ} (h : x ≤ y) :
    isApart minDistance ⟨x, 0⟩ ⟨y, 0⟩ = true ↔ minDistance - 1 / 10 ^ 6 ≤ y - x := by
  rw [isApart_iff, norm_beside h, tolerance_real]

/-- Two entities beside each other are pushed to the left and to the right. -/
theorem pushApart_beside {minDistance x y : ℝ} (i : Nat) (h : 1 ≤ y - x) :
    pushApart minDistance i ⟨x, 0⟩ ⟨y, 0⟩
      = (⟨x - ((minDistance - (y - x)) / 2 + 1 / 10 ^ 3), 0⟩,
        ⟨y + ((minDistance - (y - x)) / 2 + 1 / 10 ^ 3), 0⟩) := by
  have hangle : pushAngle i (⟨x, 0⟩ : Point ℝ) ⟨y, 0⟩ (y - x) = 0 := by
    refine (if_neg ?_).trans ?_
    · rw [Scalar.decimal_real, not_lt]
      norm_num
      linarith
    · show Complex.arg ⟨y - x, 0 - 0⟩ = 0
      rw [sub_zero]
      exact Complex.arg_ofReal_of_nonneg (by linarith)
  have hcos : Scalar.cos (0 : ℝ) = 1 := Real.cos_zero
  have hsin : Scalar.sin (0 : ℝ) = 0 := Real.sin_zero
  unfold pushApart
  dsimp only
  rw [norm_beside (by linarith), hangle, hcos, hsin, mul_one, mul_zero, sub_zero, add_zero,
    Scalar.decimal_real, Nat.cast_one]

theorem allApart_beside {minDistance x y : ℝ} (h : x ≤ y) :
    AllApart minDistance (beside x y) ↔ minDistance - 1 / 10 ^ 6 ≤ y - x := by
  rw [← tolerance_real, ← norm_beside h]
  exact List.pairwise_pair

/-- A sweep pushes two entities apart that are too close. -/
theorem sweep_beside {minDistance x y : ℝ} (h : 1 ≤ y - x)
    (hclose : y - x < minDistance - 1 / 10 ^ 6) :
    sweep minDistance (beside x y)
      = ⟨beside (x - ((minDistance - (y - x)) / 2 + 1 / 10 ^ 3))
          (y + ((minDistance - (y - x)) / 2 + 1 / 10 ^ 3)), 1⟩ := by
  show correctPair minDistance ⟨beside x y, 0⟩ ⟨0, "A", "B"⟩ = _
  unfold correctPair
  dsimp only
  have hfirst : (beside x y).get? "A" = some ⟨x, 0⟩ := rfl
  have hsecond : (beside x y).get? "B" = some ⟨y, 0⟩ := rfl
  rw [hfirst, hsecond]
  dsimp only
  rw [if_neg (by rw [isApart_beside (by linarith), not_le]; exact hclose), pushApart_beside 0 h]
  rfl

/-- Two entities that are too close are pushed apart by the first sweep, and the second one, which
is the last, finds nothing to be done. -/
theorem allApart_of_unmoved_beside :
    (executedSweeps 140 100 (beside 0 50)).getLast? = some ⟨beside (-45.001) 95.001, 0⟩ ∧
      AllApart 140 (resolveCollisions 140 100 (beside 0 50)).positions ∧
      (resolveCollisions 140 100 (resolveCollisions 140 100 (beside 0 50)).positions).count = 0 ∧
      ((resolveCollisions 140 100 (beside 0 50)).count = 0 ↔ AllApart 140 (beside 0 50)) := by
  have hfirst : sweep 140 (beside 0 50) = ⟨beside (-45.001) 95.001, 1⟩ := by
    rw [sweep_beside (by norm_num) (by norm_num)]
    norm_num
  have hsecond : sweep 140 (beside (-45.001) 95.001) = ⟨beside (-45.001) 95.001, 0⟩ :=
    sweep_of_allApart ((allApart_beside (by norm_num)).2 (by norm_num))
  have hlast : (executedSweeps 140 100 (beside 0 50)).getLast?
      = some ⟨beside (-45.001) 95.001, 0⟩ := by
    rw [executedSweeps, hfirst, if_neg one_ne_zero, executedSweeps, hsecond, if_pos rfl]
    rfl
  have hpass := allApart_of_unmoved (140 : ℝ) 100 (beside 0 50)
  obtain ⟨hapart, hagain⟩ := hpass.2.1 _ hlast rfl
  exact ⟨hlast, hapart, congrArg Moves.count (hagain 100), (hpass.2.2 (by decide)).1⟩

end ErDiagram.Refinement
