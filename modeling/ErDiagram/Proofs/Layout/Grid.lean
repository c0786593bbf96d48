import ErDiagram.Layout.Placement
import ErDiagram.Proofs.Connectivity.Degrees
import ErDiagram.Proofs.OrderedMap

/-!
# A grid is filled row by row

The entities of a grid are sorted by how many neighbours they have, and those with equally many
stay in their order. How far an entity is from the first one in this order decides its cell: the
quotient by the number of columns is the row, and the remainder is the column. Two numbers with
the same quotient and remainder are equal, and so no cell is used twice; and what comes before a
cell, row by row, is the cell of a lesser number, and so no cell is left out.

The statement is about the map that comes out and not about the sorted list, which a reader of a
layout does not see: the cell of an entity is read off the order of the map (`cellOf`), and
`IsRowMajor` says that the order is the right one and that the points are those of the cells. The
points are floating-point numbers, and they are given as the expressions that are computed. What
is without gaps and without overlap are the cells; whether two cells have different points is a
matter of the settings, which may make a cell of no width.
-/

namespace ErDiagram.Layout

/-- The row and the column of an entity, by how many entities were placed before it. It is read
off the map, whose order is that in which the entities were placed. -/
def cellOf (columns : ℕ) (m : PositionMap Float) (name : String) : ℕ × ℕ :=
  (m.keys.idxOf name / columns, m.keys.idxOf name % columns)

/-- Whether a cell comes before another one, row by row: the lexicographic order, which is the
order in which a grid is filled. -/
def CellBefore (c c' : ℕ × ℕ) : Prop := c.1 < c'.1 ∨ c.1 = c'.1 ∧ c.2 < c'.2

/-- **A grid without gaps** that has the entities with more neighbours first. The fields together
leave no choice: `perm` and `sorted` determine the order of the map, since among entities with
equally many neighbours the earlier one comes first, and `point` then determines every place. That
no cell is used twice and none is left out would follow, and is stated because it is what a grid
is. -/
structure IsRowMajor (s : Settings) (g : Graph) (names : List String) (columns : ℕ)
    (m : PositionMap Float) : Prop where
  /-- Every entity is placed once, and nothing else. The order of the keys is the one in which
  cells are filled. -/
  perm : m.keys.Perm names
  /-- No entity comes after one with fewer neighbours, nor one with equally many after a later
  one. -/
  sorted : m.keys.Pairwise fun a b =>
    g.degree b < g.degree a ∨ (g.degree a = g.degree b ∧ names.idxOf a < names.idxOf b)
  /-- Rows and columns are as far apart as cells are high and wide. The numbers of a cell are
  turned into floating-point numbers first, as the coordinates are computed from these. -/
  point : ∀ n ∈ names, m.get? n = some
    ⟨s.gridStartX + Float.ofNat (cellOf columns m n).2 * s.gridCellWidth,
      s.gridStartY + Float.ofNat (cellOf columns m n).1 * s.gridCellHeight⟩
  /-- No two entities share a cell. Their points may still be equal, in a grid whose cells have no
  width. -/
  injective : ∀ a ∈ names, ∀ b ∈ names, cellOf columns m a = cellOf columns m b → a = b
  /-- Every cell before a used one is used. -/
  gapless : ∀ a ∈ names, ∀ c : ℕ × ℕ, c.2 < columns → CellBefore c (cellOf columns m a) →
    ∃ b ∈ names, cellOf columns m b = c

/-! ## Numbers and cells -/

theorem eq_of_div_eq_of_mod_eq {i k c : ℕ} (hdiv : i / c = k / c) (hmod : i % c = k % c) :
    i = k := by
  rw [← Nat.div_add_mod i c, ← Nat.div_add_mod k c, hdiv, hmod]

/-- A cell is the one of some number. -/
theorem div_mod_of_lt {row column c : ℕ} (h : column < c) :
    (row * c + column) / c = row ∧ (row * c + column) % c = column := by
  rw [Nat.mul_comm row c, Nat.mul_add_div (by omega), Nat.mul_add_mod, Nat.div_eq_of_lt h,
    Nat.mod_eq_of_lt h]
  exact ⟨Nat.add_zero row, rfl⟩

/-- **Cells come in the order of their numbers.** A cell before that of an entity is therefore the
cell of an entity before it. -/
theorem lt_of_cellBefore {row column i c : ℕ} (hc : column < c)
    (h : CellBefore (row, column) (i / c, i % c)) : row * c + column < i := by
  have hi := Nat.div_add_mod i c
  rw [Nat.mul_comm] at hi
  rcases h with hrow | ⟨hrow, hcolumn⟩
  · have hrow : row + 1 ≤ i / c := hrow
    calc row * c + column < row * c + c := Nat.add_lt_add_left hc _
      _ = (row + 1) * c := (Nat.succ_mul row c).symm
      _ ≤ i / c * c := Nat.mul_le_mul_right c hrow
      _ ≤ i := Nat.div_mul_le_self i c
  · have hrow : row = i / c := hrow
    have hcolumn : column < i % c := hcolumn
    rw [hrow]
    omega

theorem le_leastFrom (p : ℕ → Bool) (steps k : ℕ) : k ≤ leastFrom p steps k := by
  induction steps generalizing k with
  | zero => exact le_rfl
  | succ steps ih =>
    rw [leastFrom]
    split
    · exact le_rfl
    · exact (Nat.le_succ k).trans (ih (k + 1))

/-- A grid has a column. -/
theorem one_le_columnsFor (n : ℕ) : 1 ≤ columnsFor n := le_leastFrom _ _ _

/-! ## The places of a grid -/

variable {g : Graph} {names : List String}

theorem byDegree_perm : (byDegree g names).Perm names := List.mergeSort_perm _ _

theorem entries_grid (f : Frame Float) (columns : ℤ) (hn : names.Nodup) :
    (grid f columns g names).entries = (byDegree g names).zipIdx.map fun e =>
      (e.1, f.cell (Int.fdiv e.2 columns) (Int.fmod e.2 columns)) := by
  refine OrderedMap.entries_ofList ?_
  rw [List.map_map]
  exact (List.zipIdx_map_fst 0 (byDegree g names)).symm ▸ byDegree_perm.nodup_iff.2 hn

theorem keys_grid (f : Frame Float) (columns : ℤ) (hn : names.Nodup) :
    (grid f columns g names).keys = byDegree g names := by
  unfold OrderedMap.keys
  rw [entries_grid f columns hn, List.map_map]
  exact List.zipIdx_map_fst 0 (byDegree g names)

/-- **The point of an entity is the one of its cell.** The map is filled in the order of the
cells, and each name has one. -/
theorem get?_grid (f : Frame Float) (columns : ℕ) (hn : names.Nodup) {n : String}
    (h : n ∈ names) :
    (grid f columns g names).get? n = some
      ⟨f.origin.x + Float.ofNat ((byDegree g names).idxOf n % columns) * f.width,
        f.origin.y + Float.ofNat ((byDegree g names).idxOf n / columns) * f.height⟩ := by
  have hplace : (byDegree g names)[(byDegree g names).idxOf n]? = some n :=
    List.getElem?_idxOf (byDegree_perm.mem_iff.2 h)
  rw [OrderedMap.get?_eq_some_iff, entries_grid f columns hn]
  refine List.mem_map.2 ⟨(n, (byDegree g names).idxOf n),
    List.mk_mem_zipIdx_iff_getElem?.2 hplace, ?_⟩
  show (n, f.cell (Int.fdiv ↑_ ↑columns) (Int.fmod ↑_ ↑columns)) = _
  rw [← Int.ofNat_fdiv, ← Int.ofNat_fmod]
  rfl

end ErDiagram.Layout

namespace ErDiagram.Diagram

open Layout

/-- **A grid is filled row by row and without gaps**, the entities with more neighbours first,
with any number of columns that is given, and with the one that is computed. The grid is returned:
with at least one column there is nothing that it could fail by. -/
theorem isRowMajor_gridOf (d : Diagram) (hn : d.entityNames.Nodup) (s : Settings)
    (columns : Option ℕ) (hc : ∀ c ∈ columns, 1 ≤ c) :
    ∃ m, gridOf s d.analyze.graph d.entityNames (columns.map Int.ofNat) = .ok m ∧
      IsRowMajor s d.analyze.graph d.entityNames
        (columns.getD (columnsFor d.entityNames.length)) m := by
  have hgiven : (columns.map Int.ofNat).getD ↑(columnsFor d.entityNames.length)
      = ((columns.getD (columnsFor d.entityNames.length) : ℕ) : ℤ) := by
    cases columns <;> rfl
  have hpos : 1 ≤ columns.getD (columnsFor d.entityNames.length) := by
    cases columns with
    | none => exact one_le_columnsFor _
    | some c => exact hc c rfl
  generalize columns.getD (columnsFor d.entityNames.length) = c at hgiven hpos
  set g := d.analyze.graph
  set m := grid s.gridFrame c g d.entityNames with hm
  have hkeys : m.keys = byDegree g d.entityNames := keys_grid _ _ hn
  have hperm : m.keys.Perm d.entityNames := hkeys ▸ byDegree_perm
  refine ⟨m, ?_, hperm, ?_, fun n h => ?_, fun a ha b hb hcell => ?_,
    fun a ha cell hlt hbefore => ?_⟩
  · unfold gridOf
    dsimp only
    rw [hgiven, if_neg (by omega)]
  · rw [hkeys]
    exact pairwise_mergeSort_of_pairwise g.degree (pairwise_idxOf hn)
  · unfold cellOf
    rw [hkeys]
    exact get?_grid s.gridFrame c hn h
  · obtain ⟨hdiv, hmod⟩ := Prod.mk.inj hcell
    exact (List.idxOf_inj (hperm.mem_iff.2 ha)).1 (eq_of_div_eq_of_mod_eq hdiv hmod)
  · -- the cell is that of a number which is less than that of the entity
    obtain ⟨row, column⟩ := cell
    have hplace : row * c + column < m.keys.idxOf a := lt_of_cellBefore hlt hbefore
    have hlength : row * c + column < m.keys.length :=
      hplace.trans (List.idxOf_lt_length_iff.2 (hperm.mem_iff.2 ha))
    refine ⟨m.keys[row * c + column], hperm.mem_iff.1 (List.getElem_mem hlength), ?_⟩
    have hnodup : m.keys.Nodup := m.nodup_keys
    unfold cellOf
    rw [hnodup.idxOf_getElem, (div_mod_of_lt hlt).1, (div_mod_of_lt hlt).2]

/-- The entity that the two others are joined with is declared second. -/
def bent : Diagram where
  entities := [{ name := "A" }, { name := "B" }, { name := "C" }]
  relationships := [
    { source := "A", target := "B", cardinality := ⟨.one, .one⟩ },
    { source := "C", target := "B", cardinality := ⟨.one, .zeroOrMany⟩ }]

theorem isRowMajor_gridOf_bent :
    bent.entityNames.Nodup ∧
      ∃ m, gridOf {} bent.analyze.graph bent.entityNames (some 2) = .ok m ∧
        m.keys = ["B", "A", "C"] ∧ cellOf 2 m "C" = (1, 0) := by
  have hn : bent.entityNames.Nodup := by decide
  obtain ⟨m, hm, hgrid⟩ := isRowMajor_gridOf bent hn {} (some 2) fun c hc => by
    cases hc
    decide
  have hkeys : m.keys = ["B", "A", "C"] := by
    refine List.Perm.eq_of_pairwise (fun a b _ _ hab hba => ?_) hgrid.sorted (by decide +kernel)
      (hgrid.perm.trans (by decide))
    -- no two names each come before the other
    omega
  refine ⟨hn, m, hm, hkeys, ?_⟩
  unfold cellOf
  rw [hkeys]
  decide

end ErDiagram.Diagram
