import SheetFormula.Proofs.CellLabel.Normal
import SheetFormula.Proofs.Clipping

/-!
# The cells of a rectangle

The rows of a rectangle list its cells, each once (`Rect.mem_flatten_rows`,
`Rect.nodup_flatten_rows`), so the rectangle has as many cells as rows times columns
(`Rect.ncard_cells`). Within the grid these counts fit into their words (`Rect.toNat_cellCount`).
-/

namespace SheetFormula.Rect

section CellsFrom

variable {top left bottom right : Nat}

theorem mem_cellsFrom (rows : bottom < UInt32.size) (columns : right < UInt16.size)
    {place : Position} :
    place ∈ cellsFrom top left bottom right ↔
      (top ≤ place.row.toNat ∧ place.row.toNat ≤ bottom) ∧
        left ≤ place.column.toNat ∧ place.column.toNat ≤ right := by
  simp only [cellsFrom, List.mem_flatMap, List.mem_map, List.mem_range'_1]
  constructor
  · rintro ⟨row, inRows, column, inColumns, rfl⟩
    have rowNumber : row.toUInt32.toNat = row := UInt32.toNat_ofNat_of_lt (by omega)
    have columnNumber : column.toUInt16.toNat = column := UInt16.toNat_ofNat_of_lt (by omega)
    rw [rowNumber, columnNumber]
    omega
  · rintro ⟨inRows, inColumns⟩
    refine ⟨place.row.toNat, by omega, place.column.toNat, by omega, ?_⟩
    rw [Nat.toUInt32, Nat.toUInt16, UInt32.ofNat_toNat, UInt16.ofNat_toNat]

theorem nodup_cellsFrom (rows : bottom < UInt32.size) (columns : right < UInt16.size) :
    (cellsFrom top left bottom right).Nodup := by
  rw [cellsFrom, List.nodup_flatMap]
  constructor
  · intro row _
    refine List.Nodup.map_on (fun i hi j hj same => ?_) (List.nodup_range' ..)
    rw [List.mem_range'_1] at hi hj
    have number : ∀ k ≤ right, k.toUInt16.toNat = k := fun k hk =>
      UInt16.toNat_ofNat_of_lt (by omega)
    rw [← number i (by omega), ← number j (by omega), (Position.mk.inj same).2]
  · refine (List.nodup_range' ..).imp_of_mem fun {i j} hi hj ne => ?_
    rw [List.mem_range'_1] at hi hj
    have number : ∀ k ≤ bottom, k.toUInt32.toNat = k := fun k hk =>
      UInt32.toNat_ofNat_of_lt (by omega)
    rw [Function.onFun, List.disjoint_left]
    intro place first second
    obtain ⟨_, -, rfl⟩ := List.mem_map.1 first
    obtain ⟨_, -, same⟩ := List.mem_map.1 second
    have row := (Position.mk.inj same).1
    exact ne (by rw [← number i (by omega), ← number j (by omega), row])

theorem length_cellsFrom :
    (cellsFrom top left bottom right).length = (bottom + 1 - top) * (right + 1 - left) := by
  simp [cellsFrom, List.length_flatMap]

end CellsFrom

variable (rect : Rect)

theorem mem_flatten_rows {rect : Rect} {place : Position} :
    place ∈ rect.rows.flatten ↔ place ∈ rect := by
  rw [flatten_rows, mem_cellsFrom (UInt32.toNat_lt_size _) (UInt16.toNat_lt_size _), mem_iff_toNat]

theorem nodup_flatten_rows : rect.rows.flatten.Nodup := by
  rw [flatten_rows]
  exact nodup_cellsFrom (UInt32.toNat_lt_size _) (UInt16.toNat_lt_size _)

theorem length_flatten_rows : rect.rows.flatten.length =
    (rect.bottom.toNat + 1 - rect.top.toNat) * (rect.right.toNat + 1 - rect.left.toNat) := by
  rw [flatten_rows, length_cellsFrom]

/-- A rectangle has as many cells as its rows list. -/
theorem ncard_cells : {place | place ∈ rect}.ncard = rect.rows.flatten.length := by
  have cells : {place | place ∈ rect} = ↑rect.rows.flatten.toFinset := by
    ext place
    rw [List.coe_toFinset, Set.mem_ofPred_eq, Set.mem_ofPred_eq, mem_flatten_rows]
  rw [cells, Set.ncard_coe_finset, List.toFinset_card_of_nodup rect.nodup_flatten_rows]

theorem topLeft_mem : (⟨rect.top, rect.left⟩ : Position) ∈ rect :=
  ⟨⟨UInt32.le_refl _, rect.top_le_bottom⟩, UInt16.le_refl _, rect.left_le_right⟩

theorem bottomRight_mem : (⟨rect.bottom, rect.right⟩ : Position) ∈ rect :=
  ⟨⟨rect.top_le_bottom, UInt32.le_refl _⟩, rect.left_le_right, UInt16.le_refl _⟩

theorem exists_mem_offset {rect : Rect} {i j : Nat} (row : rect.top.toNat + i ≤ rect.bottom.toNat)
    (column : rect.left.toNat + j ≤ rect.right.toNat) :
    ∃ place ∈ rect, place.row.toNat = rect.top.toNat + i ∧
      place.column.toNat = rect.left.toNat + j := by
  let place : Position := ⟨(rect.top.toNat + i).toUInt32, (rect.left.toNat + j).toUInt16⟩
  have rowNumber : place.row.toNat = rect.top.toNat + i :=
    UInt32.toNat_ofNat_of_lt (Nat.lt_of_le_of_lt row (UInt32.toNat_lt_size _))
  have columnNumber : place.column.toNat = rect.left.toNat + j :=
    UInt16.toNat_ofNat_of_lt (Nat.lt_of_le_of_lt column (UInt16.toNat_lt_size _))
  exact ⟨place, mem_iff_toNat.2 (by omega), rowNumber, columnNumber⟩

section Grid

variable {rect : Rect}

theorem toNat_rowCount (grid : rect.bottom < maxRows) :
    rect.rowCount.toNat = rect.bottom.toNat + 1 - rect.top.toNat := by
  have last : maxRows.toNat = 1048576 := rfl
  have order := UInt32.le_iff_toNat_le.1 rect.top_le_bottom
  have one : (1 : UInt32).toNat = 1 := rfl
  rw [UInt32.lt_iff_toNat_lt] at grid
  rw [rowCount, UInt32.toNat_add, UInt32.toNat_sub_of_le _ _ rect.top_le_bottom, one]
  omega

theorem toNat_columnCount (grid : rect.right < maxColumns) :
    rect.columnCount.toNat = rect.right.toNat + 1 - rect.left.toNat := by
  have last : maxColumns.toNat = 16384 := rfl
  have order := UInt16.le_iff_toNat_le.1 rect.left_le_right
  have one : (1 : UInt16).toNat = 1 := rfl
  rw [UInt16.lt_iff_toNat_lt] at grid
  rw [columnCount, UInt16.toNat_add, UInt16.toNat_sub_of_le _ _ rect.left_le_right, one]
  omega

/-- The number of cells within the grid overflows no word. -/
theorem toNat_cellCount (rows : rect.bottom < maxRows) (columns : rect.right < maxColumns) :
    rect.cellCount.toNat = rect.rows.flatten.length := by
  have lastRow : maxRows.toNat = 1048576 := rfl
  have lastColumn : maxColumns.toNat = 16384 := rfl
  have bottom := UInt32.lt_iff_toNat_lt.1 rows
  have right := UInt16.lt_iff_toNat_lt.1 columns
  have small : (rect.bottom.toNat + 1 - rect.top.toNat) * (rect.right.toNat + 1 - rect.left.toNat) ≤
      1048576 * 16384 := Nat.mul_le_mul (by omega) (by omega)
  rw [cellCount, UInt64.toNat_mul, UInt32.toNat_toUInt64, UInt16.toNat_toUInt64,
    toNat_rowCount rows, toNat_columnCount columns, length_flatten_rows]
  omega

end Grid

end SheetFormula.Rect
