import SheetFormula.Proofs.Block

/-!
# Rectangles as sets of cells

A rectangle is the set of its cells: no two have the same ones (`Rect.cells_injective`). The common
cells of two rectangles are those of a rectangle, or there are none. So on rectangles that may be
missing, taking the common cells is the intersection of sets (`Rect.cells_common`) and has its laws.

What this comes to for the rectangle between two references, together with how its rows list the
cells and how its counts measure them, is `Rect.between_cells`.
-/

namespace SheetFormula

/-- The order of cells row by row. -/
def Position.Before (a b : Position) : Prop :=
  a.row < b.row ∨ a.row = b.row ∧ a.column < b.column

namespace Rect

/-! ## The order of the cells -/

theorem pairwise_cellsFrom {top left bottom right : Nat} (rows : bottom < UInt32.size)
    (columns : right < UInt16.size) :
    (cellsFrom top left bottom right).Pairwise Position.Before := by
  have rowNumber : ∀ i ≤ bottom, i.toUInt32.toNat = i := fun i hi =>
    UInt32.toNat_ofNat_of_lt (Nat.lt_of_le_of_lt hi rows)
  have columnNumber : ∀ j ≤ right, j.toUInt16.toNat = j := fun j hj =>
    UInt16.toNat_ofNat_of_lt (Nat.lt_of_le_of_lt hj columns)
  rw [cellsFrom, List.pairwise_flatMap]
  constructor
  · intro row _
    rw [List.pairwise_map]
    refine (List.pairwise_lt_range' ..).imp_of_mem fun {j k} hj hk less => .inr ⟨rfl, ?_⟩
    rw [List.mem_range'_1] at hj hk
    rw [UInt16.lt_iff_toNat_lt, columnNumber j (by omega), columnNumber k (by omega)]
    exact less
  · refine (List.pairwise_lt_range' ..).imp_of_mem
      fun {i k} hi hk less place first other second => ?_
    obtain ⟨_, -, rfl⟩ := List.mem_map.1 first
    obtain ⟨_, -, rfl⟩ := List.mem_map.1 second
    rw [List.mem_range'_1] at hi hk
    refine .inl ?_
    rw [UInt32.lt_iff_toNat_lt, rowNumber i (by omega), rowNumber k (by omega)]
    exact less

theorem pairwise_flatten_rows (rect : Rect) : rect.rows.flatten.Pairwise Position.Before := by
  rw [flatten_rows]
  exact pairwise_cellsFrom (UInt32.toNat_lt_size _) (UInt16.toNat_lt_size _)

/-! ## Common cells -/

/-- The cells of a rectangle that may be missing. -/
def cells (rect : Option Rect) : Set Position :=
  {place | ∃ r ∈ rect, place ∈ r}

/-- The rectangle of the common cells of two rectangles, if both are there and have some. -/
def common (a b : Option Rect) : Option Rect :=
  a.bind fun a => b.bind a.intersect?

@[simp]
theorem cells_none : cells none = ∅ := by
  simp [cells]

@[simp]
theorem mem_cells_some {rect : Rect} {place : Position} :
    place ∈ cells (some rect) ↔ place ∈ rect := by
  simp [cells]

theorem cells_common (a b : Option Rect) : cells (common a b) = cells a ∩ cells b := by
  cases a with
  | none => simp [common]
  | some a =>
    cases b with
    | none => simp [common]
    | some b =>
      ext place
      rw [Set.mem_inter_iff, mem_cells_some, mem_cells_some, ← mem_intersect?]
      rfl

theorem cells_injective : Function.Injective cells := by
  intro a b same
  have mem : ∀ place, place ∈ cells a ↔ place ∈ cells b := fun place => by rw [same]
  cases a with
  | none =>
    cases b with
    | none => rfl
    | some b => simpa using (mem _).2 (mem_cells_some.2 b.topLeft_mem)
  | some a =>
    cases b with
    | none => simpa using (mem _).1 (mem_cells_some.2 a.topLeft_mem)
    | some b =>
      simp only [mem_cells_some] at mem
      -- The corners of each rectangle lie in the other.
      obtain ⟨⟨top, -⟩, left, -⟩ := (mem _).1 a.topLeft_mem
      obtain ⟨⟨-, bottom⟩, -, right⟩ := (mem _).1 a.bottomRight_mem
      obtain ⟨⟨top', -⟩, left', -⟩ := (mem _).2 b.topLeft_mem
      obtain ⟨⟨-, bottom'⟩, -, right'⟩ := (mem _).2 b.bottomRight_mem
      refine congrArg some (ext_toNat ?_ ?_ ?_ ?_)
      · exact congrArg _ (UInt32.le_antisymm top' top)
      · exact congrArg _ (UInt16.le_antisymm left' left)
      · exact congrArg _ (UInt32.le_antisymm bottom bottom')
      · exact congrArg _ (UInt16.le_antisymm right right')

theorem common_comm (a b : Option Rect) : common a b = common b a :=
  cells_injective (by rw [cells_common, cells_common, Set.inter_comm])

theorem common_assoc (a b c : Option Rect) : common (common a b) c = common a (common b c) :=
  cells_injective (by rw [cells_common, cells_common, cells_common, cells_common, Set.inter_assoc])

theorem common_self (a : Option Rect) : common a a = a :=
  cells_injective (by rw [cells_common, Set.inter_self])

theorem mem_cells_intersect? {a b : Rect} {place : Position} :
    place ∈ cells (a.intersect? b) ↔ place ∈ a ∧ place ∈ b :=
  mem_intersect?

theorem intersect?_eq_none_iff {a b : Rect} :
    a.intersect? b = none ↔ ∀ place ∈ a, place ∉ b := by
  rw [← cells_injective.eq_iff, cells_none, Set.eq_empty_iff_forall_notMem]
  simp only [mem_cells_intersect?, not_and]

/-! ## Rectangles between references -/

section Shape

variable {rect : Rect}

theorem length_rows (grid : rect.bottom < maxRows) : rect.rows.length = rect.rowCount.toNat := by
  rw [toNat_rowCount grid, rows, List.length_map, List.length_range']

theorem length_of_mem_rows (grid : rect.right < maxColumns) {row : List Position}
    (mem : row ∈ rect.rows) : row.length = rect.columnCount.toNat := by
  obtain ⟨_, -, rfl⟩ := List.mem_map.1 mem
  rw [toNat_columnCount grid, List.length_map, List.length_range']

theorem row_of_mem_rows {row : List Position} (mem : row ∈ rect.rows) :
    ∃ r, ∀ place ∈ row, place.row = r := by
  obtain ⟨r, -, rfl⟩ := List.mem_map.1 mem
  refine ⟨r.toUInt32, fun place inRow => ?_⟩
  obtain ⟨_, -, rfl⟩ := List.mem_map.1 inRow
  rfl

end Shape

theorem inGrid_of_between {start stop : Reference} {rect : Rect}
    (spanned : between start stop = .ok rect) :
    rect.bottom < maxRows ∧ rect.right < maxColumns := by
  obtain ⟨a, b, first, second, rfl⟩ := exists_of_between spanned
  obtain ⟨firstRow, firstColumn⟩ := Sheet.inGrid_of_address first
  obtain ⟨secondRow, secondColumn⟩ := Sheet.inGrid_of_address second
  exact Position.lt_of_between (mem_spanning.1 (bottomRight_mem _)) ⟨firstRow, secondRow⟩
    ⟨firstColumn, secondColumn⟩

/-- The rectangle between two references has the cells between them, whichever corners they are. Its
rows list each of them once, row by row, in as many rows of as many cells as it counts, and the
counts overflow no word. Two such rectangles have no rectangle in common exactly if they share no
cell, and else one of the shared cells. To take what is common, of rectangles that may be missing,
is commutative, associative and idempotent. -/
theorem between_cells {start stop : Reference} {rect : Rect}
    (spanned : between start stop = .ok rect) :
    (∃ a b, start.address = .ok a ∧ stop.address = .ok b ∧
      ∀ place, (place ∈ rect ↔ place ∈ a.position.between b.position) ∧
        (place ∈ rect.rows.flatten ↔ place ∈ rect)) ∧
    (rect.rows.flatten.Nodup ∧ rect.rows.flatten.Pairwise Position.Before) ∧
    (rect.rows.length = rect.rowCount.toNat ∧ ∀ row ∈ rect.rows,
      row.length = rect.columnCount.toNat ∧ ∃ r, ∀ place ∈ row, place.row = r) ∧
    (rect.rowCount.toNat = rect.bottom.toNat - rect.top.toNat + 1 ∧
      rect.columnCount.toNat = rect.right.toNat - rect.left.toNat + 1 ∧
      rect.cellCount.toNat = rect.rowCount.toNat * rect.columnCount.toNat ∧
      rect.cellCount.toNat = rect.rows.flatten.length ∧
      rect.cellCount.toNat = {place | place ∈ rect}.ncard) ∧
    (∀ {start' stop' : Reference} {other : Rect}, between start' stop' = .ok other →
      (rect.intersect? other = none ↔ ∀ place ∈ rect, place ∉ other) ∧
      ∀ shared, rect.intersect? other = some shared →
        ∀ place, place ∈ shared ↔ place ∈ rect ∧ place ∈ other) ∧
    ∀ a b c : Option Rect, common a b = common b a ∧
      common (common a b) c = common a (common b c) ∧ common a a = a := by
  obtain ⟨rows, columns⟩ := inGrid_of_between spanned
  have order := UInt32.le_iff_toNat_le.1 rect.top_le_bottom
  have order' := UInt16.le_iff_toNat_le.1 rect.left_le_right
  have count := toNat_cellCount rows columns
  refine ⟨?_, ⟨rect.nodup_flatten_rows, rect.pairwise_flatten_rows⟩,
    ⟨length_rows rows, fun row mem => ⟨length_of_mem_rows columns mem, row_of_mem_rows mem⟩⟩,
    ⟨?_, ?_, ?_, count, ?_⟩, fun _ => ⟨intersect?_eq_none_iff, fun shared isShared place => ?_⟩,
    fun a b c => ⟨common_comm a b, common_assoc a b c, common_self a⟩⟩
  · obtain ⟨a, b, first, second, rfl⟩ := exists_of_between spanned
    exact ⟨a, b, first, second, fun place => ⟨mem_spanning, mem_flatten_rows⟩⟩
  · rw [toNat_rowCount rows]
    omega
  · rw [toNat_columnCount columns]
    omega
  · rw [count, length_flatten_rows, toNat_rowCount rows, toNat_columnCount columns]
  · rw [count, ncard_cells]
  · rw [← mem_cells_intersect?, isShared, mem_cells_some]

/-- Two rectangles that overlap in the cells `B2` and `B3`, with corners in any order and any
spelling. -/
theorem between_cells_overlap :
    ∃ rect other : Rect, between (.ofLabel "$B3") (.ofLabel "a1") = .ok rect ∧
      between (.ofLabel "B2") (.ofLabel "C05") = .ok other ∧
      rect.rows = [[⟨0, 0⟩, ⟨0, 1⟩], [⟨1, 0⟩, ⟨1, 1⟩], [⟨2, 0⟩, ⟨2, 1⟩]] ∧
      rect.cellCount = 6 ∧
      ∃ shared, rect.intersect? other = some shared ∧ shared.rows.flatten = [⟨1, 1⟩, ⟨2, 1⟩] ∧
        ∀ place, place ∈ shared ↔ place ∈ rect ∧ place ∈ other := by
  have first : (Reference.ofLabel "$B3").address = .ok ⟨2, 1, false, true⟩ := by cbv
  have second : (Reference.ofLabel "a1").address = .ok ⟨0, 0, false, false⟩ := by cbv
  have first' : (Reference.ofLabel "B2").address = .ok ⟨1, 1, false, false⟩ := by cbv
  have second' : (Reference.ofLabel "C05").address = .ok ⟨4, 2, false, false⟩ := by cbv
  have spanned : between (.ofLabel "$B3") (.ofLabel "a1") = .ok (spanning ⟨2, 1⟩ ⟨0, 0⟩) := by
    rw [between, first, second]
    rfl
  have spanned' : between (.ofLabel "B2") (.ofLabel "C05") = .ok (spanning ⟨1, 1⟩ ⟨4, 2⟩) := by
    rw [between, first', second']
    rfl
  obtain ⟨-, -, -, -, meets, -⟩ := between_cells spanned
  exact ⟨_, _, spanned, spanned', by decide, by decide, spanning ⟨1, 1⟩ ⟨2, 1⟩, rfl, by decide,
    (meets spanned').2 _ rfl⟩

end Rect

end SheetFormula
