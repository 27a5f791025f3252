import SheetFormula.Proofs.Rectangle

/-!
# Blocks cell by cell

The block between two references shows the cells that lie between their corners and in the area of
the sheet that is in use, each at its distance from the top left corner (`Sheet.Shows`). It takes
from a cell what a reference to this cell gives, and is refused for the number of its cells alone
(`Sheet.block_cells`).

* `Position.between`, `Sheet.area`: the two sets of cells that a block is cut out of.
* `Sheet.mem_overlap?`: the rectangle of a block has the cells in both.
-/

namespace SheetFormula

/-- The cells between two corners, whichever corners they are. -/
def Position.between (a b : Position) : Set Position :=
  {place | (min a.row.toNat b.row.toNat ≤ place.row.toNat ∧
        place.row.toNat ≤ max a.row.toNat b.row.toNat) ∧
      min a.column.toNat b.column.toNat ≤ place.column.toNat ∧
        place.column.toNat ≤ max a.column.toNat b.column.toNat}

/-- The grid has no gap between two of its cells. -/
theorem Position.lt_of_between {a b place : Position} (inside : place ∈ a.between b)
    (rows : a.row < maxRows ∧ b.row < maxRows)
    (columns : a.column < maxColumns ∧ b.column < maxColumns) :
    place.row < maxRows ∧ place.column < maxColumns := by
  obtain ⟨⟨-, below⟩, -, before⟩ := inside
  simp only [UInt32.lt_iff_toNat_lt, UInt16.lt_iff_toNat_lt] at rows columns ⊢
  omega

namespace Rect

theorem mem_spanning {a b place : Position} : place ∈ spanning a b ↔ place ∈ a.between b := by
  obtain ⟨⟨top, bottom⟩, left, right⟩ := toNat_spanning a b
  rw [mem_iff_toNat, top, bottom, left, right]
  rfl

theorem ext_toNat {a b : Rect} (top : a.top.toNat = b.top.toNat)
    (left : a.left.toNat = b.left.toNat) (bottom : a.bottom.toNat = b.bottom.toNat)
    (right : a.right.toNat = b.right.toNat) : a = b := by
  cases a
  cases b
  simp only [UInt32.toNat_inj, UInt16.toNat_inj] at top left bottom right
  simp only [top, left, bottom, right]

/-- A rectangle has no first and second corner, neither for its rows nor for its columns. -/
theorem spanning_exchange {a b c d : Position}
    (rows : c.row = a.row ∧ d.row = b.row ∨ c.row = b.row ∧ d.row = a.row)
    (columns : c.column = a.column ∧ d.column = b.column ∨
      c.column = b.column ∧ d.column = a.column) : spanning c d = spanning a b := by
  obtain ⟨⟨top, bottom⟩, left, right⟩ := toNat_spanning a b
  obtain ⟨⟨top', bottom'⟩, left', right'⟩ := toNat_spanning c d
  have sameRows : min c.row.toNat d.row.toNat = min a.row.toNat b.row.toNat ∧
      max c.row.toNat d.row.toNat = max a.row.toNat b.row.toNat := by
    rcases rows with ⟨hc, hd⟩ | ⟨hc, hd⟩ <;> rw [hc, hd]
    · exact ⟨rfl, rfl⟩
    · exact ⟨Nat.min_comm _ _, Nat.max_comm _ _⟩
  have sameColumns : min c.column.toNat d.column.toNat = min a.column.toNat b.column.toNat ∧
      max c.column.toNat d.column.toNat = max a.column.toNat b.column.toNat := by
    rcases columns with ⟨hc, hd⟩ | ⟨hc, hd⟩ <;> rw [hc, hd]
    · exact ⟨rfl, rfl⟩
    · exact ⟨Nat.min_comm _ _, Nat.max_comm _ _⟩
  apply ext_toNat
  · rw [top, top', sameRows.1]
  · rw [left, left', sameColumns.1]
  · rw [bottom, bottom', sameRows.2]
  · rw [right, right', sameColumns.2]

theorem mem_intersect? {a b : Rect} {place : Position} :
    (∃ common ∈ a.intersect? b, place ∈ common) ↔ place ∈ a ∧ place ∈ b := by
  have both : place ∈ a.rows.flatten.filter (· ∈ b) ↔ place ∈ a ∧ place ∈ b := by
    rw [List.mem_filter, mem_flatten_rows, decide_eq_true_iff]
  rw [← both, ← flatten_rows_intersect?]
  cases a.intersect? b with
  | none => simp
  | some common =>
    rw [mem_flatten_rows]
    simp

end Rect

namespace Sheet

/-! ## The rectangle of a block -/

/-- The rectangle that a block is cut down to. -/
def overlap? (sheet : Sheet) (a b : Position) : Option Rect :=
  sheet.used?.bind (Rect.spanning a b).intersect?

section Overlap

variable {sheet : Sheet} {a b place : Position}

theorem mem_overlap? :
    (∃ rect ∈ sheet.overlap? a b, place ∈ rect) ↔ place ∈ a.between b ∩ sheet.area := by
  rw [Set.mem_inter_iff, ← Rect.mem_spanning, mem_area_iff, overlap?]
  cases sheet.used? with
  | none => simp
  | some used =>
    rw [Option.bind_some, Rect.mem_intersect?]
    simp

theorem overlap?_eq_none_iff :
    sheet.overlap? a b = none ↔ a.between b ∩ sheet.area = ∅ := by
  rw [Set.eq_empty_iff_forall_notMem]
  constructor
  · intro none place inside
    obtain ⟨rect, isRect, -⟩ := mem_overlap?.2 inside
    rw [none] at isRect
    cases isRect
  · intro empty
    cases overlap : sheet.overlap? a b with
    | none => rfl
    | some rect => exact absurd (mem_overlap?.1 ⟨rect, overlap, rect.topLeft_mem⟩) (empty _)

theorem mem_of_overlap? {rect : Rect} (overlap : sheet.overlap? a b = some rect) :
    place ∈ rect ↔ place ∈ a.between b ∩ sheet.area := by
  rw [← mem_overlap?, overlap]
  simp

/-- What is in use starts at the first cell of the grid, so a block starts where it was asked for. -/
theorem topLeft_overlap? {rect : Rect} (overlap : sheet.overlap? a b = some rect) :
    rect.top.toNat = min a.row.toNat b.row.toNat ∧
      rect.left.toNat = min a.column.toNat b.column.toNat := by
  obtain ⟨⟨⟨above, -⟩, before, -⟩, ⟨low, stored, further⟩, left, stored', further'⟩ :=
    (mem_of_overlap? overlap).1 rect.topLeft_mem
  have corner : (⟨min a.row b.row, min a.column b.column⟩ : Position) ∈ rect := by
    refine (mem_of_overlap? overlap).2 ⟨?_, ⟨low, stored, ?_⟩, left, stored', ?_⟩
    · simp only [Position.between, Set.mem_ofPred_eq, UInt32.toNat_min, UInt16.toNat_min]
      omega
    · rw [UInt32.le_iff_toNat_le] at further ⊢
      rw [UInt32.toNat_min]
      exact Nat.le_trans above further
    · rw [UInt16.le_iff_toNat_le] at further' ⊢
      rw [UInt16.toNat_min]
      exact Nat.le_trans before further'
  rw [Rect.mem_iff_toNat, UInt32.toNat_min, UInt16.toNat_min] at corner
  exact ⟨Nat.le_antisymm corner.1.1 above, Nat.le_antisymm corner.2.1 before⟩

/-- A block between two cells of the grid has as many cells as it is said to have. -/
theorem toNat_cellCount_overlap? {rect : Rect} (overlap : sheet.overlap? a b = some rect)
    (rows : a.row < maxRows ∧ b.row < maxRows)
    (columns : a.column < maxColumns ∧ b.column < maxColumns) :
    rect.cellCount.toNat = (a.between b ∩ sheet.area).ncard := by
  have cells : {place | place ∈ rect} = a.between b ∩ sheet.area :=
    Set.ext fun _ => mem_of_overlap? overlap
  obtain ⟨bottomRow, rightColumn⟩ :=
    Position.lt_of_between ((mem_of_overlap? overlap).1 rect.bottomRight_mem).1 rows columns
  rw [← cells, Rect.ncard_cells, Rect.toNat_cellCount bottomRow rightColumn]

end Overlap

/-! ## Blocks -/

/-- Rows that show the cells between two corners as far as they are in the area of a sheet, from the
top left corner on. -/
structure Shows (sheet : Sheet) (a b : Position) (rows : List (List Value)) : Prop where
  nil_iff : rows = [] ↔ a.between b ∩ sheet.area = ∅
  rectangular : ∃ width, ∀ row ∈ rows, row.length = width
  entry : ∀ (i : Nat) (hi : i < rows.length) (j : Nat) (hj : j < rows[i].length),
    ∃ place ∈ a.between b ∩ sheet.area,
      place.row.toNat = min a.row.toNat b.row.toNat + i ∧
        place.column.toNat = min a.column.toNat b.column.toNat + j ∧
          rows[i][j] = sheet.cells[place]?.getD .empty
  covers : ∀ place ∈ a.between b ∩ sheet.area,
    ∃ (i : Nat) (hi : i < rows.length) (j : Nat) (hj : j < rows[i].length),
      place.row.toNat = min a.row.toNat b.row.toNat + i ∧
        place.column.toNat = min a.column.toNat b.column.toNat + j ∧
          rows[i][j] = sheet.cells[place]?.getD .empty

theorem fills_rect (sheet : Sheet) (rect : Rect) :
    sheet.Fills ⟨rect.top, rect.left⟩ ⟨rect.bottom, rect.right⟩ (sheet.whole rect) := by
  have corners : Rect.spanning ⟨rect.top, rect.left⟩ ⟨rect.bottom, rect.right⟩ = rect := by
    cases rect
    simp [Rect.spanning, *]
  have fills := fills_whole sheet ⟨rect.top, rect.left⟩ ⟨rect.bottom, rect.right⟩
  rwa [corners] at fills

section Shows

variable {sheet : Sheet} {a b : Position}

theorem shows_nil (empty : a.between b ∩ sheet.area = ∅) : sheet.Shows a b [] where
  nil_iff := iff_of_true rfl empty
  rectangular := ⟨0, List.forall_mem_nil _⟩
  entry := nofun
  covers := by simp [empty]

theorem shows_whole {rect : Rect} (overlap : sheet.overlap? a b = some rect) :
    sheet.Shows a b (sheet.whole rect) := by
  obtain ⟨top, left⟩ := topLeft_overlap? overlap
  have mem : ∀ {place}, place ∈ rect ↔ place ∈ a.between b ∩ sheet.area := mem_of_overlap? overlap
  have rows := UInt32.le_iff_toNat_le.1 rect.top_le_bottom
  have columns := UInt16.le_iff_toNat_le.1 rect.left_le_right
  obtain ⟨height, width, cell⟩ := fills_rect sheet rect
  simp only [Nat.min_eq_left rows, Nat.max_eq_right rows, Nat.min_eq_left columns,
    Nat.max_eq_right columns] at height width cell
  have inRows : ∀ {i}, i < (sheet.whole rect).length ↔
      rect.top.toNat + i ≤ rect.bottom.toNat := by
    omega
  have inColumns : ∀ {i} (hi : i < (sheet.whole rect).length) {j},
      j < (sheet.whole rect)[i].length ↔ rect.left.toNat + j ≤ rect.right.toNat := by
    intro i hi j
    rw [width _ (List.getElem_mem hi)]
    omega
  refine ⟨iff_of_false ?_ ?_, ⟨_, width⟩, fun i hi j hj => ?_, fun place inside => ?_⟩
  · intro none
    rw [none] at height
    cases height
  · exact Set.nonempty_iff_ne_empty.1 ⟨_, mem.1 rect.topLeft_mem⟩
  · obtain ⟨place, inside, rowNumber, columnNumber⟩ :=
      Rect.exists_mem_offset (inRows.1 hi) ((inColumns hi).1 hj)
    rw [← top, ← left]
    exact ⟨place, mem.1 inside, rowNumber, columnNumber,
      cell i hi j hj place rowNumber columnNumber⟩
  · obtain ⟨⟨above, below⟩, before, after⟩ := Rect.mem_iff_toNat.1 (mem.2 inside)
    have row : place.row.toNat = rect.top.toNat + (place.row.toNat - rect.top.toNat) := by omega
    have column : place.column.toNat =
        rect.left.toNat + (place.column.toNat - rect.left.toNat) := by omega
    rw [← top, ← left]
    have hi := inRows.2 (row ▸ below)
    have hj := (inColumns hi).2 (column ▸ after)
    exact ⟨_, hi, _, hj, row, column, cell _ hi _ hj place row column⟩

end Shows

/-! ## References -/

section References

variable {sheet : Sheet} {start stop : Reference} {a b : Address}

theorem inGrid_of_address {ref : Reference} (h : ref.address = .ok a) : a.InGrid := by
  obtain ⟨kind, label⟩ := ref
  cases kind with
  | cell => exact (Address.exists_of_parse h).1
  | named => cases h

/-- A reference to a cell gives what is stored in the cell. -/
theorem value?_of_address {ref : Reference} (h : ref.address = .ok a) :
    sheet.value? ref = sheet.cells[a.position]? := by
  obtain ⟨kind, label⟩ := ref
  cases kind with
  | cell =>
    have noName : (⟨.cell, label⟩ : Reference).name? = none := rfl
    rw [value?, noName, h]
  | named => cases h

theorem block?_of_address (first : start.address = .ok a) (second : stop.address = .ok b) :
    sheet.block? start stop =
      match sheet.overlap? a.position b.position with
      | none => some []
      | some rect => if maxBlockCells < rect.cellCount then none else some (sheet.whole rect) := by
  have corners : Rect.between start stop = .ok (Rect.spanning a.position b.position) := by
    rw [Rect.between, first, second]
    rfl
  rw [block?, corners]
  rfl

theorem block?_of_no_address
    (h : (∀ a, start.address ≠ .ok a) ∨ ∀ b, stop.address ≠ .ok b) :
    sheet.block? start stop = none := by
  cases between : Rect.between start stop with
  | error fault => rw [block?, between]
  | ok rect =>
    obtain ⟨a, b, first, second, -⟩ := Rect.exists_of_between between
    exact (h.elim (fun none => none a first) fun none => none b second).elim

/-- A block between two cells is refused for its size alone, and else shows the cells between
them. -/
theorem block?_cases (sheet : Sheet) (first : start.address = .ok a) (second : stop.address = .ok b) :
    (sheet.block? start stop = none ∧
        maxBlockCells.toNat < (a.position.between b.position ∩ sheet.area).ncard) ∨
      ∃ rows, sheet.block? start stop = some rows ∧ sheet.Shows a.position b.position rows ∧
        (a.position.between b.position ∩ sheet.area).ncard ≤ maxBlockCells.toNat := by
  obtain ⟨firstRow, firstColumn⟩ := inGrid_of_address first
  obtain ⟨secondRow, secondColumn⟩ := inGrid_of_address second
  rw [block?_of_address first second]
  cases overlap : sheet.overlap? a.position b.position with
  | none =>
    have empty := overlap?_eq_none_iff.1 overlap
    exact .inr ⟨[], rfl, shows_nil empty, by rw [empty, Set.ncard_empty]; exact Nat.zero_le _⟩
  | some rect =>
    have count := toNat_cellCount_overlap? overlap ⟨firstRow, secondRow⟩
      ⟨firstColumn, secondColumn⟩
    simp only [← count]
    by_cases large : maxBlockCells < rect.cellCount
    · exact .inl ⟨if_pos large, UInt64.lt_iff_toNat_lt.1 large⟩
    · exact .inr ⟨sheet.whole rect, if_neg large, shows_whole overlap,
        Nat.not_lt.1 fun more => large (UInt64.lt_iff_toNat_lt.2 more)⟩

theorem block?_exchange {start' stop' : Reference} {a' b' : Address}
    (first : start.address = .ok a) (second : stop.address = .ok b)
    (first' : start'.address = .ok a') (second' : stop'.address = .ok b')
    (rows : a'.row = a.row ∧ b'.row = b.row ∨ a'.row = b.row ∧ b'.row = a.row)
    (columns : a'.column = a.column ∧ b'.column = b.column ∨
      a'.column = b.column ∧ b'.column = a.column) :
    sheet.block? start' stop' = sheet.block? start stop := by
  have corners : Rect.spanning a'.position b'.position = Rect.spanning a.position b.position :=
    Rect.spanning_exchange rows columns
  rw [block?_of_address first second, block?_of_address first' second', overlap?, overlap?, corners]

theorem block?_comm (sheet : Sheet) (start stop : Reference) :
    sheet.block? stop start = sheet.block? start stop := by
  cases first : start.address with
  | error fault =>
    have none : ∀ a, start.address ≠ .ok a := by simp [first]
    rw [block?_of_no_address (.inl none), block?_of_no_address (.inr none)]
  | ok a =>
    cases second : stop.address with
    | error fault =>
      have none : ∀ b, stop.address ≠ .ok b := by simp [second]
      rw [block?_of_no_address (.inl none), block?_of_no_address (.inr none)]
    | ok b => exact block?_exchange first second second first (.inr ⟨rfl, rfl⟩) (.inr ⟨rfl, rfl⟩)

theorem Shows.stored {a b place : Position} {rows : List (List Value)}
    (shown : sheet.Shows a b rows) (inside : place ∈ a.between b) {v : Value}
    (stored : sheet.cells[place]? = some v) :
    ∃ (i : Nat) (hi : i < rows.length) (j : Nat) (hj : j < rows[i].length),
      place.row.toNat = min a.row.toNat b.row.toNat + i ∧
        place.column.toNat = min a.column.toNat b.column.toNat + j ∧ rows[i][j] = v := by
  have mem : place ∈ sheet.cells := by
    rw [Std.HashMap.mem_iff_isSome_getElem?, stored]
    rfl
  obtain ⟨i, hi, j, hj, row, column, value⟩ :=
    shown.covers place ⟨inside, ⟨place, mem, UInt32.le_refl _⟩, place, mem, UInt16.le_refl _⟩
  rw [stored] at value
  exact ⟨i, hi, j, hj, row, column, value⟩

/-- A cell between two cells of the grid has a reference. -/
theorem exists_reference {place : Position} (first : a.InGrid) (second : b.InGrid)
    (inside : place ∈ a.position.between b.position) :
    ∃ ref c, Reference.address ref = .ok c ∧ c.position = place := by
  have inGrid : place.row < maxRows ∧ place.column < maxColumns :=
    Position.lt_of_between inside ⟨first.1, second.1⟩ ⟨first.2, second.2⟩
  let c : Address := ⟨place.row, place.column, false, false⟩
  exact ⟨⟨.cell, c.text⟩, c, Address.parse_text_eq_ok_iff.2 ⟨inGrid, rfl⟩, rfl⟩

end References

/-- A block is refused if one of its references is no cell of the grid, or if more than `2 ^ 22` cells
between them are in the area of the sheet. Else it shows these cells with what references to them
give: none in a sheet without cells, and each stored one at its place. It does not matter which
corners the references are. -/
theorem block_cells (sheet : Sheet) (start stop : Reference) :
    (sheet.block? start stop = none ↔
        (∀ a, start.address ≠ .ok a) ∨ (∀ b, stop.address ≠ .ok b) ∨
          ∃ a b, start.address = .ok a ∧ stop.address = .ok b ∧
            4194304 < (a.position.between b.position ∩ sheet.area).ncard) ∧
      (∀ a b rows, start.address = .ok a → stop.address = .ok b →
        sheet.block? start stop = some rows →
          sheet.Shows a.position b.position rows ∧ (sheet.cells.isEmpty → rows = []) ∧
            ∀ place ∈ a.position.between b.position,
              (∃ ref c, Reference.address ref = .ok c ∧ c.position = place) ∧
              (∀ ref c, Reference.address ref = .ok c → c.position = place →
                sheet.value? ref = sheet.cells[place]?) ∧
              ∀ v, sheet.cells[place]? = some v →
                ∃ (i : Nat) (hi : i < rows.length) (j : Nat) (hj : j < rows[i].length),
                  place.row.toNat = min a.row.toNat b.row.toNat + i ∧
                    place.column.toNat = min a.column.toNat b.column.toNat + j ∧
                      rows[i][j] = v) ∧
      sheet.block? stop start = sheet.block? start stop ∧
      ∀ start' stop' a b a' b', start.address = .ok a → stop.address = .ok b →
        Reference.address start' = .ok a' → Reference.address stop' = .ok b' →
          (a'.row = a.row ∧ b'.row = b.row ∨ a'.row = b.row ∧ b'.row = a.row) →
          (a'.column = a.column ∧ b'.column = b.column ∨
            a'.column = b.column ∧ b'.column = a.column) →
          sheet.block? start' stop' = sheet.block? start stop := by
  refine ⟨⟨fun refused => ?_, ?_⟩, fun a b rows first second block => ?_,
    block?_comm sheet start stop, fun _ _ _ _ _ _ => block?_exchange⟩
  · cases first : start.address with
    | error fault => exact .inl (by simp)
    | ok a =>
      cases second : stop.address with
      | error fault => exact .inr (.inl (by simp))
      | ok b =>
        obtain ⟨-, large⟩ | ⟨rows, block, -⟩ := block?_cases sheet first second
        · exact .inr (.inr ⟨a, b, rfl, rfl, large⟩)
        · rw [refused] at block
          cases block
  · rintro (noFirst | noSecond | ⟨a, b, first, second, large⟩)
    · exact block?_of_no_address (.inl noFirst)
    · exact block?_of_no_address (.inr noSecond)
    · obtain ⟨refused, -⟩ | ⟨rows, -, -, small⟩ := block?_cases sheet first second
      · exact refused
      · exact absurd large (Nat.not_lt.2 small)
  · obtain ⟨refused, -⟩ | ⟨_, same, shown, -⟩ := block?_cases sheet first second
    · rw [refused] at block
      cases block
    · obtain rfl := Option.some.inj (same.symm.trans block)
      refine ⟨shown, fun isEmpty => ?_, fun place inside => ⟨?_, ?_, ?_⟩⟩
      · rw [Std.HashMap.isEmpty_iff_forall_not_mem] at isEmpty
        refine shown.nil_iff.2 (Set.eq_empty_iff_forall_notMem.2 ?_)
        rintro place ⟨-, ⟨far, stored, -⟩, -⟩
        exact isEmpty far stored
      · exact exists_reference (inGrid_of_address first) (inGrid_of_address second) inside
      · rintro ref c address rfl
        exact value?_of_address address
      · exact fun v => shown.stored inside

end Sheet

end SheetFormula
