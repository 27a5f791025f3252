import Mathlib
import SheetFormula.Builtin
import SheetFormula.Sheet

/-!
# Clipped blocks

A block is clipped to the part of a sheet that is in use. Aggregates do not see this: what they take
from an array are its leaves in order, and empty leaves give them nothing (`Value.stored`).

* `Rect.flatten_rows_intersect?`: the common cells of two rectangles are those of the one that lie
  in the other, in the same order.
* `Sheet.stored_clipped`: a clipped block and the whole one have the same leaves but for empty ones.
* `Sheet.apply_block`: so aggregates give the same for both, whatever their other arguments.
-/

namespace SheetFormula

/-! ## Leaves that are not empty -/

theorem flatMap_filter_of_nil {α β : Type} {p : α → Bool} {f : α → List β} {l : List α}
    (h : ∀ a ∈ l, p a = false → f a = []) : (l.filter p).flatMap f = l.flatMap f := by
  induction l with
  | nil => rfl
  | cons a l ih =>
    obtain ⟨first, others⟩ := List.forall_mem_cons.1 h
    rw [List.flatMap_cons, ← ih others]
    cases kept : p a with
    | true => rw [List.filter_cons_of_pos kept, List.flatMap_cons]
    | false => rw [List.filter_cons_of_neg (by simp [kept]), first kept, List.nil_append]

namespace Value

/-- The leaves of a value that are not empty, in order. -/
def stored (v : Value) : List Value :=
  v.leaves.filter fun leaf => !leaf.isEmpty

theorem eq_empty_of_isEmpty {v : Value} (h : (!v.isEmpty) = false) : v = .empty := by
  cases v with
  | empty => rfl
  | null | boolean | number | string | array => cases h

theorem flatMap_stored {α : Type} {f : Value → List α} (h : f .empty = []) (v : Value) :
    v.stored.flatMap f = v.leaves.flatMap f :=
  flatMap_filter_of_nil fun _ _ hleaf => eq_empty_of_isEmpty hleaf ▸ h

theorem stored_array (items : List Value) : (array items).stored = items.flatMap stored := by
  rw [stored, leaves, leavesOf_eq_flatMap, List.filter_flatMap]
  rfl

theorem stored_block (rows : List (List Value)) :
    (block rows).stored = rows.flatten.flatMap stored := by
  rw [block, stored_array, List.flatMap_map, List.flatMap_def, List.flatMap_def, List.map_flatten,
    List.flatten_flatten, List.map_map]
  refine congrArg List.flatten (List.map_congr_left fun row _ => ?_)
  rw [stored_array, List.flatMap_def]
  rfl

end Value

/-! ## What arrays contribute -/

namespace Builtin

theorem countOf_of_isArray {v : Value} (h : v.isArray) :
    Aggregate.countOf v = (v.leaves.filterMap Argument.leafNumber?).length := by
  cases v with
  | array items => rfl
  | empty | null | boolean | number | string => cases h

/-- Two arrays with the same leaves but for empty ones. -/
structure Alike (v w : Value) : Prop where
  left : v.isArray
  right : w.isArray
  stored : v.stored = w.stored

namespace Alike

variable {v w : Value}

/-- What empty leaves have no part in is the same for both arrays. -/
theorem flatMap (h : Alike v w) {α : Type} {f : Value → List α} (none : f .empty = []) :
    v.leaves.flatMap f = w.leaves.flatMap f := by
  rw [← Value.flatMap_stored none, ← Value.flatMap_stored none, h.stored]

theorem filterMap (h : Alike v w) {α : Type} {f : Value → Option α} (none : f .empty = none) :
    v.leaves.filterMap f = w.leaves.filterMap f := by
  rw [List.filterMap_eq_flatMap_toList, List.filterMap_eq_flatMap_toList]
  exact h.flatMap (by rw [none, Option.toList_none])

theorem numbersOf (h : Alike v w) : Argument.numbersOf v = Argument.numbersOf w := by
  rw [Argument.numbersOf, Argument.numbersOf, if_pos h.left, if_pos h.right, h.filterMap rfl]

theorem truthsOf (h : Alike v w) : Argument.truthsOf v = Argument.truthsOf w := by
  rw [Argument.truthsOf, Argument.truthsOf, if_pos h.left, if_pos h.right, h.filterMap rfl]

theorem countOf (h : Alike v w) : Aggregate.countOf v = Aggregate.countOf w := by
  rw [countOf_of_isArray h.left, countOf_of_isArray h.right, h.filterMap rfl]

theorem join_text (h : Alike v w) :
    String.join (v.leaves.map Value.text) = String.join (w.leaves.map Value.text) := by
  rw [← String.toList_inj, String.toList_join, String.toList_join, List.flatMap_map,
    List.flatMap_map]
  exact h.flatMap rfl

end Alike

/-! ## Aggregates -/

/-- The functions that take in all leaves of arrays. -/
def aggregates : List Builtin :=
  [.sum, .product, .average, .min, .max, .count, .and, .or, .xor, .concatenate]

/-- What an aggregate gives depends on what it collects. -/
theorem apply_eq {args args' : List Value}
    (numbers : Argument.numbers args = Argument.numbers args')
    (truths : Argument.truths args = Argument.truths args')
    (count : Aggregate.countAll args = Aggregate.countAll args')
    (text : Aggregate.concatenate args = Aggregate.concatenate args') {f : Builtin}
    (aggregate : f ∈ aggregates) : f.apply args = f.apply args' := by
  simp only [aggregates, List.mem_cons, List.not_mem_nil, or_false] at aggregate
  rcases aggregate with rfl | rfl | rfl | rfl | rfl | rfl | rfl | rfl | rfl | rfl
  · simp only [apply, Aggregate.sum, numbers]
  · simp only [apply, Aggregate.product, numbers]
  · simp only [apply, Aggregate.average, numbers]
  · simp only [apply, Aggregate.minimum, numbers]
  · simp only [apply, Aggregate.maximum, numbers]
  · simp only [apply, Aggregate.count, count]
  · simp only [apply, Aggregate.and, truths]
  · simp only [apply, Aggregate.or, truths]
  · simp only [apply, Aggregate.xor, truths]
  · exact text

section Aggregates

variable {v w : Value} (before after : List Value)

theorem numbers_congr (h : Alike v w) :
    Argument.numbers (before ++ v :: after) = Argument.numbers (before ++ w :: after) := by
  rw [Argument.numbers, Argument.numbers, List.mapM_append, List.mapM_append, List.mapM_cons,
    List.mapM_cons, h.numbersOf]

theorem truths_congr (h : Alike v w) :
    Argument.truths (before ++ v :: after) = Argument.truths (before ++ w :: after) := by
  rw [Argument.truths, Argument.truths, List.mapM_append, List.mapM_append, List.mapM_cons,
    List.mapM_cons, h.truthsOf]

theorem countAll_congr (h : Alike v w) :
    Aggregate.countAll (before ++ v :: after) = Aggregate.countAll (before ++ w :: after) := by
  induction before with
  | nil => rw [List.nil_append, List.nil_append, Aggregate.countAll, Aggregate.countAll, h.countOf]
  | cons u before ih =>
    rw [List.cons_append, List.cons_append, Aggregate.countAll, Aggregate.countAll, ih]

theorem concatenate_congr (h : Alike v w) :
    Aggregate.concatenate (before ++ v :: after) =
      Aggregate.concatenate (before ++ w :: after) := by
  simp only [Aggregate.concatenate, Value.leavesOf_eq_flatMap, List.flatMap_append,
    List.flatMap_cons, List.map_append, String.join_append, h.join_text]

/-- Aggregates take the same from two arrays with the same leaves but for empty ones. -/
theorem apply_congr (h : Alike v w) {f : Builtin} (aggregate : f ∈ aggregates) :
    f.apply (before ++ v :: after) = f.apply (before ++ w :: after) :=
  apply_eq (numbers_congr before after h) (truths_congr before after h)
    (countAll_congr before after h) (concatenate_congr before after h) aggregate

theorem call_congr (h : Alike v w) {f : Builtin} (aggregate : f ∈ aggregates) :
    f.call (before ++ v :: after) = f.call (before ++ w :: after) := by
  have length : (before ++ v :: after).length = (before ++ w :: after).length := by
    simp only [List.length_append, List.length_cons]
  rw [call, call, length, apply_congr before after h aggregate]

end Aggregates

end Builtin

/-! ## Common cells of rectangles -/

theorem filter_range' (low high start count : Nat) :
    (List.range' start count).filter (fun i => low ≤ i && i ≤ high) =
      List.range' (max start low) (min (start + count) (high + 1) - max start low) := by
  induction count generalizing start with
  | zero =>
    have none : min (start + 0) (high + 1) - max start low = 0 := by omega
    rw [none]
    rfl
  | succ count ih =>
    rw [List.range'_succ]
    by_cases inside : low ≤ start ∧ start ≤ high
    · have first : max start low = start ∧ max (start + 1) low = start + 1 := by omega
      have size : min (start + (count + 1)) (high + 1) - start =
          min (start + 1 + count) (high + 1) - (start + 1) + 1 := by omega
      rw [List.filter_cons_of_pos (by simpa using inside), ih, first.1, first.2, size,
        List.range'_succ]
    · rw [List.filter_cons_of_neg (by simpa using inside), ih]
      by_cases before : start < low
      · have first : max (start + 1) low = max start low := by omega
        rw [first, Nat.add_right_comm, Nat.add_assoc]
      · have none : min (start + 1 + count) (high + 1) - max (start + 1) low = 0 ∧
            min (start + (count + 1)) (high + 1) - max start low = 0 := by omega
        rw [none.1, none.2]
        rfl

namespace Rect

instance (place : Position) (rect : Rect) : Decidable (place ∈ rect) :=
  inferInstanceAs (Decidable ((_ ∧ _) ∧ _ ∧ _))

/-- The cells of the rows from `top` to `bottom` and the columns from `left` to `right`, row by
row. -/
def cellsFrom (top left bottom right : Nat) : List Position :=
  (List.range' top (bottom + 1 - top)).flatMap fun row =>
    (List.range' left (right + 1 - left)).map fun column => ⟨row.toUInt32, column.toUInt16⟩

theorem flatten_rows (rect : Rect) :
    rect.rows.flatten =
      cellsFrom rect.top.toNat rect.left.toNat rect.bottom.toNat rect.right.toNat :=
  List.flatMap_def.symm

theorem cellsFrom_of_lt {top left bottom right : Nat} (h : bottom < top ∨ right < left) :
    cellsFrom top left bottom right = [] := by
  rw [cellsFrom, List.flatMap_eq_nil_iff]
  intro row hrow
  rw [List.mem_range'_1] at hrow
  rw [List.map_eq_nil_iff, List.range'_eq_nil_iff]
  omega

theorem mem_iff_toNat {place : Position} {rect : Rect} :
    place ∈ rect ↔ (rect.top.toNat ≤ place.row.toNat ∧ place.row.toNat ≤ rect.bottom.toNat) ∧
      rect.left.toNat ≤ place.column.toNat ∧ place.column.toNat ≤ rect.right.toNat := by
  simp only [← UInt32.le_iff_toNat_le, ← UInt16.le_iff_toNat_le]
  rfl

/-- The cells that lie in a rectangle are those between the inner borders. -/
theorem filter_cellsFrom {top left bottom right : Nat} (rows : bottom < UInt32.size)
    (columns : right < UInt16.size) (rect : Rect) :
    (cellsFrom top left bottom right).filter (· ∈ rect) =
      cellsFrom (max top rect.top.toNat) (max left rect.left.toNat) (min bottom rect.bottom.toNat)
        (min right rect.right.toNat) := by
  have inRect : ∀ row ∈ List.range' top (bottom + 1 - top),
      ∀ column ∈ List.range' left (right + 1 - left),
      decide ((⟨row.toUInt32, column.toUInt16⟩ : Position) ∈ rect) =
        ((rect.top.toNat ≤ row && row ≤ rect.bottom.toNat) &&
          (rect.left.toNat ≤ column && column ≤ rect.right.toNat)) := by
    intro row hrow column hcolumn
    rw [List.mem_range'_1] at hrow hcolumn
    have rowNumber : row.toUInt32.toNat = row := UInt32.toNat_ofNat_of_lt (by omega)
    have columnNumber : column.toUInt16.toNat = column := UInt16.toNat_ofNat_of_lt (by omega)
    simp only [mem_iff_toNat, rowNumber, columnNumber, Bool.decide_and]
  have rowCount : min (top + (bottom + 1 - top)) (rect.bottom.toNat + 1) - max top rect.top.toNat =
      min bottom rect.bottom.toNat + 1 - max top rect.top.toNat := by omega
  have columnCount :
      min (left + (right + 1 - left)) (rect.right.toNat + 1) - max left rect.left.toNat =
        min right rect.right.toNat + 1 - max left rect.left.toNat := by omega
  -- A row outside the rectangle keeps no cell, the others those of the columns inside.
  rw [cellsFrom, List.filter_flatMap, ← flatMap_filter_of_nil
    (p := fun row => rect.top.toNat ≤ row && row ≤ rect.bottom.toNat), cellsFrom, ← rowCount,
    ← columnCount, ← filter_range', ← filter_range']
  · refine List.flatMap_congr fun row hrow => ?_
    obtain ⟨hrow, inside⟩ := List.mem_filter.1 hrow
    rw [List.filter_map]
    refine congrArg _ (List.filter_congr fun column hcolumn => ?_)
    rw [Function.comp_apply, inRect row hrow column hcolumn, inside, Bool.true_and]
  · intro row hrow outside
    rw [List.filter_eq_nil_iff]
    rintro _ hplace inside
    obtain ⟨column, hcolumn, rfl⟩ := List.mem_map.1 hplace
    rw [inRect row hrow column hcolumn, outside, Bool.false_and] at inside
    cases inside

/-- The common cells of two rectangles are those of the one that lie in the other, in the same
order. -/
theorem flatten_rows_intersect? (a b : Rect) :
    (match a.intersect? b with
      | some rect => rect.rows.flatten
      | none => []) = a.rows.flatten.filter (· ∈ b) := by
  rw [flatten_rows, filter_cellsFrom (UInt32.toNat_lt_size _) (UInt16.toNat_lt_size _),
    ← UInt32.toNat_max, ← UInt32.toNat_min, ← UInt16.toNat_max, ← UInt16.toNat_min]
  by_cases common :
      max a.top b.top ≤ min a.bottom b.bottom ∧ max a.left b.left ≤ min a.right b.right
  · rw [intersect?, dif_pos common]
    exact flatten_rows _
  · rw [intersect?, dif_neg common, cellsFrom_of_lt]
    rw [not_and_or, UInt32.not_le, UInt16.not_le] at common
    exact common.imp UInt32.lt_iff_toNat_lt.1 UInt16.lt_iff_toNat_lt.1

end Rect

/-! ## Sheets -/

namespace Rect

theorem toNat_spanning (a b : Position) :
    ((spanning a b).top.toNat = min a.row.toNat b.row.toNat ∧
        (spanning a b).bottom.toNat = max a.row.toNat b.row.toNat) ∧
      (spanning a b).left.toNat = min a.column.toNat b.column.toNat ∧
        (spanning a b).right.toNat = max a.column.toNat b.column.toNat := by
  simp only [spanning, apply_ite UInt32.toNat, apply_ite UInt16.toNat, UInt32.le_iff_toNat_le,
    UInt16.le_iff_toNat_le, Nat.min_def, Nat.max_def, and_self]

theorem exists_of_between {start stop : Reference} {rect : Rect}
    (h : between start stop = .ok rect) :
    ∃ a b, start.address = .ok a ∧ stop.address = .ok b ∧
      rect = spanning a.position b.position := by
  rw [between] at h
  cases first : start.address with
  | error fault =>
    rw [first] at h
    cases h
  | ok a =>
    cases second : stop.address with
    | error fault =>
      rw [first, second] at h
      cases h
    | ok b =>
      rw [first, second] at h
      cases h
      exact ⟨a, b, rfl, rfl, rfl⟩

end Rect

namespace Sheet

/-- The cells up to the furthest row and up to the furthest column with a stored value. -/
def area (sheet : Sheet) : Set Position :=
  {place | (∃ far ∈ sheet.cells, place.row ≤ far.row) ∧
      ∃ far ∈ sheet.cells, place.column ≤ far.column}

theorem le_foldl_furthest_iff (places : List Position) (start : Position) (n : Nat) :
    let far := places.foldl (fun far place => ⟨max far.row place.row, max far.column place.column⟩)
      start
    (n ≤ far.row.toNat ↔ ∃ place ∈ start :: places, n ≤ place.row.toNat) ∧
      (n ≤ far.column.toNat ↔ ∃ place ∈ start :: places, n ≤ place.column.toNat) := by
  induction places generalizing start with
  | nil => simp
  | cons first places ih =>
    have further := ih ⟨max start.row first.row, max start.column first.column⟩
    simp only [List.exists_mem_cons_iff, UInt32.toNat_max, UInt16.toNat_max, le_max_iff,
      or_assoc, List.foldl_cons] at further ⊢
    exact further

theorem mem_spanning_furthest {places : List Position} (nonempty : places ≠ []) {place : Position} :
    place ∈ Rect.spanning ⟨0, 0⟩ (furthest places) ↔
      (∃ far ∈ places, place.row ≤ far.row) ∧ ∃ far ∈ places, place.column ≤ far.column := by
  obtain ⟨first, others, rfl⟩ := List.exists_cons_of_ne_nil nonempty
  obtain ⟨⟨top, bottom⟩, left, right⟩ := Rect.toNat_spanning ⟨0, 0⟩ (furthest (first :: others))
  have row := (le_foldl_furthest_iff (first :: others) ⟨0, 0⟩ place.row.toNat).1
  have column := (le_foldl_furthest_iff (first :: others) ⟨0, 0⟩ place.column.toNat).2
  -- The start adds nothing, since a place is not before it.
  have start : ∀ n m : Nat, ∀ p : Prop, (n ≤ 0 ∨ n ≤ m ∨ p) ↔ n ≤ m ∨ p := by
    intro n m p
    refine ⟨fun h => h.elim (fun zero => .inl ?_) id, .inr⟩
    omega
  rw [List.exists_mem_cons_iff, List.exists_mem_cons_iff] at row column
  have row := row.trans (start _ _ _)
  have column := column.trans (start _ _ _)
  simp only [UInt32.le_iff_toNat_le, UInt16.le_iff_toNat_le, List.exists_mem_cons_iff]
  rw [← row, ← column, Rect.mem_iff_toNat, top, bottom, left, right]
  simp [furthest]

/-- A sheet is in use from the first cell of the grid to the last of its area. -/
theorem mem_area_iff {sheet : Sheet} {place : Position} :
    place ∈ sheet.area ↔ ∃ used ∈ sheet.used?, place ∈ used := by
  rw [used?]
  split
  · rename_i isEmpty
    rw [Std.HashMap.isEmpty_iff_forall_not_mem] at isEmpty
    refine iff_of_false ?_ nofun
    rintro ⟨⟨far, stored, -⟩, -⟩
    exact isEmpty far stored
  · rename_i notEmpty
    have nonempty : sheet.cells.keys ≠ [] := by
      rw [ne_eq, ← List.isEmpty_iff, Std.HashMap.isEmpty_keys]
      exact notEmpty
    have inside : place ∈ Rect.spanning ⟨0, 0⟩ (furthest sheet.cells.keys) ↔ place ∈ sheet.area := by
      rw [mem_spanning_furthest nonempty]
      simp only [Std.HashMap.mem_keys]
      rfl
    rw [← inside]
    simp

/-- A cell with a stored value lies in the part of the sheet that is in use. -/
theorem exists_used_of_getElem? {sheet : Sheet} {place : Position} {v : Value}
    (h : sheet.cells[place]? = some v) : ∃ used, sheet.used? = some used ∧ place ∈ used := by
  have mem : place ∈ sheet.cells := by
    rw [Std.HashMap.mem_iff_isSome_getElem?, h]
    rfl
  exact mem_area_iff.1 ⟨⟨place, mem, UInt32.le_refl _⟩, place, mem, UInt16.le_refl _⟩

theorem cell_of_not_used {sheet : Sheet} {place : Position}
    (h : ∀ used ∈ sheet.used?, place ∉ used) : sheet.cell place = .empty := by
  rw [cell]
  cases stored : sheet.cells[place]? with
  | none => rfl
  | some v =>
    obtain ⟨used, isUsed, inside⟩ := exists_used_of_getElem? stored
    exact absurd inside (h used isUsed)

/-- The values of all cells of a rectangle. -/
def whole (sheet : Sheet) (rect : Rect) : List (List Value) :=
  rect.rows.map (·.map sheet.cell)

theorem flatten_whole (sheet : Sheet) (rect : Rect) :
    (sheet.whole rect).flatten = rect.rows.flatten.map sheet.cell :=
  List.map_flatten.symm

/-- A block is cut out by the part of the sheet that is in use. -/
theorem exists_of_block? {sheet : Sheet} {start stop : Reference} {rows : List (List Value)}
    (h : sheet.block? start stop = some rows) :
    ∃ a b, start.address = .ok a ∧ stop.address = .ok b ∧
      rows = ((sheet.used?.bind (Rect.spanning a.position b.position).intersect?).map
        sheet.whole).getD [] := by
  rw [block?] at h
  cases requested : Rect.between start stop with
  | error fault =>
    rw [requested] at h
    cases h
  | ok rect =>
    obtain ⟨a, b, first, second, rfl⟩ := Rect.exists_of_between requested
    refine ⟨a, b, first, second, ?_⟩
    simp only [requested] at h
    cases common : sheet.used?.bind (Rect.spanning a.position b.position).intersect? with
    | none =>
      rw [common] at h
      exact (Option.some.inj h).symm
    | some rect =>
      rw [common] at h
      obtain ⟨-, cut⟩ := Option.ite_none_left_eq_some.1 h
      exact (Option.some.inj cut).symm

/-- A clipped block and the whole one have the same leaves but for empty ones. -/
theorem stored_clipped (sheet : Sheet) (rect : Rect) :
    (Value.block (((sheet.used?.bind rect.intersect?).map sheet.whole).getD [])).stored =
      (Value.block (sheet.whole rect)).stored := by
  have cells : (((sheet.used?.bind rect.intersect?).map sheet.whole).getD []).flatten =
      (match sheet.used?.bind rect.intersect? with
        | some common => common.rows.flatten
        | none => []).map sheet.cell := by
    cases sheet.used?.bind rect.intersect? with
    | none => rfl
    | some common => exact flatten_whole sheet common
  rw [Value.stored_block, Value.stored_block, cells, flatten_whole, List.flatMap_map,
    List.flatMap_map]
  have outside : ∀ place, (∀ used ∈ sheet.used?, place ∉ used) →
      (sheet.cell place).stored = [] := by
    intro place h
    rw [cell_of_not_used h]
    rfl
  cases used : sheet.used? with
  | none =>
    rw [used] at outside
    exact (List.flatMap_eq_nil_iff.2 fun place _ => outside place nofun).symm
  | some area =>
    rw [used] at outside
    rw [Option.bind_some, Rect.flatten_rows_intersect?]
    refine flatMap_filter_of_nil fun place _ h => outside place ?_
    rintro _ ⟨⟩
    exact of_decide_eq_false h

/-! ## Whole blocks -/

/-- The rows of the block between two corners, whichever corners they are: as many rows and columns
as from one to the other, with the stored values in place and empty elsewhere. -/
structure Fills (sheet : Sheet) (a b : Position) (rows : List (List Value)) : Prop where
  height : rows.length = max a.row.toNat b.row.toNat - min a.row.toNat b.row.toNat + 1
  width : ∀ row ∈ rows,
    row.length = max a.column.toNat b.column.toNat - min a.column.toNat b.column.toNat + 1
  cell : ∀ (i : Nat) (hi : i < rows.length) (j : Nat) (hj : j < rows[i].length) (place : Position),
    place.row.toNat = min a.row.toNat b.row.toNat + i →
      place.column.toNat = min a.column.toNat b.column.toNat + j →
        rows[i][j] = sheet.cells[place]?.getD .empty

theorem whole_eq (sheet : Sheet) (rect : Rect) :
    sheet.whole rect =
      (List.range' rect.top.toNat (rect.bottom.toNat + 1 - rect.top.toNat)).map fun row =>
        (List.range' rect.left.toNat (rect.right.toNat + 1 - rect.left.toNat)).map fun column =>
          sheet.cell ⟨row.toUInt32, column.toUInt16⟩ := by
  rw [whole, Rect.rows, List.map_map]
  exact List.map_congr_left fun row _ => List.map_map

theorem fills_whole (sheet : Sheet) (a b : Position) :
    sheet.Fills a b (sheet.whole (Rect.spanning a b)) := by
  obtain ⟨⟨top, bottom⟩, left, right⟩ := Rect.toNat_spanning a b
  rw [whole_eq, top, bottom, left, right]
  refine ⟨?_, fun row mem => ?_, fun i hi j hj place row column => ?_⟩
  · rw [List.length_map, List.length_range']
    omega
  · obtain ⟨_, -, rfl⟩ := List.mem_map.1 mem
    rw [List.length_map, List.length_range']
    omega
  · simp only [List.getElem_map, List.getElem_range', Nat.one_mul, ← row, ← column]
    simp only [Nat.toUInt32, Nat.toUInt16, UInt32.ofNat_toNat, UInt16.ofNat_toNat]
    rfl

theorem fills_iff {sheet : Sheet} {a b : Position} {rows : List (List Value)} :
    sheet.Fills a b rows ↔ rows = sheet.whole (Rect.spanning a b) := by
  refine ⟨fun h => ?_, fun h => h ▸ fills_whole sheet a b⟩
  have whole := fills_whole sheet a b
  refine List.ext_getElem (h.height.trans whole.height.symm) fun i hi hi' => ?_
  have width : (rows[i]).length = _ := h.width _ (List.getElem_mem hi)
  refine List.ext_getElem (width.trans (whole.width _ (List.getElem_mem hi')).symm)
    fun j hj hj' => ?_
  have row : (min a.row.toNat b.row.toNat + i).toUInt32.toNat =
      min a.row.toNat b.row.toNat + i := by
    have := h.height
    have := a.row.toNat_lt_size
    have := b.row.toNat_lt_size
    exact UInt32.toNat_ofNat_of_lt (by omega)
  have column : (min a.column.toNat b.column.toNat + j).toUInt16.toNat =
      min a.column.toNat b.column.toNat + j := by
    have := a.column.toNat_lt_size
    have := b.column.toNat_lt_size
    exact UInt16.toNat_ofNat_of_lt (by omega)
  exact (h.cell i hi j hj ⟨_, _⟩ row column).trans (whole.cell i hi' j hj' ⟨_, _⟩ row column).symm

/-- An aggregate gives the same for the block that a sheet answers with as for the whole block
between the two corners, next to any other arguments. -/
theorem apply_block {sheet : Sheet} {start stop : Reference} {rows : List (List Value)}
    (h : sheet.block? start stop = some rows) :
    ∃ a b full, start.address = .ok a ∧ stop.address = .ok b ∧
      (∀ other, sheet.Fills a.position b.position other ↔ other = full) ∧
      ∀ f ∈ Builtin.aggregates, ∀ before after : List Value,
        f.call (before ++ .block rows :: after) = f.call (before ++ .block full :: after) ∧
          f.apply (before ++ .block rows :: after) = f.apply (before ++ .block full :: after) := by
  obtain ⟨a, b, first, second, rfl⟩ := exists_of_block? h
  refine ⟨a, b, _, first, second, fun _ => fills_iff, fun f aggregate before after => ?_⟩
  have alike : Builtin.Alike (.block _) (.block _) :=
    ⟨rfl, rfl, sheet.stored_clipped (Rect.spanning a.position b.position)⟩
  exact ⟨Builtin.call_congr before after alike aggregate,
    Builtin.apply_congr before after alike aggregate⟩

theorem keys_insert_empty (place : Position) (v : Value) :
    ((∅ : Std.HashMap Position Value).insert place v).keys = [place] := by
  have one : ((∅ : Std.HashMap Position Value).insert place v).keys.length = 1 := by
    simp [Std.HashMap.size_insert]
  obtain ⟨key, only⟩ := List.length_eq_one_iff.1 one
  have mem : place ∈ ((∅ : Std.HashMap Position Value).insert place v).keys := by
    simp
  rw [only, List.mem_singleton] at mem
  rw [only, mem]

/-- A sheet with one value in `B2` gives two rows and two columns of the block from `D9` to `A1`;
the whole block has nine rows of four cells. -/
theorem apply_block_corner :
    let sheet : Sheet := { cells := (∅ : Std.HashMap Position Value).insert ⟨1, 1⟩ (.number 5) }
    let rows : List (List Value) := [[.empty, .empty], [.empty, .number 5]]
    sheet.block? (.ofLabel "D9") (.ofLabel "$A1") = some rows ∧
      ∃ full, sheet.Fills ⟨8, 3⟩ ⟨0, 0⟩ full ∧ full.length = 9 ∧ (∀ row ∈ full, row.length = 4) ∧
        ∀ f ∈ Builtin.aggregates, ∀ before after : List Value,
          f.call (before ++ .block rows :: after) = f.call (before ++ .block full :: after) := by
  intro sheet rows
  have first : (Reference.ofLabel "D9").address = .ok ⟨8, 3, false, false⟩ := by cbv
  have second : (Reference.ofLabel "$A1").address = .ok ⟨0, 0, false, true⟩ := by cbv
  have used : sheet.used? = some (Rect.spanning ⟨0, 0⟩ ⟨1, 1⟩) := by
    rw [used?, keys_insert_empty, Std.HashMap.isEmpty_insert, if_neg Bool.false_ne_true]
    rfl
  have common : (Rect.spanning ⟨8, 3⟩ ⟨0, 0⟩).intersect? (Rect.spanning ⟨0, 0⟩ ⟨1, 1⟩) =
      some (Rect.spanning ⟨0, 0⟩ ⟨1, 1⟩) := rfl
  have size : ¬maxBlockCells < (Rect.spanning ⟨0, 0⟩ ⟨1, 1⟩).cellCount := by decide
  have cells : (Rect.spanning ⟨0, 0⟩ ⟨1, 1⟩).rows =
      [[⟨0, 0⟩, ⟨0, 1⟩], [⟨1, 0⟩, ⟨1, 1⟩]] := by decide
  have block : sheet.block? (.ofLabel "D9") (.ofLabel "$A1") = some rows := by
    have between : Rect.between (.ofLabel "D9") (.ofLabel "$A1") =
        .ok (Rect.spanning ⟨8, 3⟩ ⟨0, 0⟩) := by
      rw [Rect.between, first, second]
      rfl
    simp only [block?, between, used, Option.bind_some, common, if_neg size, cells]
    simp [cell, sheet, rows]
  obtain ⟨a, b, full, ha, hb, fills, same⟩ := apply_block block
  cases first.symm.trans ha
  cases second.symm.trans hb
  have whole := (fills full).2 rfl
  exact ⟨block, full, whole, whole.height, whole.width, fun f aggregate before after =>
    (same f aggregate before after).1⟩

end Sheet

end SheetFormula
