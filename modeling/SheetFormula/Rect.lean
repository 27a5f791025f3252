import SheetFormula.Reference

/-!
# Rectangles of cells

The rectangle that two cells span, whichever corners they are. Both ends of its rows and of its
columns belong to it, so it is never empty.
-/

namespace SheetFormula

/-- A cell of the grid by its row and column, from zero. -/
structure Position where
  row : UInt32
  column : UInt16
  deriving DecidableEq, Hashable, Repr

/-- The place that an address denotes. -/
def Address.position (address : Address) : Position :=
  ⟨address.row, address.column⟩

/-- The cells from a top left to a bottom right corner. -/
structure Rect where
  top : UInt32
  left : UInt16
  bottom : UInt32
  right : UInt16
  top_le_bottom : top ≤ bottom
  left_le_right : left ≤ right

namespace Rect

/-- A cell belongs to a rectangle if its row and its column lie between the corners. -/
instance : Membership Position Rect where
  mem rect cell :=
    (rect.top ≤ cell.row ∧ cell.row ≤ rect.bottom) ∧
      rect.left ≤ cell.column ∧ cell.column ≤ rect.right

/-- The rectangle with two cells as opposite corners. -/
def spanning (a b : Position) : Rect where
  top := if a.row ≤ b.row then a.row else b.row
  left := if a.column ≤ b.column then a.column else b.column
  bottom := if a.row ≤ b.row then b.row else a.row
  right := if a.column ≤ b.column then b.column else a.column
  top_le_bottom := by
    split
    · assumption
    · exact UInt32.le_of_lt (UInt32.not_le.1 ‹_›)
  left_le_right := by
    split
    · assumption
    · exact UInt16.le_of_lt (UInt16.not_le.1 ‹_›)

/-- The rectangle between two references to cells; of two faults the first reference's counts. -/
def between (start stop : Reference) : Except AddressError Rect := do
  let a ← start.address
  let b ← stop.address
  return spanning a.position b.position

/-- The number of rows. -/
def rowCount (rect : Rect) : UInt32 :=
  rect.bottom - rect.top + 1

/-- The number of columns. -/
def columnCount (rect : Rect) : UInt16 :=
  rect.right - rect.left + 1

/-- The number of cells. -/
def cellCount (rect : Rect) : UInt64 :=
  rect.rowCount.toUInt64 * rect.columnCount.toUInt64

/-- The rectangle of the common cells, if there are any. -/
def intersect? (a b : Rect) : Option Rect :=
  let top := max a.top b.top
  let left := max a.left b.left
  let bottom := min a.bottom b.bottom
  let right := min a.right b.right
  if h : top ≤ bottom ∧ left ≤ right then some ⟨top, left, bottom, right, h.1, h.2⟩ else none

/-- The cells row by row, from the top left corner. -/
def rows (rect : Rect) : List (List Position) :=
  (List.range' rect.top.toNat (rect.bottom.toNat + 1 - rect.top.toNat)).map fun row =>
    (List.range' rect.left.toNat (rect.right.toNat + 1 - rect.left.toNat)).map fun column =>
      ⟨row.toUInt32, column.toUInt16⟩

end Rect

end SheetFormula
