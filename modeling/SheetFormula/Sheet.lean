import Std.Data.HashMap
import SheetFormula.Rect
import SheetFormula.Value

/-!
# Sheets

A sheet keeps values by their place on the grid and named values by their name. It answers for
references to either, and for the blocks of cells between two references.

* `Sheet.value?`: what is stored behind a reference.
* `Sheet.block?`: the rows of a block, clipped to the part of the sheet that is in use.
-/

namespace SheetFormula

/-- The values of cells and names. -/
structure Sheet where
  cells : Std.HashMap Position Value := {}
  names : Std.HashMap String Value := {}
  deriving Inhabited

namespace Sheet

/-- The largest number of cells of a block. -/
def maxBlockCells : UInt64 := 4194304

/-- The sheet without values. -/
def empty : Sheet := {}

/-- The sheet with a value stored at an address. -/
def setCell (sheet : Sheet) (address : String) (v : Value) : Except AddressError Sheet := do
  let place ← Address.parse address
  return { sheet with cells := sheet.cells.insert place.position v }

/-- The value stored at an address, and the sheet without it. -/
def clearCell (sheet : Sheet) (address : String) : Except AddressError (Option Value × Sheet) := do
  let place ← Address.parse address
  return (sheet.cells[place.position]?,
    { sheet with cells := sheet.cells.erase place.position })

/-- The sheet with a value stored under a name. -/
def setNamed (sheet : Sheet) (name : String) (v : Value) : Sheet :=
  { sheet with names := sheet.names.insert name v }

/-- The number of cells with a stored value. -/
def cellCount (sheet : Sheet) : Nat :=
  sheet.cells.size

/-- The value stored behind a reference; the label of a cell that is no address has none. -/
def value? (sheet : Sheet) (reference : Reference) : Option Value :=
  match reference.name?, reference.address with
  | some name, _ => sheet.names[name]?
  | none, .ok address => sheet.cells[address.position]?
  | none, .error _ => none

/-- The value of a cell; one without a stored value is empty. -/
def cell (sheet : Sheet) (place : Position) : Value :=
  sheet.cells[place]?.getD .empty

/-- The furthest row and the furthest column of some places. -/
def furthest (places : List Position) : Position :=
  places.foldl (fun far place => ⟨max far.row place.row, max far.column place.column⟩) ⟨0, 0⟩

/-- The cells from the first of the grid to the furthest row and column with a stored value. -/
def used? (sheet : Sheet) : Option Rect :=
  if sheet.cells.isEmpty then none
  else some (Rect.spanning ⟨0, 0⟩ (furthest sheet.cells.keys))

/-- The rows of the block between two references, as far as the sheet is in use. There is no block
between references without an address, nor one of more than `maxBlockCells` cells. -/
def block? (sheet : Sheet) (start stop : Reference) : Option (List (List Value)) :=
  match Rect.between start stop with
  | .error _ => none
  | .ok requested =>
    match sheet.used?.bind requested.intersect? with
    | none => some []
    | some rect =>
      if maxBlockCells < rect.cellCount then none
      else some (rect.rows.map (·.map sheet.cell))

end Sheet

/-! ## Shared sheets -/

/-- A handle of a sheet in a workbook. Copies of a handle stand for the same sheet. -/
structure SheetId where
  index : Nat
  deriving DecidableEq, Repr

/-- The sheets behind handles. -/
structure Workbook where
  sheets : Array Sheet := #[]
  deriving Inhabited

namespace Workbook

/-- A handle of a new sheet without values, and the workbook with it. -/
def create (book : Workbook) : SheetId × Workbook :=
  (⟨book.sheets.size⟩, ⟨book.sheets.push .empty⟩)

/-- The sheet behind a handle. -/
def sheet (book : Workbook) (id : SheetId) : Sheet :=
  book.sheets[id.index]?.getD .empty

/-- The workbook with another sheet behind a handle. -/
def set (book : Workbook) (id : SheetId) (sheet : Sheet) : Workbook :=
  ⟨book.sheets.setIfInBounds id.index sheet⟩

end Workbook

end SheetFormula
