import SheetFormula.Decimal.Natural

/-!
# Grid addresses

An address names a cell by letters for its column and a number for its row, each with an optional
`$` in front: `B3`, `$c$7`. Columns are numbered in bijective base 26, from `A` to `XFD`; rows run
from 1 to 1048576. Inside, both count from zero.

* `Column.ofLetters`, `Column.letters`: a column's number and its letters.
* `Address.parse`, `Address.text`: an address and its text.
-/

namespace SheetFormula

/-- The number of rows of a grid. -/
def maxRows : UInt32 := 1048576

/-- The number of columns of a grid. -/
def maxColumns : UInt16 := 16384

/-- Why a text is no address. -/
inductive AddressError where
  | empty
  | noColumnLetters (text : String)
  | noLetters
  | badColumnLetter (letter : Char)
  | badRow (text : String)
  | zeroRow (text : String)
  | rowOutOfBounds (row : UInt32)
  | columnOutOfBounds (letters : String)
  /-- The label of a named reference, which has no place on the grid. -/
  | named (label : String)
  deriving DecidableEq, Repr

namespace AddressError

/-- What is wrong with the text of an address. -/
def message : AddressError → String
  | .empty => "Invalid cell address: empty address"
  | .noColumnLetters text => "Invalid cell address: no column letters in '" ++ text ++ "'"
  | .noLetters => "Invalid cell address: empty column letters"
  | .badColumnLetter letter =>
    "Invalid cell address: invalid column letter '" ++ letter.toString ++ "'"
  | .badRow text => "Invalid cell address: invalid row number in '" ++ text ++ "'"
  | .zeroRow text => "Invalid cell address: row number must be >= 1 in '" ++ text ++ "'"
  | .rowOutOfBounds row =>
    "Row index " ++ Nat.repr row.toNat ++ " out of bounds (max: " ++
      Nat.repr (maxRows - 1).toNat ++ ")"
  | .columnOutOfBounds letters =>
    "Column " ++ letters ++ " out of bounds (max index: " ++ Nat.repr (maxColumns - 1).toNat ++ ")"
  | .named label => "Named reference " ++ label ++ " has no grid address"

end AddressError

namespace Column

/-- The value of a letter as a digit: 1 for `A` to 26 for `Z`, in either case. -/
def digit (letter : Char) : Nat :=
  letter.toUpper.toNat - 'A'.toNat + 1

/-- Reads further letters of the column `letters` after those with the value `n`, up to the first
that is no letter or that passes the last column. -/
def readFrom (letters : String) (n : Nat) : List Char → Except AddressError Nat
  | [] => .ok n
  | c :: cs =>
    if !c.isAlpha then .error (.badColumnLetter c)
    else if maxColumns.toNat < n * 26 + digit c then .error (.columnOutOfBounds letters)
    else readFrom letters (n * 26 + digit c) cs

/-- The number of a column, from zero. -/
def ofLetters (letters : String) : Except AddressError UInt16 :=
  if letters.isEmpty then .error .noLetters
  else (readFrom letters 0 letters.toList).map fun n => (n - 1).toUInt16

/-- The letters of the `n`-th column, counted from one, in front of `suffix`. -/
def lettersBefore (suffix : List Char) (n : Nat) : List Char :=
  if n = 0 then suffix
  else lettersBefore (Char.ofNat ('A'.toNat + (n - 1) % 26) :: suffix) ((n - 1) / 26)
termination_by n
decreasing_by omega

/-- The letters of a column. -/
def letters (column : UInt16) : String :=
  String.ofList (lettersBefore [] (column.toNat + 1))

end Column

/-- A cell of the grid; a coordinate with a `$` in front is fixed. -/
structure Address where
  row : UInt32
  column : UInt16
  rowFixed : Bool
  columnFixed : Bool
  deriving DecidableEq, Repr

namespace Address

/-- Whether a text starts with `$`, and what follows it. -/
def splitDollar : List Char → Bool × List Char
  | '$' :: cs => (true, cs)
  | cs => (false, cs)

/-- The row, from zero, that the last part of the address `text` denotes. -/
def readRow (text : String) (ds : List Char) : Except AddressError UInt32 :=
  let n := Decimal.ofDigits ds
  if ds.isEmpty || !ds.all Char.isDigit || UInt32.size ≤ n then .error (.badRow text)
  else if n = 0 then .error (.zeroRow text)
  else if maxRows.toNat < n then .error (.rowOutOfBounds (n - 1).toUInt32)
  else .ok (n - 1).toUInt32

/-- The address that a text denotes, in any letter case. -/
def parse (text : String) : Except AddressError Address :=
  if text.isEmpty then
    .error .empty
  else
    let (columnFixed, cs) := splitDollar text.toList
    let letters := cs.takeWhile Char.isAlpha
    let (rowFixed, ds) := splitDollar (cs.dropWhile Char.isAlpha)
    if letters.isEmpty then
      .error (.noColumnLetters text)
    else do
      let column ← Column.ofLetters (String.ofList letters)
      let row ← readRow text ds
      return ⟨row, column, rowFixed, columnFixed⟩

/-- The text of an address, with upper-case letters. -/
def text (address : Address) : String :=
  (if address.columnFixed then "$" else "") ++ Column.letters address.column ++
    (if address.rowFixed then "$" else "") ++ Nat.repr (address.row + 1).toNat

end Address

end SheetFormula
