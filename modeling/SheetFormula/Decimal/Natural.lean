/-!
# Decimal digits of natural numbers

`ofDigits` reads a run of digits and `digitCount` tells how many digits a number has. `tenTo` and
`twoTo` are the powers of the bases of decimals and doubles.
-/

namespace SheetFormula.Decimal

/-- A power of ten. -/
def tenTo (n : Nat) : Nat :=
  Nat.pow 10 n

/-- A power of two. -/
def twoTo (n : Nat) : Nat :=
  Nat.pow 2 n

/-- The number that decimal digits denote. -/
def ofDigits (ds : List Char) : Nat :=
  ds.foldl (fun n d => 10 * n + (d.toNat - '0'.toNat)) 0

/-- The number of digits of `n` in decimal; zero has none. -/
def digitCount (n : Nat) : Nat :=
  if n = 0 then 0 else digitCount (n / 10) + 1

end SheetFormula.Decimal
