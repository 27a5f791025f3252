import SheetFormula.Decimal.Natural

/-!
# Rounding a quotient to a double

The double nearest to a positive quotient of natural numbers, of two equally near ones the one with
the even bit pattern. A quotient past the largest double becomes infinity.

Bit patterns of the positive doubles grow with their values, and the pattern of `m * 2 ^ q`, for
`q ≥ -1074` and `m < 2 ^ 53`, is `(q + 1074) * 2 ^ 52 + m`, where `m ≥ 2 ^ 52` unless `q = -1074`.
The rule also holds for `m = 2 ^ 53`, so rounding up needs no second look at the exponent.
-/

namespace SheetFormula.Decimal

/-- The bit pattern of positive infinity. -/
def infinityBits : Nat := 0x7ff0000000000000

/-- The numerator and denominator of `num / den` measured in units of `2 ^ q`. -/
def inUnits (num den : Nat) (q : Int) : Nat × Nat :=
  (num * twoTo (-q).toNat, den * twoTo q.toNat)

/-- The exponent of the last bit that a double near `num / den` has. -/
def lastBit (num den : Nat) : Int :=
  let q := max (Int.ofNat num.log2 - Int.ofNat den.log2 - 53) (-1074)
  let (n, d) := inUnits num den q
  if twoTo 53 * d ≤ n then q + 1 else q

/-- The integer nearest to `n / d`, of two equally near ones the even. -/
def nearestInt (n d : Nat) : Nat :=
  let m := n / d
  let r := n % d
  if d < 2 * r ∨ (d = 2 * r ∧ m % 2 = 1) then m + 1 else m

/-- The bit pattern of the double nearest to `num / den`. -/
def nearestBits (num den : Nat) : Nat :=
  let q := lastBit num den
  let (n, d) := inUnits num den q
  min ((q + 1074).toNat * twoTo 52 + nearestInt n d) infinityBits

/-- The double nearest to `num / den`. -/
def nearest (num den : Nat) : Float :=
  Float.ofBits (UInt64.ofNat (nearestBits num den))

end SheetFormula.Decimal
