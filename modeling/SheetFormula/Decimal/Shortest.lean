import SheetFormula.Decimal.Numeral

/-!
# The shortest decimal of a double

The real numbers that round to a double form an interval around it, whose ends belong to it when
the double's mantissa is even. `shortest` gives the decimal in this interval that has the fewest
digits; of several it gives the nearest to the double, and of two equally near ones the larger.

For each number of digits only the two neighbours of the double on the grid of such decimals can be
nearest, so these are all that is tried.
-/

namespace SheetFormula.Decimal

/-- The positive double `mantissa * 2 ^ exponent`. The doubles around it lie `2 ^ exponent` away,
the one below half as far if `tightBelow`. -/
structure Binary where
  mantissa : Nat
  exponent : Int
  tightBelow : Bool

/-- The positive double with the given bit pattern. -/
def Binary.ofBits (bits : Nat) : Binary :=
  let field := bits / twoTo 52
  let fraction := bits % twoTo 52
  if field = 0 then
    ⟨fraction, -1074, false⟩
  else
    ⟨twoTo 52 + fraction, Int.ofNat field - 1075, fraction = 0 ∧ 1 < field⟩

/-- The number `significand * 10 ^ exponent`. -/
structure Digits where
  significand : Nat
  exponent : Int

/-- The same number without zeros at the end of its significand. -/
def Digits.strip (x : Digits) : Digits :=
  if 0 < x.significand ∧ x.significand % 10 = 0 then
    Digits.strip ⟨x.significand / 10, x.exponent + 1⟩
  else
    x
termination_by x.significand
decreasing_by omega

/-- A number `value / unit` with the distances, in the same unit, to both ends of the interval of
reals that round to it. -/
structure Interval where
  value : Nat
  unit : Nat
  below : Nat
  above : Nat
  closed : Bool

/-- The interval of a double, in quarters of its last bit. -/
def Interval.ofBinary (x : Binary) : Interval :=
  let up := twoTo x.exponent.toNat
  let down := twoTo (-x.exponent).toNat
  { value := 4 * x.mantissa * up
    unit := 4 * down
    below := if x.tightBelow then up else 2 * up
    above := 2 * up
    closed := x.mantissa % 2 = 0 }

/-- The exponent `p` with `10 ^ p ≤ value / unit < 10 ^ (p + 1)`. -/
def Interval.decade (x : Interval) : Int :=
  if x.unit ≤ x.value then
    Int.ofNat (digitCount (x.value / x.unit)) - 1
  else
    -Int.ofNat (digitCount ((x.unit - 1) / x.value))

/-- The nearest multiple of `10 ^ e` in the interval, if there is one; of two equally near ones the
larger. -/
def Interval.onGrid? (x : Interval) (e : Int) : Option Digits :=
  let scale := tenTo (-e).toNat
  let unit := x.unit * tenTo e.toNat
  let low := x.value * scale / unit
  let rest := x.value * scale % unit
  let within (distance bound : Nat) : Bool :=
    distance < bound * scale || (x.closed && distance == bound * scale)
  let lowFits := within rest x.below
  let highFits := within (unit - rest) x.above
  if highFits && (!lowFits || unit ≤ 2 * rest) then some ⟨low + 1, e⟩
  else if lowFits then some ⟨low, e⟩
  else none

/-- The decimal of fewest digits that rounds to the double of a bit pattern. Seventeen digits
always suffice. -/
def shortest (bits : Nat) : Digits :=
  let x := Interval.ofBinary (Binary.ofBits bits)
  let found := (List.range 17).findSome? fun n => x.onGrid? (x.decade - Int.ofNat n)
  (found.getD ⟨0, 0⟩).strip

end SheetFormula.Decimal
