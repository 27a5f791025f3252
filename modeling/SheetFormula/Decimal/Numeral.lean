import SheetFormula.Decimal.Nearest

/-!
# Decimal numerals

A numeral is an optional sign, digits with an optional point among or beside them, and an optional
exponent: `12`, `-5.`, `.5`, `1.5e-7`. `Numeral.read?` reads a text that is a numeral from end to
end, and `Numeral.toFloat` gives the double nearest to its value.
-/

namespace SheetFormula.Decimal

/-- The number `mantissa * 10 ^ exponent` with a sign. -/
structure Numeral where
  negative : Bool
  mantissa : Nat
  exponent : Int

namespace Numeral

/-- Whether a sign in front is a minus, and what follows the sign. -/
def splitSign : List Char → Bool × List Char
  | '-' :: cs => (true, cs)
  | '+' :: cs => (false, cs)
  | cs => (false, cs)

/-- The digits after a point in front, and what follows them. -/
def splitFraction : List Char → List Char × List Char
  | '.' :: cs => (cs.takeWhile Char.isDigit, cs.dropWhile Char.isDigit)
  | cs => ([], cs)

/-- The exponent that ends a numeral: nothing, or `e` or `E` with an integer. -/
def readExponent? : List Char → Option Int
  | [] => some 0
  | c :: cs =>
    let (negative, ds) := splitSign cs
    if (c = 'e' ∨ c = 'E') ∧ ds ≠ [] ∧ ds.all Char.isDigit then
      some (if negative then -Int.ofNat (ofDigits ds) else Int.ofNat (ofDigits ds))
    else
      none

/-- The numeral that a text is; at least one digit stands before its exponent. -/
def read? (cs : List Char) : Option Numeral :=
  let (negative, cs) := splitSign cs
  let whole := cs.takeWhile Char.isDigit
  let (fraction, cs) := splitFraction (cs.dropWhile Char.isDigit)
  if whole.isEmpty && fraction.isEmpty then
    none
  else
    (readExponent? cs).map fun exponent =>
      ⟨negative, ofDigits (whole ++ fraction), exponent - Int.ofNat fraction.length⟩

/-- The double nearest to the absolute value. Numbers of `10 ^ 310` and more are infinite and
numbers below `10 ^ (-330)` are zero, so the powers of ten stay small. -/
def magnitude (x : Numeral) : Float :=
  let size := Int.ofNat (digitCount x.mantissa) + x.exponent
  if x.mantissa = 0 ∨ size < -330 then
    0
  else if 310 < size then
    Float.ofBits (UInt64.ofNat infinityBits)
  else
    nearest (x.mantissa * tenTo x.exponent.toNat) (tenTo (-x.exponent).toNat)

/-- The double nearest to a numeral; a numeral of zero keeps its sign. -/
def toFloat (x : Numeral) : Float :=
  if x.negative then -x.magnitude else x.magnitude

end Numeral

end SheetFormula.Decimal
