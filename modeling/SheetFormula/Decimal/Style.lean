import SheetFormula.Decimal.Shortest

/-!
# Writing a number

A `Style` settles what the digits of a double leave open: when an exponent is written and whether
an integer shows a point. Every style writes the shortest digits that round to the number, leaves
zero without a sign, and writes `inf` and `NaN` for what is not finite.
-/

namespace SheetFormula.Decimal

/-- The choices in which written numbers differ. -/
structure Style where
  /-- The least and the greatest power of ten of a first digit for which the digits are written
  out in full; without bounds they always are. -/
  positional : Option (Int × Int)
  /-- Whether an integer written out in full ends in `.0`. -/
  pointZero : Bool

namespace Style

/-- Digits written out in full, `ds` times `10 ^ e`. -/
def full (style : Style) (ds : List Char) (e : Int) : List Char :=
  let whole := Int.ofNat ds.length + e
  if 0 ≤ e then
    ds ++ List.replicate e.toNat '0' ++ (if style.pointZero then ['.', '0'] else [])
  else if 0 < whole then
    ds.take whole.toNat ++ '.' :: ds.drop whole.toNat
  else
    '0' :: '.' :: List.replicate (-whole).toNat '0' ++ ds

/-- Digits with a point after the first and the power of ten of the first. -/
def scientific (ds : List Char) (power : Int) : List Char :=
  let fraction := match ds.drop 1 with
    | [] => []
    | rest => '.' :: rest
  let sign := if power < 0 then ['-'] else []
  ds.take 1 ++ fraction ++ 'e' :: sign ++ Nat.toDigits 10 power.natAbs

/-- A positive number. -/
def positive (style : Style) (x : Digits) : List Char :=
  let ds := Nat.toDigits 10 x.significand
  let power := Int.ofNat ds.length - 1 + x.exponent
  match style.positional with
  | some (least, greatest) =>
    if least ≤ power ∧ power ≤ greatest then style.full ds x.exponent else scientific ds power
  | none => style.full ds x.exponent

/-- The text of a number. -/
def format (style : Style) (x : Float) : String :=
  let bits := x.toBits.toNat % twoTo 63
  let sign := if x < 0 then ['-'] else []
  if infinityBits < bits then "NaN"
  else if bits = infinityBits then String.ofList (sign ++ ['i', 'n', 'f'])
  else if bits = 0 then String.ofList (style.full ['0'] 0)
  else String.ofList (sign ++ style.positive (shortest bits))

end Style

end SheetFormula.Decimal
