import SheetFormula.Builtin.Argument

/-!
# Functions of numbers and truth values
-/

namespace SheetFormula.Builtin.Scalar

/-- `result * base ^ n` by repeated squaring, in the order of the binary digits of `n`. -/
def powerFrom (result base : Float) (n : Nat) : Float :=
  let result := if n % 2 = 1 then result * base else result
  if h : n / 2 = 0 then result else powerFrom result (base * base) (n / 2)
termination_by n
decreasing_by omega

/-- A power of ten; a negative one is the reciprocal of the positive one. -/
def powerOfTen (e : Int) : Float :=
  if e < 0 then 1 / powerFrom 1 10 e.natAbs else powerFrom 1 10 e.natAbs

/-- A number rounded to a number of decimal places, halves away from zero. Where the places pass the
number's own precision it stays as it is. -/
def roundTo (n : Float) (places : Int) : Float :=
  let factor := powerOfTen places
  let scaled := n * factor
  if scaled.isFinite then scaled.round / factor else n

/-- The absolute value. -/
def abs (args : List Value) : Except ErrorCode Value := do
  let n ← Argument.number args 0 0
  return .number n.abs

/-- The number rounded to the given decimal places, none by default. -/
def round (args : List Value) : Except ErrorCode Value := do
  let n ← Argument.number args 0 0
  let places ← Argument.number args 1 0
  return .number (roundTo n (max (-308) (min 308 (Argument.truncate places))))

/-- The greatest integer that is not greater. -/
def int (args : List Value) : Except ErrorCode Value := do
  let n ← Argument.number args 0 0
  return .number n.floor

/-- The remainder, which has the sign of the divisor. -/
def mod (args : List Value) : Except ErrorCode Value := do
  let n ← Argument.number args 0 0
  let d ← Argument.number args 1 0
  if d == 0 then .error .div0 else return .number (n - d * (n / d).floor)

/-- The square root of a number that is not negative. -/
def sqrt (args : List Value) : Except ErrorCode Value := do
  let n ← Argument.number args 0 0
  if n < 0 then .error .num else return .number n.sqrt

/-- The power of a number, the first by default. -/
def power (args : List Value) : Except ErrorCode Value := do
  let base ← Argument.number args 0 0
  let exponent ← Argument.number args 1 1
  Value.finite (Value.raise base exponent)

/-- The double nearest to the ratio of a circle's circumference to its diameter. -/
def pi : Float := 3.141592653589793

/-- One of two values by a condition; they are `TRUE` and `FALSE` by default. -/
def choose (args : List Value) : Except ErrorCode Value := do
  let condition ← Argument.truth args
  return if condition then args[1]?.getD (.boolean true) else args[2]?.getD (.boolean false)

/-- The opposite of a truth value. -/
def not (args : List Value) : Except ErrorCode Value := do
  let b ← Argument.truth args
  return .boolean !b

end SheetFormula.Builtin.Scalar
