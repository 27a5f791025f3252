import SheetFormula.Expr
import SheetFormula.Text.Case
import SheetFormula.Value

/-!
# Operators on values

Arithmetic coerces its operands to numbers and never gives a number that is not finite. Comparisons
order numbers before texts before truth values; a blank takes the kind of what it is compared with.
Arrays are no operands, except of a `+` in front.
-/

namespace SheetFormula

namespace Value

/-- The number that a value stands for, or `#VALUE!`. -/
def requireNumber (v : Value) : Except ErrorCode Float :=
  match v.toNumber? with
  | some n => .ok n
  | none => .error .value

/-- A finite number as a value; overflow and what is no number are `#NUM!`. -/
def finite (n : Float) : Except ErrorCode Value :=
  if n.isFinite then .ok (.number n) else .error .num

/-- A number raised to a power; the power zero of every number is one. -/
def raise (base exponent : Float) : Float :=
  if exponent == 0 then 1 else base.pow exponent

/-! ## Comparison -/

/-- The order of two numbers; what is no number is equal to every number. -/
def compareNumbers (a b : Float) : Ordering :=
  if a < b then .lt else if b < a then .gt else .eq

/-- The order of two texts by what `fold` makes of them. -/
def compareTexts (fold : String → String) (a b : String) : Ordering :=
  compare (fold a) (fold b)

/-- The place of a value's kind in the order of values. -/
def rank : Value → Nat
  | .number _ => 0
  | .string _ => 1
  | _ => 2

/-- A blank takes the kind of the value that it is compared with. -/
def fillBlank (v other : Value) : Value :=
  if v.isBlank then
    match other with
    | .string _ => .string ""
    | .boolean _ => .boolean false
    | _ => .number 0
  else
    v

/-- The order of two values of which neither is blank. -/
def compareFilled (fold : String → String) : Value → Value → Ordering
  | .number a, .number b => compareNumbers a b
  | .string a, .string b => compareTexts fold a b
  | .boolean a, .boolean b => compare a b
  | a, b => compare a.rank b.rank

/-- The order of two values that are no arrays, with texts in the order of what `fold` makes of them.
Blanks are equal to each other. -/
def compare (fold : String → String) (a b : Value) : Ordering :=
  if a.isBlank && b.isBlank then .eq else compareFilled fold (a.fillBlank b) (b.fillBlank a)

end Value

namespace Comparison

/-- Whether a comparison holds of two values in a given order. -/
def holds : Comparison → Ordering → Bool
  | .equal, o => o.isEq
  | .notEqual, o => o.isNe
  | .less, o => o.isLT
  | .lessEqual, o => o.isLE
  | .greater, o => o.isGT
  | .greaterEqual, o => o.isGE

/-- A comparison of two values. Arrays have no order. -/
def apply (fold : String → String) (comparison : Comparison) (l r : Value) :
    Except ErrorCode Value :=
  if l.isArray || r.isArray then .error .value
  else .ok (.boolean (comparison.holds (l.compare fold r)))

end Comparison

/-! ## Operators -/

/-- A binary operator on two values; of two operands at fault the left one counts. Texts are compared
without regard to letter case. -/
def BinaryOp.apply (op : BinaryOp) (l r : Value) : Except ErrorCode Value :=
  match op with
  | .add => do
    let a ← l.requireNumber
    let b ← r.requireNumber
    Value.finite (a + b)
  | .subtract => do
    let a ← l.requireNumber
    let b ← r.requireNumber
    Value.finite (a - b)
  | .multiply => do
    let a ← l.requireNumber
    let b ← r.requireNumber
    Value.finite (a * b)
  | .divide => do
    let a ← l.requireNumber
    let b ← r.requireNumber
    if b == 0 then .error .div0 else Value.finite (a / b)
  | .power => do
    let a ← l.requireNumber
    let b ← r.requireNumber
    if a == 0 && b == 0 then .error .num else Value.finite (Value.raise a b)
  | .concat =>
    if l.isArray || r.isArray then .error .value else .ok (.string (l.text ++ r.text))
  | .compare comparison => comparison.apply Text.lower l r

/-- A unary operator on a value. A `+` leaves any value as it is. -/
def UnaryOp.apply (op : UnaryOp) (v : Value) : Except ErrorCode Value :=
  match op with
  | .plus => .ok v
  | .negate => do
    let n ← v.requireNumber
    Value.finite (-n)
  | .percent => do
    let n ← v.requireNumber
    Value.finite (n / 100)

end SheetFormula
