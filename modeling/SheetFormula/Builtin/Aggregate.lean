import SheetFormula.Builtin.Argument

/-!
# Aggregates

The functions that take in any number of arguments and all leaves of arrays, in order.
-/

namespace SheetFormula.Builtin.Aggregate

/-- The sum of numbers, from left to right; of none it is negative zero. -/
def total (ns : List Float) : Float :=
  ns.foldl (· + ·) (-0.0)

/-- The lesser of two numbers; what is no number does not count. -/
def lesser (a b : Float) : Float :=
  if a.isNaN || b < a then b else a

/-- The greater of two numbers; what is no number does not count. -/
def greater (a b : Float) : Float :=
  if a.isNaN || a < b then b else a

/-- The numbers combined from left to right; of none it is zero. -/
def reduce (f : Float → Float → Float) : List Float → Float
  | [] => 0
  | n :: ns => ns.foldl f n

/-- The sum of the numbers. -/
def sum (args : List Value) : Except ErrorCode Value := do
  let ns ← Argument.numbers args
  return .number (total ns)

/-- The product of the numbers; of none it is zero. -/
def product (args : List Value) : Except ErrorCode Value := do
  let ns ← Argument.numbers args
  return .number (if ns.isEmpty then 0 else ns.foldl (· * ·) 1)

/-- The mean of the numbers; of none it is a division by zero. -/
def average (args : List Value) : Except ErrorCode Value := do
  let ns ← Argument.numbers args
  if ns.isEmpty then .error .div0 else return .number (total ns / Float.ofNat ns.length)

/-- The least of the numbers. -/
def minimum (args : List Value) : Except ErrorCode Value := do
  let ns ← Argument.numbers args
  return .number (reduce lesser ns)

/-- The greatest of the numbers. -/
def maximum (args : List Value) : Except ErrorCode Value := do
  let ns ← Argument.numbers args
  return .number (reduce greater ns)

/-- How many numbers an argument counts for. A text that spells a number is one; truth values and
blanks are none. -/
def countOf : Value → Nat
  | .array items => ((Value.array items).leaves.filterMap Argument.leafNumber?).length
  | .number _ => 1
  | .string s => if (Value.readNumber? s).isSome then 1 else 0
  | _ => 0

/-- How many numbers arguments count for. -/
def countAll : List Value → Nat
  | [] => 0
  | v :: vs => countOf v + countAll vs

/-- How many numbers there are; no argument is at fault. -/
def count (args : List Value) : Except ErrorCode Value :=
  .ok (.number (Float.ofNat (countAll args)))

/-- Whether all truth values are true. -/
def and (args : List Value) : Except ErrorCode Value := do
  let bs ← Argument.truths args
  return .boolean (bs.all id)

/-- Whether some truth value is true. -/
def or (args : List Value) : Except ErrorCode Value := do
  let bs ← Argument.truths args
  return .boolean (bs.any id)

/-- Whether an odd number of truth values is true. -/
def xor (args : List Value) : Except ErrorCode Value := do
  let bs ← Argument.truths args
  return .boolean (bs.count true % 2 = 1)

/-- The texts of all leaves, one after another. -/
def concatenate (args : List Value) : Except ErrorCode Value :=
  .ok (.string (String.join ((Value.leavesOf args).map Value.text)))

end SheetFormula.Builtin.Aggregate
