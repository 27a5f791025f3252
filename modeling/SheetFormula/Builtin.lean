import SheetFormula.Builtin.Aggregate
import SheetFormula.Builtin.Scalar
import SheetFormula.Builtin.Textual

/-!
# Built-in functions

The functions that every formula may call, each with the name that calls it, in any letter case,
and the number of arguments that it takes.

* `Builtin.apply`: what a function computes, from any arguments.
* `Builtin.call`: a call, which refuses a wrong number of arguments and a result that is no finite
  number.
-/

namespace SheetFormula

/-- A built-in function. -/
inductive Builtin where
  | sum
  | product
  | average
  | min
  | max
  | count
  | abs
  | round
  | int
  | mod
  | sqrt
  | power
  | pi
  | choose
  | and
  | or
  | xor
  | not
  | concatenate
  | len
  | left
  | right
  | upper
  | lower
  | trim
  deriving DecidableEq, Repr

/-- How many arguments a function takes; without a `most` there may be any number. -/
structure Arity where
  least : Nat
  most : Option Nat
  deriving DecidableEq, Repr

/-- Whether a function takes `n` arguments. -/
def Arity.admits (arity : Arity) (n : Nat) : Bool :=
  arity.least ≤ n && arity.most.all (n ≤ ·)

namespace Builtin

/-- All functions. -/
def all : List Builtin :=
  [.sum, .product, .average, .min, .max, .count, .abs, .round, .int, .mod, .sqrt, .power, .pi,
    .choose, .and, .or, .xor, .not, .concatenate, .len, .left, .right, .upper, .lower, .trim]

theorem mem_all (f : Builtin) : f ∈ all := by
  cases f <;> decide

/-- The name of a function, in upper case. -/
def name : Builtin → String
  | .sum => "SUM"
  | .product => "PRODUCT"
  | .average => "AVERAGE"
  | .min => "MIN"
  | .max => "MAX"
  | .count => "COUNT"
  | .abs => "ABS"
  | .round => "ROUND"
  | .int => "INT"
  | .mod => "MOD"
  | .sqrt => "SQRT"
  | .power => "POWER"
  | .pi => "PI"
  | .choose => "IF"
  | .and => "AND"
  | .or => "OR"
  | .xor => "XOR"
  | .not => "NOT"
  | .concatenate => "CONCATENATE"
  | .len => "LEN"
  | .left => "LEFT"
  | .right => "RIGHT"
  | .upper => "UPPER"
  | .lower => "LOWER"
  | .trim => "TRIM"

/-- The number of arguments of a function. -/
def arity : Builtin → Arity
  | .sum | .product | .average | .min | .max | .count | .and | .or | .xor | .concatenate =>
    ⟨1, none⟩
  | .abs | .int | .sqrt | .not | .len | .upper | .lower | .trim => ⟨1, some 1⟩
  | .round | .left | .right => ⟨1, some 2⟩
  | .mod | .power => ⟨2, some 2⟩
  | .pi => ⟨0, some 0⟩
  | .choose => ⟨2, some 3⟩

/-- What a function computes from its arguments, however many. -/
def apply : Builtin → List Value → Except ErrorCode Value
  | .sum, args => Aggregate.sum args
  | .product, args => Aggregate.product args
  | .average, args => Aggregate.average args
  | .min, args => Aggregate.minimum args
  | .max, args => Aggregate.maximum args
  | .count, args => Aggregate.count args
  | .abs, args => Scalar.abs args
  | .round, args => Scalar.round args
  | .int, args => Scalar.int args
  | .mod, args => Scalar.mod args
  | .sqrt, args => Scalar.sqrt args
  | .power, args => Scalar.power args
  | .pi, _ => .ok (.number Scalar.pi)
  | .choose, args => Scalar.choose args
  | .and, args => Aggregate.and args
  | .or, args => Aggregate.or args
  | .xor, args => Aggregate.xor args
  | .not, args => Scalar.not args
  | .concatenate, args => Aggregate.concatenate args
  | .len, args => Textual.length args
  | .left, args => Textual.left args
  | .right, args => Textual.right args
  | .upper, args => Textual.upper args
  | .lower, args => Textual.lower args
  | .trim, args => Textual.trim args

/-- The function with a given name, in any letter case. -/
def ofName? (name : String) : Option Builtin :=
  all.find? fun f => f.name == Text.upper name

/-- The names of all functions, in order. -/
def names : List String :=
  (all.map name).mergeSort

/-- The result of a call with evaluated arguments. -/
def call (f : Builtin) (args : List Value) : Except ErrorCode Value :=
  if f.arity.admits args.length then do
    match ← f.apply args with
    | .number n => Value.finite n
    | v => return v
  else
    .error .value

end Builtin

end SheetFormula
