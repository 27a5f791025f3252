import SheetFormula.Value.Operator

/-!
# Arguments of functions

How functions read their arguments. A function of scalars picks one argument and coerces it.
Aggregates take every argument: a scalar is coerced, an array contributes only those of its leaves
that have the right type, and blanks contribute nothing.
-/

namespace SheetFormula.Builtin.Argument

/-! ## Scalars -/

/-- The number at an index, or `default` where there is none. -/
def number (args : List Value) (index : Nat) (default : Float) : Except ErrorCode Float :=
  match args[index]? with
  | some v => v.requireNumber
  | none => .ok default

/-- The text at an index; an array has none. -/
def text (args : List Value) (index : Nat) : Except ErrorCode String :=
  match args[index]? with
  | some (.array _) => .error .value
  | some v => .ok v.text
  | none => .ok ""

/-- The truth value in front. -/
def truth (args : List Value) : Except ErrorCode Bool :=
  match args.head?.bind Value.toBool? with
  | some b => .ok b
  | none => .error .value

/-- A number without its fraction. What is no number counts as zero, and numbers beyond 64 bits as
the largest of 64 bits. -/
def truncate (n : Float) : Int :=
  if n < 0 then -Int.ofNat (-n).toUInt64.toNat else Int.ofNat n.toUInt64.toNat

/-- The number of characters at an index, one where there is none; it must not be negative. -/
def count (args : List Value) (index : Nat) : Except ErrorCode Nat := do
  let n ← number args index 1
  if truncate n < 0 then .error .value else .ok (truncate n).toNat

/-! ## Aggregates -/

/-- The number that a leaf of an array contributes. -/
def leafNumber? : Value → Option Float
  | .number n => some n
  | _ => none

/-- The numbers that one argument contributes. -/
def numbersOf (v : Value) : Except ErrorCode (List Float) :=
  if v.isArray then .ok (v.leaves.filterMap leafNumber?)
  else if v.isBlank then .ok []
  else v.requireNumber.map ([·])

/-- The numbers that the arguments of an aggregate contribute. -/
def numbers (args : List Value) : Except ErrorCode (List Float) :=
  (args.mapM numbersOf).map List.flatten

/-- The truth value that a leaf of an array contributes. -/
def leafTruth? : Value → Option Bool
  | .boolean b => some b
  | .number n => some (n != 0)
  | _ => none

/-- The truth values that one argument contributes. -/
def truthsOf (v : Value) : Except ErrorCode (List Bool) :=
  if v.isArray then .ok (v.leaves.filterMap leafTruth?)
  else if v.isBlank then .ok []
  else
    match v.toBool? with
    | some b => .ok [b]
    | none => .error .value

/-- The truth values that the arguments of an aggregate contribute; there must be some. -/
def truths (args : List Value) : Except ErrorCode (List Bool) := do
  let bs := (← args.mapM truthsOf).flatten
  if bs.isEmpty then .error .value else .ok bs

end SheetFormula.Builtin.Argument
