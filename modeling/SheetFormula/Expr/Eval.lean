import SheetFormula.Failure
import SheetFormula.Value.Operator

/-!
# Evaluation

Evaluation leaves to a `Context` what an expression does not settle itself: the values of names and
references and the results of calls. Operands, arguments and cells are evaluated from left to right,
each once, and nothing is looked up after a failure.

* `Expr.eval`: the value of an expression.
* `Context.recording`: a context that also keeps the lookups put to it, in order.
-/

namespace SheetFormula

/-- What an expression leaves to its surroundings. -/
inductive Lookup where
  /-- The value of a variable. -/
  | name (name : String)
  /-- The result of a call. -/
  | call (name : String) (args : List Value)
  /-- The value of a reference. -/
  | reference (label : String)
  /-- The values between two references. -/
  | range (start stop : String)

/-- A computation that may fail and that reads and changes a state, also when it fails. -/
abbrev Action (σ : Type) := ExceptT Failure (StateM σ)

/-- What answers lookups. Answers may depend on a state, and change it. -/
abbrev Context (σ : Type) := Lookup → Action σ Value

namespace Context

variable {σ : Type}

/-- A context that keeps each lookup, before it is answered, at the end of a list. -/
def recording (context : Context σ) : Context (List Lookup × σ) := fun lookup state =>
  match context lookup state.2 with
  | (answer, after) => (answer, state.1 ++ [lookup], after)

end Context

namespace Expr

variable {σ : Type}

/-- A result that fails with an error code as a computation. -/
def signalling (result : Except ErrorCode Value) : Action σ Value :=
  match result with
  | .ok v => pure v
  | .error code => throw (.signal code)

mutual

/-- The value of an expression. -/
def eval (context : Context σ) : Expr → Action σ Value
  | .number n => signalling (Value.finite n)
  | .string s => pure (.string s)
  | .error code => throw (.signal code)
  | .reference ref => context (.reference ref.label)
  | .range start stop => context (.range start.label stop.label)
  | .name label => context (.name label)
  | .binary op left right => do
    let l ← eval context left
    let r ← eval context right
    signalling (op.apply l r)
  | .unary op operand => do
    let v ← eval context operand
    signalling (op.apply v)
  | .colon _ _ => throw (.signal .value)
  | .call label args => do
    let vs ← evalList context args
    context (.call label vs)
  | .array rows => do
    let vss ← evalRows context rows
    pure (.block vss)

/-- The values of expressions, from left to right. -/
def evalList (context : Context σ) : List Expr → Action σ (List Value)
  | [] => pure []
  | e :: es => do
    let v ← eval context e
    let vs ← evalList context es
    pure (v :: vs)

/-- The values of rows of expressions, row by row. -/
def evalRows (context : Context σ) : List (List Expr) → Action σ (List (List Value))
  | [] => pure []
  | row :: rows => do
    let vs ← evalList context row
    let vss ← evalRows context rows
    pure (vs :: vss)

end

end Expr

end SheetFormula
