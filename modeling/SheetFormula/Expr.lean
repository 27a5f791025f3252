import SheetFormula.ErrorCode
import SheetFormula.Reference

/-!
# Expressions

The tree of a formula. A `:` between two references of the same kind is a range; between any other
operands it is kept as it stands, and has no value.
-/

namespace SheetFormula

/-- A comparison of two values. -/
inductive Comparison where
  | equal
  | notEqual
  | less
  | lessEqual
  | greater
  | greaterEqual
  deriving DecidableEq, Repr

/-- An operator between two operands. -/
inductive BinaryOp where
  | add
  | subtract
  | multiply
  | divide
  | power
  | concat
  | compare (comparison : Comparison)
  deriving DecidableEq, Repr

/-- An operator before or after its operand. -/
inductive UnaryOp where
  | negate
  | plus
  | percent
  deriving DecidableEq, Repr

/-- The tree of a formula. -/
inductive Expr where
  | number (n : Float)
  | string (s : String)
  | error (code : ErrorCode)
  | reference (ref : Reference)
  | range (start stop : Reference)
  /-- The name of a variable. -/
  | name (name : String)
  | binary (op : BinaryOp) (left right : Expr)
  | unary (op : UnaryOp) (operand : Expr)
  /-- Two operands of a `:` that form no range. -/
  | colon (left right : Expr)
  /-- A call, with the name in upper case. -/
  | call (name : String) (args : List Expr)
  | array (rows : List (List Expr))
  deriving Inhabited

/-- Two operands of a `:`. -/
def Expr.joinRange : Expr → Expr → Expr
  | .reference start, .reference stop =>
    if start.kind = stop.kind then .range start stop
    else .colon (.reference start) (.reference stop)
  | left, right => .colon left right

end SheetFormula
