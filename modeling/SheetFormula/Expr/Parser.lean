import SheetFormula.Expr
import SheetFormula.Failure
import SheetFormula.Text.Case

/-!
# Reading expressions

A recursive descent over the tokens of a formula. From the loosest to the tightest: comparisons,
`&`, `+` and `-`, `*` and `/`, all from left to right; `^` from right to left; signs; `%`; `:`.

The parser keeps count of how deep it is nested, and fails where the count would pass a limit.
Parentheses, arguments and cells of arrays count while they are read, and so does the operand of a
sign or of a `^`. In a chain of operators from left to right, or of percent signs, each operator
nests the tree once more, so all of them count until the chain ends.

* `Expr.Parser.Reply`: a success leaves fewer tokens than there were, which is why the descent ends.
* `Expr.ofTokens`: the expression that a list of tokens is, from the first to the last.
-/

namespace SheetFormula.Expr.Parser

/-- What reading from a list of `n` tokens gives: a value with the tokens left, or a failure, and
the count of nesting levels in either case. -/
inductive Reply (n : Nat) (α : Type) where
  | ok (value : α) (rest : List Token) (depth : Nat) (shorter : rest.length < n)
  | fail (failure : Failure) (depth : Nat)

namespace Reply

variable {α β : Type} {n m : Nat}

/-- A reply with its value changed. -/
def map (f : α → β) : Reply n α → Reply n β
  | .ok value rest depth shorter => .ok (f value) rest depth shorter
  | .fail failure depth => .fail failure depth

/-- A reply that leaves one level of nesting. -/
def leave : Reply n α → Reply n α
  | .ok value rest depth shorter => .ok value rest (depth - 1) shorter
  | .fail failure depth => .fail failure (depth - 1)

/-- A reply seen from a longer list of tokens. -/
def widen (h : n ≤ m) : Reply n α → Reply m α
  | .ok value rest depth shorter => .ok value rest depth (Nat.lt_of_lt_of_le shorter h)
  | .fail failure depth => .fail failure depth

end Reply

/-- The tokens after a symbol in front. -/
def after? (s : Symbol) : List Token → Option (List Token)
  | .symbol t :: ts => if t = s then some ts else none
  | _ => none

theorem after?_eq_some {s : Symbol} {ts rest : List Token} :
    after? s ts = some rest ↔ ts = .symbol s :: rest := by
  unfold after?
  split <;> grind

theorem length_of_after? {s : Symbol} {ts rest : List Token} (h : after? s ts = some rest) :
    ts.length = rest.length + 1 := by
  rw [after?_eq_some.1 h, List.length_cons]

/-- A value that a symbol has to follow. -/
def close {α : Type} (s : Symbol) (value : α) (ts : List Token) (depth : Nat) :
    Reply ts.length α :=
  match h : after? s ts with
  | some rest => .ok value rest depth (by rw [length_of_after? h]; exact Nat.lt_succ_self _)
  | none => .fail (.parse (.expected s ts.head?)) depth

/-- The operators that a chain from left to right may have. -/
inductive Level where
  | comparison
  | concat
  | sum
  | product
  deriving DecidableEq, Repr

namespace Level

/-- The operator of a level that a symbol stands for. -/
def ofSymbol? : Level → Symbol → Option BinaryOp
  | .comparison, .equal => some (.compare .equal)
  | .comparison, .notEqual => some (.compare .notEqual)
  | .comparison, .lessThan => some (.compare .less)
  | .comparison, .lessEqual => some (.compare .lessEqual)
  | .comparison, .greaterThan => some (.compare .greater)
  | .comparison, .greaterEqual => some (.compare .greaterEqual)
  | .concat, .ampersand => some .concat
  | .sum, .plus => some .add
  | .sum, .minus => some .subtract
  | .product, .star => some .multiply
  | .product, .slash => some .divide
  | _, _ => none

/-- The operator of a level that a token stands for. -/
def operator? (level : Level) : Token → Option BinaryOp
  | .symbol s => level.ofSymbol? s
  | _ => none

/-- How many steps lie between the operands of a level and the tightest ones. -/
def rank : Level → Nat
  | .comparison => 12
  | .concat => 10
  | .sum => 8
  | .product => 6

end Level

/-- The operator that a token in front of its operand stands for. -/
def sign? : Token → Option UnaryOp
  | .symbol .minus => some .negate
  | .symbol .plus => some .plus
  | _ => none

/-- An operand with the percent signs after it; `base` is the count to go back to. -/
def percents (limit base : Nat) (operand : Expr) :
    (ts : List Token) → (depth : Nat) → Reply (ts.length + 1) Expr
  | [], _ => .ok operand [] base (Nat.lt_succ_self _)
  | t :: ts, depth =>
    if t = .symbol .percent then
      if limit < depth + 1 then .fail (.tooDeep limit) (depth + 1)
      else (percents limit base (.unary .percent operand) ts (depth + 1)).widen (Nat.le_succ _)
    else
      .ok operand (t :: ts) base (Nat.lt_succ_self _)

/-- The rows of an array with one more cell in front of the first. -/
def consCell (cell : Expr) : List (List Expr) → List (List Expr)
  | [] => [[cell]]
  | row :: rows => (cell :: row) :: rows

mutual

/-- An expression. -/
def expression (limit : Nat) (ts : List Token) (depth : Nat) : Reply ts.length Expr :=
  if limit < depth + 1 then .fail (.tooDeep limit) (depth + 1)
  else (chain limit .comparison ts (depth + 1)).leave
termination_by (ts.length, 14)
decreasing_by exact Prod.Lex.right _ (by decide)

/-- A chain of the operators of a level. -/
def chain (limit : Nat) (level : Level) (ts : List Token) (depth : Nat) : Reply ts.length Expr :=
  match operand limit level ts depth with
  | .ok left rest depth shorter => (chainRest limit level depth left rest depth).widen shorter
  | .fail failure depth => .fail failure depth
termination_by (ts.length, level.rank + 1)

/-- The operators of a level after the operand `left`, with their right operands; `base` is the
count to go back to. -/
def chainRest (limit : Nat) (level : Level) (base : Nat) (left : Expr) (ts : List Token)
    (depth : Nat) : Reply (ts.length + 1) Expr :=
  match ts with
  | [] => .ok left [] base (Nat.lt_succ_self _)
  | t :: ts =>
    match level.operator? t with
    | none => .ok left (t :: ts) base (Nat.lt_succ_self _)
    | some op =>
      if limit < depth + 1 then .fail (.tooDeep limit) (depth + 1)
      else
        match operand limit level ts (depth + 1) with
        | .ok right rest depth shorter =>
          (chainRest limit level base (.binary op left right) rest depth).widen
            (Nat.le_succ_of_le (Nat.succ_le_succ (Nat.le_of_lt shorter)))
        | .fail failure depth => .fail failure depth
termination_by (ts.length, 0)

/-- An operand of a level: a chain of the next tighter level. -/
def operand (limit : Nat) (level : Level) (ts : List Token) (depth : Nat) : Reply ts.length Expr :=
  match level with
  | .comparison => chain limit .concat ts depth
  | .concat => chain limit .sum ts depth
  | .sum => chain limit .product ts depth
  | .product => power limit ts depth
termination_by (ts.length, level.rank)
decreasing_by all_goals exact Prod.Lex.right _ (by decide)

/-- Operands with `^` between them. -/
def power (limit : Nat) (ts : List Token) (depth : Nat) : Reply ts.length Expr :=
  match signed limit ts depth with
  | .fail failure depth => .fail failure depth
  | .ok left rest depth shorter =>
    match h : after? .caret rest with
    | none => .ok left rest depth shorter
    | some rest' =>
      have : rest'.length < ts.length := by have := length_of_after? h; omega
      if limit < depth + 1 then .fail (.tooDeep limit) (depth + 1)
      else
        ((power limit rest' (depth + 1)).leave.map (.binary .power left)).widen (Nat.le_of_lt this)
termination_by (ts.length, 5)

/-- An operand with the signs in front of it. -/
def signed (limit : Nat) (ts : List Token) (depth : Nat) : Reply ts.length Expr :=
  match ts with
  | [] => percentage limit [] depth
  | t :: ts =>
    match sign? t with
    | none => percentage limit (t :: ts) depth
    | some op =>
      if limit < depth + 1 then .fail (.tooDeep limit) (depth + 1)
      else ((signed limit ts (depth + 1)).leave.map (.unary op)).widen (Nat.le_succ _)
termination_by (ts.length, 4)

/-- An operand with the percent signs after it. -/
def percentage (limit : Nat) (ts : List Token) (depth : Nat) : Reply ts.length Expr :=
  match range limit ts depth with
  | .ok operand rest depth shorter => (percents limit depth operand rest depth).widen shorter
  | .fail failure depth => .fail failure depth
termination_by (ts.length, 3)

/-- One operand, or two with a `:` between them. -/
def range (limit : Nat) (ts : List Token) (depth : Nat) : Reply ts.length Expr :=
  match primary limit ts depth with
  | .fail failure depth => .fail failure depth
  | .ok left rest depth shorter =>
    match h : after? .colon rest with
    | none => .ok left rest depth shorter
    | some rest' =>
      have : rest'.length < ts.length := by have := length_of_after? h; omega
      ((primary limit rest' depth).map left.joinRange).widen (Nat.le_of_lt this)
termination_by (ts.length, 2)

/-- A literal, a reference, a name, a call, an array or an expression in parentheses. -/
def primary (limit : Nat) (ts : List Token) (depth : Nat) : Reply ts.length Expr :=
  match ts with
  | [] => .fail (.parse .unexpectedEnd) depth
  | .number n :: ts => .ok (.number n) ts depth (Nat.lt_succ_self _)
  | .string s :: ts => .ok (.string s) ts depth (Nat.lt_succ_self _)
  | .error code :: ts => .ok (.error code) ts depth (Nat.lt_succ_self _)
  | .reference ref :: ts => .ok (.reference ref) ts depth (Nat.lt_succ_self _)
  | .identifier label :: ts =>
    match h : after? .leftParen ts with
    | none => .ok (.name label) ts depth (Nat.lt_succ_self _)
    | some rest =>
      have : rest.length < ts.length + 1 := by have := length_of_after? h; omega
      ((call limit rest depth).map (.call (Text.upper label))).widen (Nat.le_of_lt this)
  | .symbol s :: ts =>
    if s = .leftParen then
      match expression limit ts depth with
      | .ok value rest depth shorter =>
        (close .rightParen value rest depth).widen (Nat.le_succ_of_le (Nat.le_of_lt shorter))
      | .fail failure depth => .fail failure depth
    else if s = .leftBrace then
      ((array limit ts depth).map .array).widen (Nat.le_succ _)
    else
      .fail (.parse (.unexpectedToken (.symbol s))) depth
termination_by (ts.length, 1)

/-- The arguments of a call, up to its closing parenthesis. -/
def call (limit : Nat) (ts : List Token) (depth : Nat) : Reply ts.length (List Expr) :=
  match h : after? .rightParen ts with
  | some rest => .ok [] rest depth (by rw [length_of_after? h]; exact Nat.lt_succ_self _)
  | none => arguments limit ts depth
termination_by (ts.length, 16)

/-- One or more arguments of a call, up to its closing parenthesis. -/
def arguments (limit : Nat) (ts : List Token) (depth : Nat) : Reply ts.length (List Expr) :=
  match expression limit ts depth with
  | .fail failure depth => .fail failure depth
  | .ok arg rest depth shorter =>
    match h : after? .comma rest with
    | none => (close .rightParen [arg] rest depth).widen (Nat.le_of_lt shorter)
    | some rest' =>
      have : rest'.length < ts.length := by have := length_of_after? h; omega
      ((arguments limit rest' depth).map (arg :: ·)).widen (Nat.le_of_lt this)
termination_by (ts.length, 15)

/-- The rows of an array, up to its closing brace. -/
def array (limit : Nat) (ts : List Token) (depth : Nat) : Reply ts.length (List (List Expr)) :=
  match h : after? .rightBrace ts with
  | some rest => .ok [] rest depth (by rw [length_of_after? h]; exact Nat.lt_succ_self _)
  | none => rows limit ts depth
termination_by (ts.length, 16)

/-- One or more cells of an array, up to its closing brace. -/
def rows (limit : Nat) (ts : List Token) (depth : Nat) : Reply ts.length (List (List Expr)) :=
  match expression limit ts depth with
  | .fail failure depth => .fail failure depth
  | .ok cell rest depth shorter =>
    match hc : after? .comma rest with
    | some rest' =>
      have : rest'.length < ts.length := by have := length_of_after? hc; omega
      ((rows limit rest' depth).map (consCell cell)).widen (Nat.le_of_lt this)
    | none =>
      match hs : after? .semicolon rest with
      | some rest' =>
        have : rest'.length < ts.length := by have := length_of_after? hs; omega
        ((rows limit rest' depth).map ([cell] :: ·)).widen (Nat.le_of_lt this)
      | none =>
        match hb : after? .rightBrace rest with
        | some rest' =>
          .ok [[cell]] rest' depth (by have := length_of_after? hb; omega)
        | none => .fail (.parse .expectedArraySeparator) depth
termination_by (ts.length, 15)

end

end Parser

/-- The expression that a list of tokens is, nested at most `limit` levels deep. -/
def ofTokens (limit : Nat) (tokens : List Token) : Except Failure Expr :=
  match Parser.expression limit tokens 0 with
  | .fail failure _ => .error failure
  | .ok expr [] _ _ => .ok expr
  | .ok _ (token :: _) _ _ => .error (.parse (.trailingToken token))

end SheetFormula.Expr
