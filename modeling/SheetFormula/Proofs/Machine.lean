import SheetFormula.Proofs.Grammar.Outcome

/-!
# The parser as a machine

The procedures of the parser on a state: a position in the tokens, and the count of nesting levels
with every value that it had before. A procedure goes on from where the state is and leaves it where
it stops, after a failure too. Loops are loops here: what they collect is handed on from turn to
turn, and the count to go back to is taken before the first.

The count is an integer, so that one decrement too many would show. Nothing in the definitions says
that a procedure ever stops: its value is `none` where it does not.

* `Machine.Procedure.run`: what each procedure does.
* `Machine.Procedure.outcome`: what the parser gives for the same procedure.
* `Machine.parse`: the expression that all tokens are.
-/

namespace SheetFormula.Expr.Machine

open Expr.Parser (Level sign? Outcome)

/-! ## The state -/

/-- The state of the machine. -/
structure State where
  /-- How many tokens are behind. -/
  position : Nat
  /-- The count of nesting levels. -/
  count : Int
  /-- The values that the count had before, the latest first. -/
  past : List Int

namespace State

/-- The state at a position with a count, and nothing before. -/
def start (position depth : Nat) : State :=
  ⟨position, depth, []⟩

/-- Every value that the count has or had. -/
def counts (s : State) : List Int :=
  s.count :: s.past

/-- The state with another value of the count. -/
def withCount (s : State) (count : Int) : State :=
  { s with count, past := s.counts }

section
variable (limit : Nat) (tokens : List Token)

/-- The next token. -/
def current (s : State) : Option Token :=
  tokens[s.position]?

/-- Whether the next token is a symbol. -/
def check (sym : Symbol) (s : State) : Bool :=
  s.current tokens = some (.symbol sym)

/-- The next token, which is left behind. -/
def consume (s : State) : Option Token × State :=
  match s.current tokens with
  | some token => (some token, { s with position := s.position + 1 })
  | none => (none, s)

/-- Go past a symbol. -/
def expect (sym : Symbol) (s : State) : Except Failure Unit × State :=
  if s.check tokens sym then (.ok (), (s.consume tokens).2)
  else (.error (.parse (.expected sym (s.current tokens))), s)

/-- Go one level deeper; the count stays raised where this fails. -/
def descend (s : State) : Except Failure Unit × State :=
  let s := s.withCount (s.count + 1)
  if limit < s.count then (.error (.tooDeep limit), s) else (.ok (), s)

/-- Go back a level. -/
def ascend (s : State) : State :=
  s.withCount (s.count - 1)

end

end State

/-! ## The procedures -/

/-- What a procedure has read, and the state in which it stops. -/
abbrev Answer := Except Failure Expr × State

namespace State

section
variable (limit : Nat) (tokens : List Token)

/-- The percent signs after an operand; `base` is the count to go back to. -/
def percents (base : Int) (operand : Expr) (s : State) : Option Answer :=
  if s.check tokens .percent then
    match (s.consume tokens).2.descend limit with
    | (.error failure, s) => some (.error failure, s)
    | (.ok (), s) => s |>.percents base (.unary .percent operand)
  else
    some (.ok operand, s.withCount base)
partial_fixpoint

/-- The end of an array, after its rows but the last and the cells of that. -/
def endArray (rows : List (List Expr)) (row : List Expr) (s : State) : Answer :=
  let rows := if row.isEmpty then rows else rows ++ [row]
  match s.expect tokens .rightBrace with
  | (.error failure, s) => (.error failure, s)
  | (.ok (), s) => (.ok (.array rows), s)

/-- The end of a call, after its arguments. -/
def endCall (label : String) (args : List Expr) (s : State) : Answer :=
  match s.expect tokens .rightParen with
  | (.error failure, s) => (.error failure, s)
  | (.ok (), s) => (.ok (.call (Text.upper label) args), s)

mutual

/-- An expression. -/
def expression (s : State) : Option Answer := do
  match s.descend limit with
  | (.error failure, s) => some (.error failure, s)
  | (.ok (), s) =>
    let (reply, s) ← s |>.chain .comparison
    some (reply, s.ascend)
partial_fixpoint

/-- A chain of the operators of a level. -/
def chain (level : Level) (s : State) : Option Answer := do
  match ← s |>.operand level with
  | (.error failure, s) => some (.error failure, s)
  | (.ok left, s) => s |>.chainRest level s.count left
partial_fixpoint

/-- The operators of a level after `left`; `base` is the count to go back to. -/
def chainRest (level : Level) (base : Int) (left : Expr) (s : State) : Option Answer := do
  match (s.current tokens).bind level.operator? with
  | none => some (.ok left, s.withCount base)
  | some op =>
    match (s.consume tokens).2.descend limit with
    | (.error failure, s) => some (.error failure, s)
    | (.ok (), s) =>
      match ← s |>.operand level with
      | (.error failure, s) => some (.error failure, s)
      | (.ok right, s) => s |>.chainRest level base (.binary op left right)
partial_fixpoint

/-- An operand of a level. -/
def operand (level : Level) (s : State) : Option Answer :=
  match level with
  | .comparison => s |>.chain .concat
  | .concat => s |>.chain .sum
  | .sum => s |>.chain .product
  | .product => s |>.power
partial_fixpoint

/-- Operands with `^` between them. -/
def power (s : State) : Option Answer := do
  match ← s |>.signed with
  | (.error failure, s) => some (.error failure, s)
  | (.ok left, s) =>
    if s.check tokens .caret then
      match (s.consume tokens).2.descend limit with
      | (.error failure, s) => some (.error failure, s)
      | (.ok (), s) =>
        let (right, s) ← s |>.power
        some (right.map (.binary .power left), s.ascend)
    else
      some (.ok left, s)
partial_fixpoint

/-- An operand with the signs in front of it and the percent signs after it. -/
def signed (s : State) : Option Answer := do
  match (s.current tokens).bind sign? with
  | some op =>
    match (s.consume tokens).2.descend limit with
    | (.error failure, s) => some (.error failure, s)
    | (.ok (), s) =>
      let (operand, s) ← s |>.signed
      some (operand.map (.unary op), s.ascend)
  | none =>
    match ← s |>.range with
    | (.error failure, s) => some (.error failure, s)
    | (.ok operand, s) => s.percents limit tokens s.count operand
partial_fixpoint

/-- One operand, or two with a `:` between them. -/
def range (s : State) : Option Answer := do
  match ← s |>.primary with
  | (.error failure, s) => some (.error failure, s)
  | (.ok left, s) =>
    if s.check tokens .colon then
      let (right, s) ← (s.consume tokens).2 |>.primary
      some (right.map left.joinRange, s)
    else
      some (.ok left, s)
partial_fixpoint

/-- A literal, a reference, a name, a call, an array or an expression in parentheses. -/
def primary (s : State) : Option Answer := do
  match s.consume tokens with
  | (none, s) => some (.error (.parse .unexpectedEnd), s)
  | (some (.number n), s) => some (.ok (.number n), s)
  | (some (.string text), s) => some (.ok (.string text), s)
  | (some (.error code), s) => some (.ok (.error code), s)
  | (some (.reference ref), s) => some (.ok (.reference ref), s)
  | (some (.identifier label), s) =>
    if s.check tokens .leftParen then s |>.call label else some (.ok (.name label), s)
  | (some (.symbol sym), s) =>
    if sym = .leftParen then
      match ← s |>.expression with
      | (.error failure, s) => some (.error failure, s)
      | (.ok inner, s) =>
        match s.expect tokens .rightParen with
        | (.error failure, s) => some (.error failure, s)
        | (.ok (), s) => some (.ok inner, s)
    else if sym = .leftBrace then
      s |>.array
    else
      some (.error (.parse (.unexpectedToken (.symbol sym))), s)
partial_fixpoint

/-- An array, after its opening brace. -/
def array (s : State) : Option Answer := do
  if s.check tokens .rightBrace then
    some (s.endArray tokens [] [])
  else
    match ← s |>.expression with
    | (.error failure, s) => some (.error failure, s)
    | (.ok cell, s) => s |>.arrayRest [] [cell]
partial_fixpoint

/-- More cells of an array, after its rows but the last and the cells of that. -/
def arrayRest (rows : List (List Expr)) (row : List Expr) (s : State) : Option Answer := do
  match s.current tokens with
  | some (.symbol .comma) =>
    match ← (s.consume tokens).2 |>.expression with
    | (.error failure, s) => some (.error failure, s)
    | (.ok cell, s) => s |>.arrayRest rows (row ++ [cell])
  | some (.symbol .semicolon) =>
    match ← (s.consume tokens).2 |>.expression with
    | (.error failure, s) => some (.error failure, s)
    | (.ok cell, s) => s |>.arrayRest (rows ++ [row]) [cell]
  | some (.symbol .rightBrace) => some (s.endArray tokens rows row)
  | _ => some (.error (.parse .expectedArraySeparator), s)
partial_fixpoint

/-- A call, after its name. -/
def call (label : String) (s : State) : Option Answer := do
  match s.expect tokens .leftParen with
  | (.error failure, s) => some (.error failure, s)
  | (.ok (), s) =>
    if s.check tokens .rightParen then
      some (s.endCall tokens label [])
    else
      match ← s |>.expression with
      | (.error failure, s) => some (.error failure, s)
      | (.ok arg, s) => s |>.callRest label [arg]
partial_fixpoint

/-- More arguments of a call, after those read so far. -/
def callRest (label : String) (args : List Expr) (s : State) : Option Answer := do
  if s.check tokens .comma then
    match ← (s.consume tokens).2 |>.expression with
    | (.error failure, s) => some (.error failure, s)
    | (.ok arg, s) => s |>.callRest label (args ++ [arg])
  else
    some (s.endCall tokens label args)
partial_fixpoint

end

end

end State

/-- The expression that the tokens are, from the first to the last. -/
def parse (limit : Nat) (tokens : List Token) : Option (Except Failure Expr) := do
  match ← (State.start 0 0).expression limit tokens with
  | (.error failure, _) => some (.error failure)
  | (.ok e, s) =>
    match s.current tokens with
    | some token => some (.error (.parse (.trailingToken token)))
    | none => some (.ok e)

/-- The procedures of the machine. -/
inductive Procedure where
  | expression
  | chain (level : Level)
  | power
  | signed
  | range
  | primary
  | array
  | call (label : String)

namespace Procedure

/-- What a procedure does from a state. -/
def run (limit : Nat) (tokens : List Token) : Procedure → State → Option Answer
  | .expression => State.expression limit tokens
  | .chain level => State.chain limit tokens level
  | .power => State.power limit tokens
  | .signed => State.signed limit tokens
  | .range => State.range limit tokens
  | .primary => State.primary limit tokens
  | .array => State.array limit tokens
  | .call label => State.call limit tokens label

/-- What the parser gives for a procedure; it reads calls from behind their opening parenthesis. -/
def outcome (limit : Nat) (p : Procedure) (ts : List Token) (depth : Nat) : Outcome Expr :=
  match p with
  | .expression => (Parser.expression limit ts depth).outcome
  | .chain level => (Parser.chain limit level ts depth).outcome
  | .power => (Parser.power limit ts depth).outcome
  | .signed => (Parser.signed limit ts depth).outcome
  | .range => (Parser.range limit ts depth).outcome
  | .primary => (Parser.primary limit ts depth).outcome
  | .array => (Parser.array limit ts depth).outcome.map .array
  | .call label =>
    .expect .leftParen ts
      (fun rest => (Parser.call limit rest depth).outcome.map (.call (Text.upper label)))
      (.error (.parse (.expected .leftParen ts.head?), depth))

end Procedure

/-- An answer of the machine as an outcome of the parser. -/
def Answer.outcome (tokens : List Token) : Answer → Outcome Expr
  | (.ok e, s) => .ok (e, tokens.drop s.position, s.count.toNat)
  | (.error failure, s) => .error (failure, s.count.toNat)

end SheetFormula.Expr.Machine
