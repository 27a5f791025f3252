import SheetFormula.Expr.Parser

/-!
# The grammar of expressions

    expression = concat (comparison concat)*         (and likewise for `&`, `+ -` and `* /`)
    power      = signed | signed '^' power
    signed     = sign signed | percentage
    percentage = range | percentage '%'
    range      = primary | primary ':' primary
    primary    = literal | reference | name | '(' expression ')'
               | '{' '}' | '{' rows '}' | name '(' ')' | name '(' arguments ')'

`Grammar.Phrase c` is the type of the derivations of a stratum `c`, with one constructor for each
production. A derivation spells tokens (`Phrase.tokens`) and means a tree (`Phrase.tree`), so
`Grammar.Derives` says that a list of tokens has a derivation that means a given tree. None of this
refers to the parser; what the parser counts while it reads a phrase is `Phrase.levels`.
-/

namespace SheetFormula.Grammar

open Expr.Parser (Level)

/-- The operators of a level, with their symbols. -/
def operators : Level → List (Symbol × BinaryOp)
  | .comparison =>
    [(.equal, .compare .equal), (.notEqual, .compare .notEqual), (.lessThan, .compare .less),
      (.lessEqual, .compare .lessEqual), (.greaterThan, .compare .greater),
      (.greaterEqual, .compare .greaterEqual)]
  | .concat => [(.ampersand, .concat)]
  | .sum => [(.plus, .add), (.minus, .subtract)]
  | .product => [(.star, .multiply), (.slash, .divide)]

/-- The operators in front of their operand, with their symbols. -/
def signs : List (Symbol × UnaryOp) :=
  [(.minus, .negate), (.plus, .plus)]

/-- What a phrase may be, from the loosest to the tightest. -/
inductive Stratum where
  | expression
  | chain (level : Level)
  | operand (level : Level)
  | power
  | signed
  | percentage
  | range
  | primary
  | arguments
  | row
  | rows

/-- What the phrases of a stratum mean. -/
abbrev Stratum.Meaning : Stratum → Type
  | .arguments | .row => List Expr
  | .rows => List (List Expr)
  | _ => Expr

/-- The derivations of a stratum. -/
inductive Phrase : Stratum → Type where
  | expression (chain : Phrase (.chain .comparison)) : Phrase .expression
  | first {level : Level} (operand : Phrase (.operand level)) : Phrase (.chain level)
  | binary {level : Level} (left : Phrase (.chain level)) (s : Symbol) (op : BinaryOp)
      (mem : (s, op) ∈ operators level) (right : Phrase (.operand level)) : Phrase (.chain level)
  | concat (chain : Phrase (.chain .concat)) : Phrase (.operand .comparison)
  | sum (chain : Phrase (.chain .sum)) : Phrase (.operand .concat)
  | product (chain : Phrase (.chain .product)) : Phrase (.operand .sum)
  | factor (operand : Phrase .power) : Phrase (.operand .product)
  | base (operand : Phrase .signed) : Phrase .power
  | power (base : Phrase .signed) (exponent : Phrase .power) : Phrase .power
  | unsigned (operand : Phrase .percentage) : Phrase .signed
  | sign (s : Symbol) (op : UnaryOp) (mem : (s, op) ∈ signs) (operand : Phrase .signed) :
      Phrase .signed
  | whole (operand : Phrase .range) : Phrase .percentage
  | percent (operand : Phrase .percentage) : Phrase .percentage
  | single (operand : Phrase .primary) : Phrase .range
  | colon (left right : Phrase .primary) : Phrase .range
  | number (n : Float) : Phrase .primary
  | string (s : String) : Phrase .primary
  | error (code : ErrorCode) : Phrase .primary
  | reference (ref : Reference) : Phrase .primary
  | name (label : String) : Phrase .primary
  | parens (inner : Phrase .expression) : Phrase .primary
  | emptyArray : Phrase .primary
  | array (rows : Phrase .rows) : Phrase .primary
  | emptyCall (label : String) : Phrase .primary
  | call (label : String) (args : Phrase .arguments) : Phrase .primary
  | lastArgument (arg : Phrase .expression) : Phrase .arguments
  | argument (arg : Phrase .expression) (args : Phrase .arguments) : Phrase .arguments
  | lastCell (cell : Phrase .expression) : Phrase .row
  | cell (cell : Phrase .expression) (cells : Phrase .row) : Phrase .row
  | lastRow (row : Phrase .row) : Phrase .rows
  | row (row : Phrase .row) (rows : Phrase .rows) : Phrase .rows

namespace Phrase

/-- The tokens of a phrase. -/
def tokens {c : Stratum} : Phrase c → List Token
  | .expression p | .first p | .concat p | .sum p | .product p | .factor p | .base p | .unsigned p
  | .whole p | .single p | .lastArgument p | .lastCell p | .lastRow p => p.tokens
  | .binary l s _ _ r => l.tokens ++ .symbol s :: r.tokens
  | .power l r => l.tokens ++ .symbol .caret :: r.tokens
  | .sign s _ _ p => .symbol s :: p.tokens
  | .percent p => p.tokens ++ [.symbol .percent]
  | .colon l r => l.tokens ++ .symbol .colon :: r.tokens
  | .number n => [.number n]
  | .string s => [.string s]
  | .error code => [.error code]
  | .reference ref => [.reference ref]
  | .name label => [.identifier label]
  | .parens p => .symbol .leftParen :: p.tokens ++ [.symbol .rightParen]
  | .emptyArray => [.symbol .leftBrace, .symbol .rightBrace]
  | .array p => .symbol .leftBrace :: p.tokens ++ [.symbol .rightBrace]
  | .emptyCall label => [.identifier label, .symbol .leftParen, .symbol .rightParen]
  | .call label p => .identifier label :: .symbol .leftParen :: p.tokens ++ [.symbol .rightParen]
  | .argument p ps | .cell p ps => p.tokens ++ .symbol .comma :: ps.tokens
  | .row p ps => p.tokens ++ .symbol .semicolon :: ps.tokens

/-- The meaning of a phrase. -/
def tree : {c : Stratum} → Phrase c → c.Meaning
  | _, .expression p | _, .first p | _, .concat p | _, .sum p | _, .product p | _, .factor p
  | _, .base p | _, .unsigned p | _, .whole p | _, .single p | _, .parens p => p.tree
  | _, .binary l _ op _ r => Expr.binary op l.tree r.tree
  | _, .power l r => Expr.binary .power l.tree r.tree
  | _, .sign _ op _ p => Expr.unary op p.tree
  | _, .percent p => Expr.unary .percent p.tree
  | _, .colon l r => Expr.joinRange l.tree r.tree
  | _, .number n => Expr.number n
  | _, .string s => Expr.string s
  | _, .error code => Expr.error code
  | _, .reference ref => Expr.reference ref
  | _, .name label => Expr.name label
  | _, .emptyArray => Expr.array []
  | _, .array p => Expr.array p.tree
  | _, .emptyCall label => Expr.call (Text.upper label) []
  | _, .call label p => Expr.call (Text.upper label) p.tree
  | _, .lastArgument p | _, .lastCell p | _, .lastRow p => [p.tree]
  | _, .argument p ps | _, .cell p ps | _, .row p ps => p.tree :: ps.tree

/-- The operators of a chain, or the percent signs of a percentage. -/
def links {c : Stratum} : Phrase c → Nat
  | .binary l .. => l.links + 1
  | .percent p => p.links + 1
  | _ => 0

/-- The levels of nesting that a phrase takes to read: one for each expression, sign and exponent
while it is read, and one for each operator of a chain until the chain ends. -/
def levels {c : Stratum} : Phrase c → Nat
  | .expression p | .sign _ _ _ p => p.levels + 1
  | .binary l _ _ _ r => max l.levels (l.links + 1 + r.levels)
  | .power l r => max l.levels (r.levels + 1)
  | .percent p => max p.levels (p.links + 1)
  | .colon l r | .argument l r | .cell l r | .row l r => max l.levels r.levels
  | .first p | .concat p | .sum p | .product p | .factor p | .base p | .unsigned p | .whole p
  | .single p | .parens p | .array p | .call _ p | .lastArgument p | .lastCell p | .lastRow p =>
    p.levels
  | .number _ | .string _ | .error _ | .reference _ | .name _ | .emptyArray | .emptyCall _ => 0

theorem links_le_levels {c : Stratum} (p : Phrase c) : p.links ≤ p.levels := by
  cases p <;> simp only [links, levels] <;> omega

/-- A primary as an operand of a sign or of a `^`. -/
def atom (p : Phrase .primary) : Phrase .signed :=
  .unsigned (.whole (.single p))

/-- An operand of a `^` as one of the operators `+` and `-`. -/
def term (p : Phrase .power) : Phrase (.operand .sum) :=
  .product (.first (.factor p))

/-- A sum as an expression. -/
def ofSum (p : Phrase (.chain .sum)) : Phrase .expression :=
  .expression (.first (.concat (.first (.sum p))))

end Phrase

/-- Tokens that the grammar derives, with the tree they mean. -/
def Derives (ts : List Token) (e : Expr) : Prop :=
  ∃ p : Phrase .expression, p.tokens = ts ∧ p.tree = e

end SheetFormula.Grammar
