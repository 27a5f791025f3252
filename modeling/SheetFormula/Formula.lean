import SheetFormula.Expr.Parser
import SheetFormula.Token.Lexer

/-!
# Formulas

A formula is the text of an expression, which blanks may surround and an `=` may start.
-/

namespace SheetFormula

/-- What a formula may be. -/
structure Options where
  /-- How deep an expression may be nested. -/
  maxDepth : Nat := 256
  /-- Whether calls may fall back on the library of functions. -/
  libraryFunctions : Bool := true
  /-- Whether an `=` may start a formula. -/
  leadingEquals : Bool := true
  deriving DecidableEq, Repr

namespace Formula

/-- The text of the expression of a formula: without blanks around it and without the `=` that may
start it. -/
def body (options : Options) (text : String) : String :=
  match options.leadingEquals, Text.trimBlanks text.toList with
  | true, '=' :: cs => String.ofList cs
  | _, cs => String.ofList cs

/-- The expression of a formula. All its tokens are read first, so a fault in a token comes before
any other. -/
def parse (options : Options) (text : String) : Except Failure Expr := do
  let tokens ← Token.ofText (body options text)
  if tokens.isEmpty then
    throw (.parse .emptyFormula)
  else
    Expr.ofTokens options.maxDepth tokens

end Formula

end SheetFormula
