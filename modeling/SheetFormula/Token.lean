import SheetFormula.Decimal.Style
import SheetFormula.ErrorCode
import SheetFormula.Reference
import SheetFormula.Text.Quoted

/-!
# Tokens

The words of a formula: literals, names, references, and the symbols that stand for operators and
delimiters. `Token.describe` is how messages show a token.
-/

namespace SheetFormula

/-- An operator or a delimiter. -/
inductive Symbol where
  | plus
  | minus
  | star
  | slash
  | caret
  | percent
  | ampersand
  | equal
  | notEqual
  | lessThan
  | lessEqual
  | greaterThan
  | greaterEqual
  | colon
  | comma
  | semicolon
  | leftParen
  | rightParen
  | leftBrace
  | rightBrace
  deriving DecidableEq, Repr

namespace Symbol

/-- The characters of a symbol. -/
def spelling : Symbol → List Char
  | .plus => ['+']
  | .minus => ['-']
  | .star => ['*']
  | .slash => ['/']
  | .caret => ['^']
  | .percent => ['%']
  | .ampersand => ['&']
  | .equal => ['=']
  | .notEqual => ['<', '>']
  | .lessThan => ['<']
  | .lessEqual => ['<', '=']
  | .greaterThan => ['>']
  | .greaterEqual => ['>', '=']
  | .colon => [':']
  | .comma => [',']
  | .semicolon => [';']
  | .leftParen => ['(']
  | .rightParen => [')']
  | .leftBrace => ['{']
  | .rightBrace => ['}']

/-- The name of a symbol in messages. -/
def name : Symbol → String
  | .plus => "Plus"
  | .minus => "Minus"
  | .star => "Star"
  | .slash => "Slash"
  | .caret => "Caret"
  | .percent => "Percent"
  | .ampersand => "Ampersand"
  | .equal => "Equal"
  | .notEqual => "NotEqual"
  | .lessThan => "LessThan"
  | .lessEqual => "LessEqual"
  | .greaterThan => "GreaterThan"
  | .greaterEqual => "GreaterEqual"
  | .colon => "Colon"
  | .comma => "Comma"
  | .semicolon => "Semicolon"
  | .leftParen => "LeftParen"
  | .rightParen => "RightParen"
  | .leftBrace => "LeftBrace"
  | .rightBrace => "RightBrace"

end Symbol

/-- The name of an error code in messages. -/
def ErrorCode.title : ErrorCode → String
  | .div0 => "Div0"
  | .name => "Name"
  | .na => "Na"
  | .null => "Null"
  | .num => "Num"
  | .ref => "Ref"
  | .value => "Value"
  | .error => "Error"

/-- A word of a formula. -/
inductive Token where
  | number (n : Float)
  | string (s : String)
  | error (code : ErrorCode)
  /-- The name of a function or a variable. -/
  | identifier (name : String)
  | reference (ref : Reference)
  | symbol (sym : Symbol)
  deriving DecidableEq

namespace Token

/-- Messages write a number with a point, or with an exponent where it is below `10 ^ (-4)` or from
`10 ^ 16` on. -/
def numberStyle : Decimal.Style :=
  ⟨some (-4, 15), true⟩

/-- A token as messages show it. -/
def describe : Token → String
  | .number n => "Number(" ++ numberStyle.format n ++ ")"
  | .string s => "String(" ++ Text.quoted s ++ ")"
  | .error code => "Error(" ++ code.title ++ ")"
  | .identifier name => "Identifier(" ++ Text.quoted name ++ ")"
  | .reference ⟨.cell, label⟩ => "CellRef(" ++ Text.quoted label ++ ")"
  | .reference ⟨.named, label⟩ => "NamedRef(" ++ Text.quoted label ++ ")"
  | .symbol sym => sym.name

/-- A token that need not be there, as messages show it. -/
def describeOption : Option Token → String
  | some token => "Some(" ++ token.describe ++ ")"
  | none => "None"

end Token

end SheetFormula
