import SheetFormula.Token

/-!
# Failures

Why a formula has no value. Failures keep their cause; `Failure.message` words it and
`Failure.code` is the error code that the formula evaluates to.
-/

namespace SheetFormula

/-- Why no token can be read. -/
inductive LexFault where
  | unexpectedEnd
  | unexpectedCharacter (c : Char)
  | unterminatedString
  | invalidNumber (text : String)
  | unknownError (text : String)
  | missingName
  | invalidReference (text : String)
  /-- A fault found outside of this library, in its own words. -/
  | reported (message : String)
  deriving DecidableEq

/-- What is wrong with the characters of a formula. -/
def LexFault.message : LexFault → String
  | .unexpectedEnd => "unexpected end of input"
  | .unexpectedCharacter c => "unexpected character '" ++ c.toString ++ "'"
  | .unterminatedString => "unterminated string literal"
  | .invalidNumber text => "invalid number '" ++ text ++ "'"
  | .unknownError text => "unknown error literal '" ++ text ++ "'"
  | .missingName => "'@' must be followed by a name"
  | .invalidReference text => "invalid reference '" ++ text ++ "'"
  | .reported message => message

/-- Why tokens form no expression. -/
inductive ParseFault where
  | emptyFormula
  | unexpectedEnd
  | unexpectedToken (token : Token)
  | trailingToken (token : Token)
  | expected (symbol : Symbol) (got : Option Token)
  | expectedArraySeparator
  /-- A fault found outside of this library, in its own words. -/
  | reported (message : String)
  deriving DecidableEq

/-- What is wrong with the tokens of a formula. -/
def ParseFault.message : ParseFault → String
  | .emptyFormula => "Empty formula"
  | .unexpectedEnd => "Unexpected end of formula"
  | .unexpectedToken token => "Unexpected token: " ++ token.describe
  | .trailingToken token => "Unexpected token after expression: " ++ token.describe
  | .expected symbol got => "Expected " ++ symbol.name ++ ", got " ++ Token.describeOption got
  | .expectedArraySeparator => "Expected ',' ';' or '\x7d' in array"
  | .reported message => message

/-- Why a formula has no value. -/
inductive Failure where
  /-- The characters from a byte offset on are no token. -/
  | lex (offset : Nat) (fault : LexFault)
  | parse (fault : ParseFault)
  /-- The expression is nested deeper than the limit. -/
  | tooDeep (limit : Nat)
  /-- Evaluation gives an error code. -/
  | signal (code : ErrorCode)
  /-- A function supplied from outside fails in its own words. -/
  | other (message : String)
  deriving DecidableEq

namespace Failure

/-- The wording of a failure. -/
def message : Failure → String
  | .lex offset fault => "Lex error at offset " ++ Nat.repr offset ++ ": " ++ fault.message
  | .parse fault => "Parse error: " ++ fault.message
  | .tooDeep limit => "Expression nested deeper than " ++ Nat.repr limit ++ " levels"
  | .signal code => code.text
  | .other message => message

/-- The error code of a failure: its own if it has one, that which its words point at if they come
from outside, and `#ERROR!` for a formula that is not well formed. -/
def code : Failure → ErrorCode
  | .lex .. | .parse _ | .tooDeep _ => .error
  | .signal code => code
  | .other message => .ofMessage message

end Failure

end SheetFormula
