import SheetFormula.Text.Case
import SheetFormula.Text.Search

/-!
# Error codes

The closed set of errors that a formula can evaluate to. A code has a text, which is also how a
formula spells it, and a keyword, by which it is found in the message of a failure that carries no
code of its own.
-/

namespace SheetFormula

/-- An error that a formula can evaluate to. -/
inductive ErrorCode where
  /-- Division by zero. -/
  | div0
  /-- A name that nothing defines. -/
  | name
  /-- A value that is not available. -/
  | na
  /-- Ranges that have no cell in common. -/
  | null
  /-- A number out of range. -/
  | num
  /-- A reference to no cell. -/
  | ref
  /-- An operand of the wrong type. -/
  | value
  /-- Any other failure. -/
  | error
  deriving DecidableEq, Repr

namespace ErrorCode

/-- All codes, in the order in which messages are searched for them. -/
def all : List ErrorCode :=
  [.div0, .name, .na, .null, .num, .ref, .value, .error]

theorem mem_all (code : ErrorCode) : code ∈ all := by
  cases code <;> decide

/-- The text of a code. -/
def text : ErrorCode → String
  | .div0 => "#DIV/0!"
  | .name => "#NAME?"
  | .na => "#N/A"
  | .null => "#NULL!"
  | .num => "#NUM!"
  | .ref => "#REF!"
  | .value => "#VALUE!"
  | .error => "#ERROR!"

/-- The part of a message that points at a code. -/
def keyword : ErrorCode → String
  | .div0 => "DIV/0"
  | .name => "NAME"
  | .na => "N/A"
  | .null => "NULL"
  | .num => "NUM"
  | .ref => "REF"
  | .value => "VALUE"
  | .error => "ERROR"

/-- The code with a given text, in any letter case. -/
def ofText? (s : String) : Option ErrorCode :=
  all.find? fun code => code.text == Text.upper s

/-- The code that a message points at: the first whose keyword occurs in it, or `error`. -/
def ofMessage (message : String) : ErrorCode :=
  (all.find? fun code => Text.occursIn code.keyword.toList message.toList).getD .error

end ErrorCode

end SheetFormula
