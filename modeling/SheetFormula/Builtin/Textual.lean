import SheetFormula.Builtin.Argument
import SheetFormula.Text.Spaces

/-!
# Functions of texts

Lengths and counts are in characters.
-/

namespace SheetFormula.Builtin.Textual

/-- The number of characters. -/
def length (args : List Value) : Except ErrorCode Value := do
  let s ← Argument.text args 0
  return .number (Float.ofNat s.toList.length)

/-- The first characters, one by default. -/
def left (args : List Value) : Except ErrorCode Value := do
  let s ← Argument.text args 0
  let n ← Argument.count args 1
  return .string (String.ofList (s.toList.take n))

/-- The last characters, one by default. -/
def right (args : List Value) : Except ErrorCode Value := do
  let s ← Argument.text args 0
  let n ← Argument.count args 1
  return .string (String.ofList (s.toList.drop (s.toList.length - n)))

/-- The text in upper case. -/
def upper (args : List Value) : Except ErrorCode Value := do
  let s ← Argument.text args 0
  return .string (Text.upper s)

/-- The text in lower case. -/
def lower (args : List Value) : Except ErrorCode Value := do
  let s ← Argument.text args 0
  return .string (Text.lower s)

/-- The text without spaces at its ends and with single spaces within. -/
def trim (args : List Value) : Except ErrorCode Value := do
  let s ← Argument.text args 0
  return .string (Text.squeezeSpaces s)

end SheetFormula.Builtin.Textual
