import SheetFormula.Text.CodePoints
import SheetFormula.Text.InvisibleTable

/-!
# Quoted text

A text in double quotes, as messages show it. Quotes and backslashes are escaped, and characters
that cannot be seen are spelled by name or by number.
-/

namespace SheetFormula.Text

/-- Whether a quoted text spells a character by its number. -/
def isInvisible (c : Char) : Bool :=
  if c.toNat < 0x7f then c.toNat < 0x20 else CodeRanges.has invisibleRanges c.toNat

/-- The code point of a character in hexadecimal digits, such as `\u` with `1f` in braces. -/
def numberedChar (c : Char) : List Char :=
  ['\\', 'u', '{'] ++ Nat.toDigits 16 c.toNat ++ ['}']

/-- One character within quotes. -/
def quotedChar (c : Char) : List Char :=
  if c = '\x00' then ['\\', '0']
  else if c = '\t' then ['\\', 't']
  else if c = '\n' then ['\\', 'n']
  else if c = '\r' then ['\\', 'r']
  else if c = '"' then ['\\', '"']
  else if c = '\\' then ['\\', '\\']
  else if isInvisible c then numberedChar c
  else [c]

/-- A text in double quotes. -/
def quoted (s : String) : String :=
  String.ofList ('"' :: s.toList.flatMap quotedChar ++ ['"'])

end SheetFormula.Text
