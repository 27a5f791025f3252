import SheetFormula.Decimal.Style
import SheetFormula.Text.Blank

/-!
# Values

What a formula computes with: numbers, texts, truth values, two kinds of blank and arrays, which
nest. A block of cells is an array of its rows.

* `Value.toNumber?`, `Value.toBool?`: the coercions of operators and functions.
* `Value.text`: the text that joins and text functions see; `Value.display`: the text for a reader.
* `Value.leaves`: the values that are no arrays, in order.
-/

namespace SheetFormula

/-- A value of a formula. -/
inductive Value where
  /-- The value of a cell that nothing is stored in. -/
  | empty
  /-- A stored blank. -/
  | null
  | boolean (b : Bool)
  | number (n : Float)
  | string (s : String)
  | array (items : List Value)
  deriving Inhabited

namespace Value

/-- Rows of cells as one value. -/
def block (rows : List (List Value)) : Value :=
  .array (rows.map .array)

/-- The double nearest to an integer as a value. -/
def ofInt (n : Int) : Value :=
  .number (Float.ofInt n)

/-- A value that need not be there; a missing one is a stored blank. -/
def ofOption : Option Value → Value
  | some v => v
  | none => .null

/-- Whether a value is that of an unused cell. -/
def isEmpty : Value → Bool
  | .empty => true
  | _ => false

/-- Whether a value is blank, of either kind. -/
def isBlank : Value → Bool
  | .empty | .null => true
  | _ => false

/-- Whether a value is an array. -/
def isArray : Value → Bool
  | .array _ => true
  | _ => false

/-- The name of a value's type. -/
def typeName : Value → String
  | .empty => "empty"
  | .null => "null"
  | .boolean _ => "boolean"
  | .number _ => "number"
  | .string _ => "string"
  | .array _ => "array"

/-- The finite number that a text is between blanks. -/
def readNumber? (s : String) : Option Float :=
  ((Decimal.Numeral.read? (Text.trimBlanks s.toList)).map (·.toFloat)).filter Float.isFinite

/-- The number that a value stands for: a blank for zero, a truth value for zero or one, a text for
the number that it spells; an array for none. -/
def toNumber? : Value → Option Float
  | .empty | .null => some 0
  | .boolean b => some (if b then 1 else 0)
  | .number n => some n
  | .string s => readNumber? s
  | .array _ => none

/-- The truth value that a text spells, in any case of ASCII letters. -/
def readBool? (s : String) : Option Bool :=
  let word := s.toList.map Char.toUpper
  if word = "TRUE".toList then some true
  else if word = "FALSE".toList then some false
  else none

/-- The truth value that a value stands for: a blank is false, and a number other than zero true. -/
def toBool? : Value → Option Bool
  | .empty | .null => some false
  | .boolean b => some b
  | .number n => some (n != 0)
  | .string s => readBool? s
  | .array _ => none

/-- Numbers in texts are written out in full, integers without a point. -/
def numberStyle : Decimal.Style :=
  ⟨none, false⟩

mutual

/-- The text of a value: nothing for a blank, and the texts of its items with commas between them
for an array. -/
def text : Value → String
  | .empty | .null => ""
  | .boolean b => if b then "TRUE" else "FALSE"
  | .number n => numberStyle.format n
  | .string s => s
  | .array items => ",".intercalate (texts items)

/-- The text of each value. -/
def texts : List Value → List String
  | [] => []
  | v :: vs => v.text :: texts vs

end

theorem texts_eq_map (vs : List Value) : texts vs = vs.map text := by
  induction vs with
  | nil => rfl
  | cons v vs ih => rw [texts, ih, List.map_cons]

/-- The text of a value for a reader, which tells a stored blank and an array apart from texts. -/
def display : Value → String
  | .null => "NULL"
  | .array items => "\x7b" ++ (array items).text ++ "\x7d"
  | v => v.text

mutual

/-- The values that are no arrays, from left to right. -/
def leaves : Value → List Value
  | .array items => leavesOf items
  | .empty => [.empty]
  | .null => [.null]
  | .boolean b => [.boolean b]
  | .number n => [.number n]
  | .string s => [.string s]

/-- The values that are no arrays in a list of values. -/
def leavesOf : List Value → List Value
  | [] => []
  | v :: vs => v.leaves ++ leavesOf vs

end

theorem leavesOf_eq_flatMap (vs : List Value) : leavesOf vs = vs.flatMap leaves := by
  induction vs with
  | nil => rfl
  | cons v vs ih => rw [leavesOf, ih, List.flatMap_cons]

end Value

end SheetFormula
