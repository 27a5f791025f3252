import SheetFormula.Text.CaseTable
import SheetFormula.Text.CodePoints

/-!
# Upper and lower case

The full case mappings of Unicode: a character may become several (`ß` has the upper case `SS`),
and a capital sigma that ends a word becomes the final small sigma.

* `upperChar`, `lowerChar`: the mapping of one character; within ASCII it is that of `Char`
  (`upperChar_ascii`, `lowerChar_ascii`).
* `upper`, `lower`: the mapping of a text.
-/

namespace SheetFormula.Text

/-- The mapping of a character beyond ASCII that the two tables give; other characters stay. -/
def mapByTable (runs : List CaseRun) (expansions : List (Nat × List Nat)) (c : Char) : List Char :=
  match expansions.lookup c.toNat with
  | some ns => ns.map Char.ofNat
  | none =>
    match runs.findSome? (·.image? c.toNat) with
    | some n => [Char.ofNat n]
    | none => [c]

/-- The upper case of one character. -/
def upperChar (c : Char) : List Char :=
  if c.toNat < 0x80 then [c.toUpper] else mapByTable upperRuns upperExpansions c

/-- The lower case of one character outside of any word. -/
def lowerChar (c : Char) : List Char :=
  if c.toNat < 0x80 then [c.toLower] else mapByTable lowerRuns lowerExpansions c

theorem upperChar_ascii {c : Char} (h : c.toNat < 0x80) : upperChar c = [c.toUpper] :=
  if_pos h

theorem lowerChar_ascii {c : Char} (h : c.toNat < 0x80) : lowerChar c = [c.toLower] :=
  if_pos h

/-- The upper case of a text. -/
def upper (s : String) : String :=
  String.ofList (s.toList.flatMap upperChar)

/-- Whether a character has the property `Cased`. -/
def isCased (c : Char) : Bool :=
  CodeRanges.has casedRanges c.toNat

/-- Whether a character has the property `Case_Ignorable`. -/
def isCaseIgnorable (c : Char) : Bool :=
  CodeRanges.has caseIgnorableRanges c.toNat

/-- Whether the first character that is not ignorable is cased. -/
def meetsCased (cs : List Char) : Bool :=
  match cs.dropWhile isCaseIgnorable with
  | c :: _ => isCased c
  | [] => false

/-- The lower case of a capital sigma with the characters `before` it, nearest first, and `after`
it: final where a word ends. -/
def lowerSigma (before after : List Char) : Char :=
  if meetsCased before && !meetsCased after then 'ς' else 'σ'

/-- The lower case of the characters that follow `before`, nearest first. -/
def lowerAfter (before : List Char) : List Char → List Char
  | [] => []
  | c :: cs =>
    (if c = 'Σ' then [lowerSigma before cs] else lowerChar c) ++ lowerAfter (c :: before) cs

/-- The lower case of a text. -/
def lower (s : String) : String :=
  String.ofList (lowerAfter [] s.toList)

end SheetFormula.Text
