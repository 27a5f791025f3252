/-!
# Words between spaces

A text is words with spaces between and around them; only the character U+0020 is a space.
`squeezeSpaces` leaves one space between two words and none elsewhere.
-/

namespace SheetFormula.Text

/-- The parts of a text before, between and after its spaces. -/
def splitSpaces : List Char → List (List Char)
  | [] => [[]]
  | c :: cs =>
    if c = ' ' then [] :: splitSpaces cs
    else
      match splitSpaces cs with
      | [] => [[c]]
      | part :: parts => (c :: part) :: parts

/-- The words of a text: the parts between its spaces that are not empty. -/
def words (cs : List Char) : List (List Char) :=
  (splitSpaces cs).filter (!·.isEmpty)

/-- The words of a text with one space between each two. -/
def squeezeSpaces (s : String) : String :=
  String.ofList ([' '].intercalate (words s.toList))

end SheetFormula.Text
