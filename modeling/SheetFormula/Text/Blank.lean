import SheetFormula.Text.CodePoints

/-!
# Blank characters

The characters with the Unicode property `White_Space`. They separate the tokens of a formula and
are cut off both ends of a text before it is read as a formula or a number.
-/

namespace SheetFormula.Text

/-- The 25 code points with the property `White_Space`. -/
def blankRanges : CodeRanges :=
  [(0x9, 0xd), (0x20, 0x20), (0x85, 0x85), (0xa0, 0xa0), (0x1680, 0x1680), (0x2000, 0x200a),
   (0x2028, 0x2029), (0x202f, 0x202f), (0x205f, 0x205f), (0x3000, 0x3000)]

/-- Whether a character is blank. -/
def isBlank (c : Char) : Bool :=
  blankRanges.has c.toNat

/-- The characters from the first that is not blank on. -/
def dropBlanks (cs : List Char) : List Char :=
  cs.dropWhile isBlank

/-- The characters between the first and the last that is not blank. -/
def trimBlanks (cs : List Char) : List Char :=
  (dropBlanks (dropBlanks cs).reverse).reverse

theorem length_dropBlanks_le (cs : List Char) : (dropBlanks cs).length ≤ cs.length :=
  (List.dropWhile_sublist isBlank).length_le

theorem takeWhile_append_dropBlanks (cs : List Char) :
    cs.takeWhile isBlank ++ dropBlanks cs = cs :=
  List.takeWhile_append_dropWhile

/-! ## Blanks around a text -/

/-- The blanks after the last character that is not blank, if there is such a character. -/
def blanksAfter (cs : List Char) : List Char :=
  ((dropBlanks cs).reverse.takeWhile isBlank).reverse

theorem isBlank_of_mem_blanksAfter {cs : List Char} : ∀ c ∈ blanksAfter cs, isBlank c := by
  intro c hc
  exact List.all_eq_true.1 List.all_takeWhile c (List.mem_reverse.1 hc)

theorem trimBlanks_append_blanksAfter (cs : List Char) :
    trimBlanks cs ++ blanksAfter cs = dropBlanks cs := by
  rw [trimBlanks, blanksAfter, ← List.reverse_append, takeWhile_append_dropBlanks,
    List.reverse_reverse]

theorem head?_dropBlanks (cs : List Char) : ∀ c ∈ (dropBlanks cs).head?, isBlank c = false := by
  intro c hc
  have first := List.head?_dropWhile_not isBlank cs
  rw [← dropBlanks, hc] at first
  exact first

theorem head?_trimBlanks (cs : List Char) : ∀ c ∈ (trimBlanks cs).head?, isBlank c = false := by
  have whole := trimBlanks_append_blanksAfter cs
  have first := head?_dropBlanks cs
  rw [← whole] at first
  cases h : trimBlanks cs with
  | nil => nofun
  | cons c cs' =>
    rw [h] at first
    exact first

theorem getLast?_trimBlanks (cs : List Char) :
    ∀ c ∈ (trimBlanks cs).getLast?, isBlank c = false := by
  rw [trimBlanks, List.getLast?_reverse]
  exact head?_dropBlanks _

theorem dropBlanks_of_head? {cs : List Char} (h : ∀ c ∈ cs.head?, isBlank c = false) :
    dropBlanks cs = cs := by
  cases cs with
  | nil => rfl
  | cons c cs =>
    rw [dropBlanks, List.dropWhile_cons_of_neg]
    simp [h c rfl]

theorem dropBlanks_append {blanks cs : List Char} (blank : ∀ c ∈ blanks, isBlank c) :
    dropBlanks (blanks ++ cs) = dropBlanks cs :=
  List.dropWhile_append_of_pos blank

/-- Without the blanks around it a text that starts and ends otherwise is left. -/
theorem trimBlanks_append {before cs after : List Char} (blankBefore : ∀ c ∈ before, isBlank c)
    (blankAfter : ∀ c ∈ after, isBlank c) (nonempty : cs ≠ [])
    (first : ∀ c ∈ cs.head?, isBlank c = false) (last : ∀ c ∈ cs.getLast?, isBlank c = false) :
    trimBlanks (before ++ (cs ++ after)) = cs := by
  have left : dropBlanks (before ++ (cs ++ after)) = cs ++ after := by
    rw [dropBlanks_append blankBefore]
    cases cs with
    | nil => exact absurd rfl nonempty
    | cons c cs => exact dropBlanks_of_head? first
  rw [trimBlanks, left, List.reverse_append,
    dropBlanks_append fun c hc => blankAfter c (List.mem_reverse.1 hc),
    dropBlanks_of_head? (by rwa [List.head?_reverse]), List.reverse_reverse]

end SheetFormula.Text
