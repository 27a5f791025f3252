import Mathlib.Data.Nat.Digits.Defs
import SheetFormula.Proofs.Boundary

/-!
# Labels of cells

A label of a cell is letters and digits, each with an optional `$` in front (`CellLabel`). A text is
one token that refers to a cell if it is a label (`Token.ofText_eq_cell_iff`), and an address if it
is a label with its column and its row within the grid (`Address.parse_eq_ok_iff`): the letters are
a numeral in bijective base 26, and the digits one in base 10.
-/

namespace SheetFormula

/-- A `$`, or nothing. -/
def dollar (fixed : Bool) : List Char :=
  if fixed then ['$'] else []

/-- A label of a cell in its parts. -/
@[ext]
structure CellLabel where
  columnFixed : Bool
  letters : List Char
  rowFixed : Bool
  digits : List Char
  letters_ne_nil : letters ≠ []
  digits_ne_nil : digits ≠ []
  isAlpha_of_mem : ∀ c ∈ letters, c.isAlpha
  isDigit_of_mem : ∀ c ∈ digits, c.isDigit

namespace CellLabel

/-- The characters of a label. -/
def chars (label : CellLabel) : List Char :=
  dollar label.columnFixed ++ (label.letters ++ (dollar label.rowFixed ++ label.digits))

/-- The text of a label. -/
def text (label : CellLabel) : String :=
  String.ofList label.chars

/-- The number of the column, from one: the numeral of the letters in bijective base 26. -/
def column (label : CellLabel) : Nat :=
  Nat.ofDigits 26 (label.letters.map Column.digit).reverse

/-- The number of the row, from one: the numeral of the digits in base 10. -/
def row (label : CellLabel) : Nat :=
  Nat.ofDigits 10 (label.digits.map fun d => d.toNat - '0'.toNat).reverse

end CellLabel

/-! ## The parts of a label -/

namespace Address

theorem dollar_append_splitDollar (cs : List Char) :
    dollar (splitDollar cs).1 ++ (splitDollar cs).2 = cs := by
  unfold splitDollar
  split <;> rfl

theorem head?_dollar (fixed : Bool) : ∀ c ∈ (dollar fixed).head?, c = '$' := by
  cases fixed with
  | false => nofun
  | true =>
    rintro _ ⟨⟩
    rfl

theorem splitDollar_of_head? {cs : List Char} (h : ∀ c ∈ cs.head?, c ≠ '$') :
    splitDollar cs = (false, cs) := by
  unfold splitDollar
  split
  · exact absurd rfl (h '$' rfl)
  · rfl

theorem splitDollar_dollar_append (fixed : Bool) {cs : List Char} (h : ∀ c ∈ cs.head?, c ≠ '$') :
    splitDollar (dollar fixed ++ cs) = (fixed, cs) := by
  cases fixed with
  | false => exact splitDollar_of_head? h
  | true => rfl

end Address

namespace CellLabel

open Address (splitDollar)

/-- The characters of a label come apart into its parts. -/
theorem split (label : CellLabel) :
    splitDollar label.chars =
        (label.columnFixed, label.letters ++ (dollar label.rowFixed ++ label.digits)) ∧
      (label.letters ++ (dollar label.rowFixed ++ label.digits)).takeWhile Char.isAlpha =
        label.letters ∧
      splitDollar ((label.letters ++ (dollar label.rowFixed ++ label.digits)).dropWhile
        Char.isAlpha) = (label.rowFixed, label.digits) := by
  have noLetter : ∀ c ∈ (dollar label.rowFixed ++ label.digits).head?, c.isAlpha = false := by
    refine Token.forall_head?_append (fun c hc => ?_) fun c hc => ?_
    · rw [Address.head?_dollar _ c hc]
      decide
    · rw [Bool.eq_false_iff]
      intro letter
      have digit := label.isDigit_of_mem c (List.mem_of_mem_head? hc)
      rw [Token.isDigit_of_isAlpha letter] at digit
      cases digit
  have letters := Token.takeWhile_append_stop label.isAlpha_of_mem noLetter
  refine ⟨Address.splitDollar_dollar_append _ ?_, letters.1, ?_⟩
  · intro c hc
    cases hl : label.letters with
    | nil => exact absurd hl label.letters_ne_nil
    | cons d ds =>
      rw [hl] at hc
      cases hc
      exact Token.ne_of_class (label.isAlpha_of_mem c (by simp [hl])) (by decide)
  · rw [letters.2]
    refine Address.splitDollar_dollar_append _ fun c hc => ?_
    exact Token.ne_of_class (label.isDigit_of_mem c (List.mem_of_mem_head? hc)) (by decide)

/-- Characters that come apart into letters and digits are those of a label. -/
theorem exists_of_split {cs : List Char}
    (letters : (splitDollar cs).2.takeWhile Char.isAlpha ≠ [])
    (digits : (splitDollar ((splitDollar cs).2.dropWhile Char.isAlpha)).2 ≠ [])
    (all : ∀ c ∈ (splitDollar ((splitDollar cs).2.dropWhile Char.isAlpha)).2, c.isDigit) :
    ∃ label : CellLabel, label.chars = cs := by
  refine ⟨{ columnFixed := (splitDollar cs).1
            letters := (splitDollar cs).2.takeWhile Char.isAlpha
            rowFixed := (splitDollar ((splitDollar cs).2.dropWhile Char.isAlpha)).1
            digits := (splitDollar ((splitDollar cs).2.dropWhile Char.isAlpha)).2
            letters_ne_nil := letters
            digits_ne_nil := digits
            isAlpha_of_mem := fun _ hc => List.mem_takeWhile_imp hc
            isDigit_of_mem := all }, ?_⟩
  rw [chars, Address.dollar_append_splitDollar, List.takeWhile_append_dropWhile,
    Address.dollar_append_splitDollar]

/-- A text is a label in one way only. -/
theorem text_injective : Function.Injective text := by
  intro a b h
  have same : a.chars = b.chars := String.ofList_injective h
  obtain ⟨columnA, lettersA, rowA⟩ := a.split
  obtain ⟨columnB, lettersB, rowB⟩ := b.split
  rw [same, columnB, Prod.mk.injEq] at columnA
  rw [← columnA.2, lettersB] at lettersA
  rw [← columnA.2, rowB, Prod.mk.injEq] at rowA
  exact CellLabel.ext columnA.1.symm lettersA.symm rowA.1.symm rowA.2.symm

theorem text_eq_iff {label : CellLabel} {text : String} :
    label.text = text ↔ label.chars = text.toList := by
  rw [CellLabel.text, ← String.toList_inj, String.toList_ofList]

end CellLabel

/-! ## Labels as tokens -/

namespace Token

theorem dropDollar_eq (cs : List Char) : dropDollar cs = (Address.splitDollar cs).2 := by
  cases cs with
  | nil => rfl
  | cons c cs => by_cases h : c = '$' <;> simp [dropDollar, Address.splitDollar, h]

theorem startsWithLetter_eq (cs : List Char) :
    startsWithLetter cs = !(cs.takeWhile Char.isAlpha).isEmpty := by
  cases cs with
  | nil => rfl
  | cons c cs => cases h : c.isAlpha <;> simp [startsWithLetter, h]

/-- Labels of cells are what they are taken for. -/
theorem isCellLabel_iff {cs : List Char} :
    isCellLabel cs = true ↔ ∃ label : CellLabel, label.chars = cs := by
  simp only [isCellLabel, dropDollar_eq, startsWithLetter_eq, Bool.and_eq_true,
    Bool.not_eq_true', List.isEmpty_eq_false_iff, List.all_eq_true]
  constructor
  · rintro ⟨⟨letters, starts⟩, all⟩
    refine CellLabel.exists_of_split letters (fun none => ?_) all
    rw [none] at starts
    cases starts
  · rintro ⟨label, rfl⟩
    obtain ⟨columnSplit, letters, rowSplit⟩ := label.split
    rw [columnSplit, letters, rowSplit]
    refine ⟨⟨label.letters_ne_nil, ?_⟩, label.isDigit_of_mem⟩
    cases hd : label.digits with
    | nil => exact absurd hd label.digits_ne_nil
    | cons d ds => exact label.isDigit_of_mem d (by simp [hd])

theorem isLabelChar_of_mem_chars (label : CellLabel) :
    ∀ c ∈ label.chars, isLabelChar c = true := by
  have ofDollar : ∀ fixed, ∀ c ∈ dollar fixed, isLabelChar c = true := by
    intro fixed
    cases fixed <;> simp [dollar, isLabelChar]
  simp only [CellLabel.chars, List.forall_mem_append]
  refine ⟨ofDollar _, fun c hc => ?_, ofDollar _, fun c hc => ?_⟩
  · exact isLabelChar_of_isAlpha (label.isAlpha_of_mem c hc)
  · simp [isLabelChar, isNameChar, Char.isAlphanum, label.isDigit_of_mem c hc]

/-- A label of a cell is read as a reference, up to the end of the text. -/
theorem scan_label (label : CellLabel) :
    scan label.chars = .ok (.reference ⟨.cell, label.text⟩, []) := by
  have nothing : ∀ c ∈ ([] : List Char).head?, isLabelChar c = false := nofun
  have whole := takeWhile_append_stop (isLabelChar_of_mem_chars label) nothing
  have isLabel : isCellLabel label.chars = true := isCellLabel_iff.2 ⟨label, rfl⟩
  have read : scanLabel label.chars = .ok (.reference ⟨.cell, label.text⟩, []) := by
    rw [List.append_nil] at whole
    simp only [scanLabel, whole, isLabel, Bool.true_and]
    rfl
  refine Scanned.scan ?_
  cases hc : label.chars with
  | nil =>
    rw [hc] at isLabel
    cases isLabel
  | cons c cs =>
    rw [hc] at read
    refine .cell ?_ read
    obtain ⟨d, ds, letters⟩ := List.exists_cons_of_ne_nil label.letters_ne_nil
    rw [CellLabel.chars, letters] at hc
    cases fixed : label.columnFixed with
    | true =>
      rw [fixed] at hc
      exact .inr (.inr (List.cons.inj hc).1.symm)
    | false =>
      rw [fixed] at hc
      rw [← (List.cons.inj hc).1]
      exact .inl (label.isAlpha_of_mem d (by simp [letters]))

/-- A reference to a cell has a label of a cell. -/
theorem exists_label_of_scan {cs rest : List Char} {label : String}
    (h : scan cs = .ok (.reference ⟨.cell, label⟩, rest)) :
    ∃ parts : CellLabel, parts.text = label := by
  generalize ht : Token.reference ⟨.cell, label⟩ = t at h
  cases scanned_of_scan h with
  | symbol | less | greater | string | number | error | name => cases ht
  | named read =>
    cases ht
    simp only [scanNamed] at read
    split at read <;> cases read
  | cell first read =>
    cases ht
    simp only [scanLabel] at read
    split at read
    · rename_i isLabel
      obtain ⟨parts, chars⟩ := isCellLabel_iff.1 (Bool.and_eq_true_iff.1 isLabel).1
      cases read
      exact ⟨parts, by rw [CellLabel.text, chars]⟩
    · split at read <;> cases read

/-- A named reference is an `@` and a name. -/
theorem exists_name_of_scan {cs rest : List Char} {label : String}
    (h : scan cs = .ok (.reference ⟨.named, label⟩, rest)) :
    ∃ name, label = String.ofList ('@' :: name) ∧ name ≠ [] ∧ ∀ c ∈ name, isNameChar c := by
  generalize ht : Token.reference ⟨.named, label⟩ = t at h
  cases scanned_of_scan h with
  | symbol | less | greater | string | number | error | name => cases ht
  | named read =>
    cases ht
    simp only [scanNamed] at read
    split at read
    · cases read
    · rename_i nonempty
      cases read
      exact ⟨_, rfl, by simpa using nonempty, fun _ hc => List.mem_takeWhile_imp hc⟩
  | cell first read =>
    cases ht
    simp only [scanLabel] at read
    split at read
    · cases read
    · split at read <;> cases read

/-- The label of a reference tells its kind. -/
theorem ofLabel_of_scan {cs rest : List Char} {ref : Reference}
    (h : scan cs = .ok (.reference ref, rest)) : Reference.ofLabel ref.label = ref := by
  obtain ⟨kind, label⟩ := ref
  cases kind with
  | cell =>
    obtain ⟨parts, rfl⟩ := exists_label_of_scan h
    unfold Reference.ofLabel
    split
    · rename_i starts
      rw [CellLabel.text, String.toList_ofList] at starts
      have isLabelChar := isLabelChar_of_mem_chars parts '@' (by simp [starts])
      cases isLabelChar
    · rfl
  | named =>
    obtain ⟨name, rfl, -⟩ := exists_name_of_scan h
    simp only [Reference.ofLabel, String.toList_ofList]

/-- A text is one token that refers to a cell, the whole text being its label, if it is a label of
a cell. -/
theorem ofText_eq_cell_iff (text : String) :
    ofText text = .ok [.reference ⟨.cell, text⟩] ↔ ∃ label : CellLabel, label.text = text := by
  constructor
  · intro h
    obtain ⟨-, none⟩ | ⟨_, _, _, scanned, -, same⟩ := tokensOf_eq_ok (tokensOf_of_ofText h)
    · cases none
    · cases same
      exact exists_label_of_scan scanned
  · rintro ⟨label, rfl⟩
    have start : Text.dropBlanks label.chars = label.chars := Text.dropBlanks_of_head? fun c hc =>
      isBlank_of_isLabelChar (isLabelChar_of_mem_chars label c (List.mem_of_mem_head? hc))
    have one := tokensOf_of_scan (start.symm ▸ scan_label label)
    rw [ofText, CellLabel.text, String.toList_ofList, one, tokensOf_nil]
    rfl

end Token

/-! ## Labels as addresses -/

theorem ofDigits_reverse (base : Nat) (ds : List Nat) :
    Nat.ofDigits base ds.reverse = ds.foldl (fun n d => d + base * n) 0 := by
  rw [Nat.ofDigits_eq_foldr, List.foldr_reverse]
  rfl

theorem CellLabel.row_eq (label : CellLabel) : label.row = Decimal.ofDigits label.digits := by
  rw [row, ofDigits_reverse, List.foldl_map, Decimal.ofDigits]
  simp only [Nat.add_comm]

namespace Column

/-- The numeral of letters that follow on letters with the numeral `n`. -/
def numeralFrom (n : Nat) (cs : List Char) : Nat :=
  cs.foldl (fun n c => n * 26 + digit c) n

theorem column_eq (label : CellLabel) : label.column = numeralFrom 0 label.letters := by
  rw [CellLabel.column, ofDigits_reverse, List.foldl_map, numeralFrom]
  simp only [Nat.add_comm, Nat.mul_comm]

theorem le_numeralFrom (n : Nat) (cs : List Char) : n ≤ numeralFrom n cs := by
  induction cs generalizing n with
  | nil => exact Nat.le_refl n
  | cons c cs ih =>
    have := ih (n * 26 + digit c)
    rw [numeralFrom, List.foldl_cons]
    rw [numeralFrom] at this
    omega

/-- Numerals grow with each letter, so letters may be given up at the first numeral beyond the last
column. -/
theorem readFrom_eq {letters : String} {n : Nat} (le : n ≤ maxColumns.toNat) {cs : List Char}
    (alpha : ∀ c ∈ cs, c.isAlpha) :
    readFrom letters n cs =
      if numeralFrom n cs ≤ maxColumns.toNat then .ok (numeralFrom n cs)
      else .error (.columnOutOfBounds letters) := by
  induction cs generalizing n with
  | nil => rw [readFrom, numeralFrom, List.foldl_nil, if_pos le]
  | cons c cs ih =>
    obtain ⟨first, others⟩ := List.forall_mem_cons.1 alpha
    have step : numeralFrom n (c :: cs) = numeralFrom (n * 26 + digit c) cs := rfl
    rw [readFrom, first, Bool.not_true, if_neg Bool.false_ne_true, step]
    by_cases passed : maxColumns.toNat < n * 26 + digit c
    · have := le_numeralFrom (n * 26 + digit c) cs
      rw [if_pos passed, if_neg (by omega)]
    · rw [if_neg passed, ih (Nat.not_lt.1 passed) others]

theorem ofLetters_eq {cs : List Char} (nonempty : cs ≠ []) (alpha : ∀ c ∈ cs, c.isAlpha) :
    ofLetters (String.ofList cs) =
      if numeralFrom 0 cs ≤ maxColumns.toNat then .ok (numeralFrom 0 cs - 1).toUInt16
      else .error (.columnOutOfBounds (String.ofList cs)) := by
  have notEmpty : (String.ofList cs).isEmpty = false := by
    simpa [String.isEmpty_iff, String.ofList_eq_empty_iff] using nonempty
  rw [ofLetters, notEmpty, if_neg Bool.false_ne_true, String.toList_ofList,
    readFrom_eq (Nat.zero_le _) alpha]
  split <;> rfl

theorem one_le_digit (c : Char) : 1 ≤ digit c :=
  Nat.le_add_left 1 _

end Column

namespace Address

theorem readRow_eq_ok_iff {text : String} {ds : List Char} {row : UInt32} :
    readRow text ds = .ok row ↔ ds ≠ [] ∧ (∀ d ∈ ds, d.isDigit) ∧ 1 ≤ Decimal.ofDigits ds ∧
      Decimal.ofDigits ds ≤ maxRows.toNat ∧ row = (Decimal.ofDigits ds - 1).toUInt32 := by
  have grid : maxRows.toNat < UInt32.size := by decide
  simp only [readRow, Bool.or_eq_true, List.isEmpty_iff, Bool.not_eq_true',
    List.all_eq_false, decide_eq_true_eq]
  split
  · rename_i bad
    refine iff_of_false (by simp) ?_
    rintro ⟨nonempty, digits, -, high, -⟩
    rcases bad with (empty | ⟨d, hd, noDigit⟩) | large
    · exact nonempty empty
    · exact noDigit (digits d hd)
    · omega
  · rename_i good
    simp only [not_or, not_exists, not_and, Decidable.not_not] at good
    obtain ⟨⟨nonempty, digits⟩, -⟩ := good
    split
    · exact iff_of_false (by simp) (by omega)
    split
    · exact iff_of_false (by simp) (by omega)
    · rw [Except.ok.injEq, eq_comm]
      refine ⟨fun h => ⟨nonempty, digits, by omega, by omega, h⟩, fun h => h.2.2.2.2⟩

/-- A text with the characters of a label is read by the parts of the label. -/
theorem parse_text (label : CellLabel) :
    parse label.text = (do
      let column ← Column.ofLetters (String.ofList label.letters)
      let row ← readRow label.text label.digits
      return ⟨row, column, label.rowFixed, label.columnFixed⟩) := by
  obtain ⟨columnSplit, letters, rowSplit⟩ := label.split
  have notEmpty : label.text.isEmpty = false := by
    rw [Bool.eq_false_iff, ne_eq, String.isEmpty_iff, CellLabel.text_eq_iff]
    intro none
    have := label.letters_ne_nil
    simp_all [CellLabel.chars]
  have some : label.letters.isEmpty = false := by
    simpa using label.letters_ne_nil
  rw [parse, notEmpty, CellLabel.text, String.toList_ofList]
  simp only [columnSplit, letters, rowSplit, some, Bool.false_eq_true, if_false]

theorem exists_label_of_parse {text : String} {address : Address} (h : parse text = .ok address) :
    ∃ label : CellLabel, label.text = text := by
  simp only [parse] at h
  split at h
  · cases h
  split at h
  · cases h
  · rename_i letters
    cases column : Column.ofLetters
        (String.ofList ((splitDollar text.toList).2.takeWhile Char.isAlpha)) with
    | error fault =>
      rw [column] at h
      cases h
    | ok column' =>
      rw [column] at h
      cases row : readRow text
          (splitDollar ((splitDollar text.toList).2.dropWhile Char.isAlpha)).2 with
      | error fault =>
        rw [row] at h
        cases h
      | ok row' =>
        obtain ⟨digits, all, -⟩ := readRow_eq_ok_iff.1 row
        obtain ⟨label, chars⟩ := CellLabel.exists_of_split (by simpa using letters) digits all
        exact ⟨label, CellLabel.text_eq_iff.2 chars⟩

/-- A text is an address if it is a label whose column and row lie within the grid. -/
theorem parse_eq_ok_iff {text : String} {address : Address} :
    parse text = .ok address ↔ ∃ label : CellLabel, label.text = text ∧
      label.column ≤ maxColumns.toNat ∧ 1 ≤ label.row ∧ label.row ≤ maxRows.toNat ∧
      address = ⟨(label.row - 1).toUInt32, (label.column - 1).toUInt16, label.rowFixed,
        label.columnFixed⟩ := by
  constructor
  · intro h
    obtain ⟨label, rfl⟩ := exists_label_of_parse h
    rw [parse_text, Column.ofLetters_eq label.letters_ne_nil label.isAlpha_of_mem,
      ← Column.column_eq] at h
    split at h
    · rename_i column
      cases row : readRow label.text label.digits with
      | error fault =>
        rw [row] at h
        cases h
      | ok row' =>
        rw [row] at h
        cases h
        obtain ⟨-, -, low, high, rfl⟩ := readRow_eq_ok_iff.1 row
        rw [← CellLabel.row_eq] at low high ⊢
        exact ⟨label, rfl, column, low, high, rfl⟩
    · cases h
  · rintro ⟨label, rfl, column, row, grid, rfl⟩
    rw [Column.column_eq] at column ⊢
    rw [CellLabel.row_eq] at row grid ⊢
    have rowRead : readRow label.text label.digits = _ :=
      readRow_eq_ok_iff.2 ⟨label.digits_ne_nil, label.isDigit_of_mem, row, grid, rfl⟩
    rw [parse_text, Column.ofLetters_eq label.letters_ne_nil label.isAlpha_of_mem, if_pos column,
      rowRead]
    rfl

end Address

/-! ## Spellings -/

theorem Decimal.ofDigits_dropZeros (ds : List Char) :
    ofDigits (ds.dropWhile (· = '0')) = ofDigits ds := by
  induction ds with
  | nil => rfl
  | cons d ds ih =>
    by_cases zero : d = '0'
    · subst zero
      rw [List.dropWhile_cons_of_pos (by decide), ih]
      rfl
    · rw [List.dropWhile_cons_of_neg (by simpa using zero)]

namespace CellLabel

variable {a b : CellLabel}

/-- The case of letters does not matter. -/
theorem column_congr (h : a.letters.map Char.toUpper = b.letters.map Char.toUpper) :
    a.column = b.column := by
  have digits : ∀ cs : List Char, cs.map Column.digit =
      (cs.map Char.toUpper).map fun u => u.toNat - 'A'.toNat + 1 := by
    intro cs
    rw [List.map_map]
    rfl
  rw [column, column, digits, h, ← digits]

/-- Leading zeros do not matter. -/
theorem row_congr (h : a.digits.dropWhile (· = '0') = b.digits.dropWhile (· = '0')) :
    a.row = b.row := by
  rw [row_eq, row_eq, ← Decimal.ofDigits_dropZeros, h, Decimal.ofDigits_dropZeros]

end CellLabel

end SheetFormula
