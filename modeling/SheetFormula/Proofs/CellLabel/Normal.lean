import Mathlib.Data.List.Induction
import SheetFormula.Proofs.CellLabel.Words

/-!
# Texts of addresses

Among the labels of a cell one is normal: its letters are capitals, and no zero stands in front of
its digits (`Address.normalForm`). It is the text of the address (`Address.text_of_parse`), since
capitals and digits without a leading zero are the only numerals of their numbers:

* `Column.lettersBefore_numeralFrom`, `Column.numeralFrom_lettersBefore`: the numerals of columns,
  in which no letter stands for zero.
* `Decimal.toDigits_ofDigits`: the numerals of rows.

So an address is read back from its text if it lies within the grid
(`Address.parse_inverse`).
-/

namespace SheetFormula

/-! ## Columns -/

namespace Column

theorem numeralFrom_concat (n : Nat) (cs : List Char) (c : Char) :
    numeralFrom n (cs ++ [c]) = numeralFrom n cs * 26 + digit c := by
  rw [numeralFrom, numeralFrom, List.foldl_append, List.foldl_cons, List.foldl_nil]

/-- A letter is the capital with its value. -/
theorem ofNat_digit {c : Char} (h : c.isAlpha) :
    Char.ofNat ('A'.toNat + (digit c - 1)) = c.toUpper := by
  have := toNat_toUpper h
  have value : 'A'.toNat + (digit c - 1) = c.toUpper.toNat := by
    rw [digit_eq, show 'A'.toNat = 65 from rfl]
    omega
  rw [value, Char.ofNat_toNat]

/-- The letters of a number are the capitals of any letters that have it as their numeral. -/
theorem lettersBefore_numeralFrom {cs : List Char} (alpha : ∀ c ∈ cs, c.isAlpha)
    (suffix : List Char) :
    lettersBefore suffix (numeralFrom 0 cs) = cs.map Char.toUpper ++ suffix := by
  induction cs using List.reverseRecOn generalizing suffix with
  | nil =>
    rw [numeralFrom, List.foldl_nil, lettersBefore, if_pos rfl]
    rfl
  | append_singleton cs c ih =>
    obtain ⟨before, last⟩ := List.forall_mem_append.1 alpha
    have letter := last c (List.mem_singleton_self c)
    have low := one_le_digit c
    have high := digit_le letter
    rw [numeralFrom_concat, lettersBefore, if_neg (by omega)]
    have value : (numeralFrom 0 cs * 26 + digit c - 1) % 26 = digit c - 1 := by omega
    have others : (numeralFrom 0 cs * 26 + digit c - 1) / 26 = numeralFrom 0 cs := by omega
    rw [value, others, ofNat_digit letter, ih before, List.map_append, List.append_assoc]
    rfl

theorem capital (n : Nat) :
    let c := Char.ofNat ('A'.toNat + n % 26)
    c.isAlpha ∧ digit c = n % 26 + 1 := by
  have all : ∀ k < 26, (Char.ofNat ('A'.toNat + k)).isAlpha ∧
      digit (Char.ofNat ('A'.toNat + k)) = k + 1 := by
    decide +kernel
  exact all (n % 26) (Nat.mod_lt n (by decide))

/-- The letters of a number have it as their numeral. -/
theorem numeralFrom_lettersBefore (suffix : List Char) (n : Nat) :
    numeralFrom 0 (lettersBefore suffix n) = numeralFrom n suffix := by
  fun_induction lettersBefore suffix n with
  | case1 suffix => rfl
  | case2 suffix n positive ih =>
    have shorter : numeralFrom ((n - 1) / 26) (Char.ofNat ('A'.toNat + (n - 1) % 26) :: suffix) =
        numeralFrom ((n - 1) / 26 * 26 + ((n - 1) % 26 + 1)) suffix := by
      rw [← (capital (n - 1)).2]
      rfl
    have whole : (n - 1) / 26 * 26 + ((n - 1) % 26 + 1) = n := by omega
    rw [ih, shorter, whole]

theorem isAlpha_of_mem_lettersBefore {suffix : List Char} (alpha : ∀ c ∈ suffix, c.isAlpha)
    (n : Nat) : ∀ c ∈ lettersBefore suffix n, c.isAlpha := by
  fun_induction lettersBefore suffix n with
  | case1 => exact alpha
  | case2 suffix n positive ih => exact ih (List.forall_mem_cons.2 ⟨(capital (n - 1)).1, alpha⟩)

theorem lettersBefore_ne_nil {n : Nat} (positive : n ≠ 0) : lettersBefore [] n ≠ [] := by
  intro none
  have zero := numeralFrom_lettersBefore [] n
  rw [none] at zero
  exact positive zero.symm

end Column

/-! ## Rows -/

namespace Decimal

theorem ofDigits_toDigits (n : Nat) : ofDigits (Nat.toDigits 10 n) = n :=
  Nat.ofDigitChars_ten_toDigits

theorem digitChar_value {d : Char} (digit : d.isDigit) :
    Nat.digitChar (d.toNat - '0'.toNat) = d := by
  obtain ⟨low, high⟩ := Token.toNat_of_isDigit digit
  rw [← Char.toNat_inj, show '0'.toNat = 48 from rfl, Nat.toNat_digitChar_of_lt_ten (by omega)]
  omega

/-- Digits after those of a number that is not zero are digits of the longer numeral. -/
theorem toDigits_foldl {n : Nat} (positive : 0 < n) {ds : List Char}
    (digits : ∀ d ∈ ds, d.isDigit) :
    Nat.toDigits 10 (ds.foldl (fun n d => 10 * n + (d.toNat - '0'.toNat)) n) =
      Nat.toDigits 10 n ++ ds := by
  induction ds generalizing n with
  | nil => rw [List.foldl_nil, List.append_nil]
  | cons d ds ih =>
    obtain ⟨first, others⟩ := List.forall_mem_cons.1 digits
    have small : d.toNat - '0'.toNat < 10 := by
      have := (Token.toNat_of_isDigit first).2
      rw [show '0'.toNat = 48 from rfl]
      omega
    rw [List.foldl_cons, ih (by omega) others,
      ← Nat.toDigits_append_toDigits (by decide) positive small, Nat.toDigits_of_lt_base small,
      digitChar_value first, List.append_assoc, List.singleton_append]

/-- The digits of a number that is not zero are those of any numeral of it from the first on that is
not zero. -/
theorem toDigits_ofDigits {ds : List Char} (digits : ∀ d ∈ ds, d.isDigit)
    (positive : 1 ≤ ofDigits ds) :
    Nat.toDigits 10 (ofDigits ds) = ds.dropWhile (· = '0') := by
  rw [← ofDigits_dropZeros ds] at positive ⊢
  cases first : ds.dropWhile (· = '0') with
  | nil =>
    rw [first] at positive
    exact absurd positive (by decide)
  | cons d rest =>
    have isDigit : ∀ c ∈ d :: rest, c.isDigit := by
      rw [← first]
      exact fun c hc => digits c ((List.dropWhile_sublist _).mem hc)
    obtain ⟨digit, others⟩ := List.forall_mem_cons.1 isDigit
    have notZero : d ≠ '0' := by
      have := List.head?_dropWhile_not (fun c => decide (c = '0')) ds
      rw [first] at this
      simpa using this
    obtain ⟨low, high⟩ := Token.toNat_of_isDigit digit
    have ne : d.toNat ≠ 48 := fun same => notZero (Char.toNat_inj.1 same)
    have zero : '0'.toNat = 48 := rfl
    have value : ofDigits (d :: rest) =
        rest.foldl (fun n d => 10 * n + (d.toNat - '0'.toNat)) (d.toNat - '0'.toNat) := by
      rw [ofDigits, List.foldl_cons, Nat.mul_zero, Nat.zero_add]
    rw [value, toDigits_foldl (by omega) others, Nat.toDigits_of_lt_base (by omega),
      digitChar_value digit, List.singleton_append]

end Decimal

/-! ## Addresses -/

namespace Address

/-- A text with capitals for its letters, and without the zeros in front of its digits. -/
def normalForm (text : String) : String :=
  String.ofList ((text.toList.takeWhile fun c => !c.isDigit).map Char.toUpper ++
    (text.toList.dropWhile fun c => !c.isDigit).dropWhile (· = '0'))

theorem normalForm_text (label : CellLabel) :
    normalForm label.text = String.ofList (dollar label.columnFixed ++
      (label.letters.map Char.toUpper ++
        (dollar label.rowFixed ++ label.digits.dropWhile (· = '0')))) := by
  have noDigits : ∀ c ∈ dollar label.columnFixed ++ (label.letters ++ dollar label.rowFixed),
      (!c.isDigit) = true := by
    have ofDollar : ∀ fixed, ∀ c ∈ dollar fixed, (!c.isDigit) = true := by
      intro fixed
      cases fixed <;> simp [dollar]
    simp only [List.forall_mem_append]
    refine ⟨ofDollar _, fun c hc => ?_, ofDollar _⟩
    rw [Token.isDigit_of_isAlpha (label.isAlpha_of_mem c hc), Bool.not_false]
  have digits : ∀ c ∈ label.digits.head?, (!c.isDigit) = false := by
    intro c hc
    rw [label.isDigit_of_mem c (List.mem_of_mem_head? hc), Bool.not_true]
  have upperDollar : ∀ fixed, (dollar fixed).map Char.toUpper = dollar fixed := by
    intro fixed
    cases fixed <;> rfl
  have chars : label.chars =
      (dollar label.columnFixed ++ (label.letters ++ dollar label.rowFixed)) ++ label.digits := by
    simp only [CellLabel.chars, List.append_assoc]
  obtain ⟨front, back⟩ := Token.takeWhile_append_stop noDigits digits
  rw [normalForm, CellLabel.text, String.toList_ofList, chars, front, back]
  simp only [List.map_append, upperDollar, List.append_assoc]

theorem text_eq (address : Address) :
    address.text = String.ofList (dollar address.columnFixed ++
      (Column.lettersBefore [] (address.column.toNat + 1) ++
        (dollar address.rowFixed ++ Nat.toDigits 10 (address.row + 1).toNat))) := by
  have ofDollar : ∀ fixed : Bool, (if fixed then "$" else "") = String.ofList (dollar fixed) := by
    intro fixed
    cases fixed <;> rfl
  rw [text, Column.letters, ofDollar, ofDollar, Nat.repr_eq_ofList_toDigits]
  simp only [← String.ofList_append, List.append_assoc]

/-- The text of an address in its parts. -/
def label (address : Address) : CellLabel where
  columnFixed := address.columnFixed
  letters := Column.lettersBefore [] (address.column.toNat + 1)
  rowFixed := address.rowFixed
  digits := Nat.toDigits 10 (address.row + 1).toNat
  letters_ne_nil := Column.lettersBefore_ne_nil (Nat.succ_ne_zero _)
  digits_ne_nil := Nat.toDigits_ne_nil
  isAlpha_of_mem := Column.isAlpha_of_mem_lettersBefore (List.forall_mem_nil _) _
  isDigit_of_mem := fun _ => Nat.isDigit_of_mem_toDigits (by decide) (by decide)

theorem text_label (address : Address) : address.label.text = address.text :=
  (text_eq address).symm

theorem column_label (address : Address) : address.label.column = address.column.toNat + 1 := by
  rw [Column.column_eq]
  exact Column.numeralFrom_lettersBefore [] _

theorem row_label (address : Address) : address.label.row = (address.row + 1).toNat := by
  rw [CellLabel.row_eq]
  exact Decimal.ofDigits_toDigits _

/-- Whether an address is of a cell of the grid. -/
def InGrid (address : Address) : Prop :=
  address.row < maxRows ∧ address.column < maxColumns

/-- An address is in the grid if its label is. The number after the last word wraps around to zero,
which is no row. -/
theorem inGrid_iff (address : Address) :
    address.InGrid ↔ address.label.column ≤ maxColumns.toNat ∧ 1 ≤ address.label.row ∧
      address.label.row ≤ maxRows.toNat := by
  have last : maxRows.toNat = 1048576 := rfl
  have bound := address.row.toNat_lt
  rw [InGrid, column_label, row_label, UInt32.lt_iff_toNat_lt, UInt16.lt_iff_toNat_lt,
    UInt32.toNat_add, UInt32.toNat_one]
  omega

/-- Only the address itself is read from its text, and only if it is in the grid. -/
theorem parse_text_eq_ok_iff {a b : Address} : parse a.text = .ok b ↔ a.InGrid ∧ b = a := by
  have same : a.InGrid → (⟨(a.label.row - 1).toUInt32, (a.label.column - 1).toUInt16,
      a.label.rowFixed, a.label.columnFixed⟩ : Address) = a := by
    intro inGrid
    have row : (a.label.row - 1).toUInt32 = a.row := by
      have positive := ((inGrid_iff a).1 inGrid).2.1
      have bound := a.row.toNat_lt
      rw [row_label, UInt32.toNat_add, UInt32.toNat_one] at positive ⊢
      have number : (a.row.toNat + 1) % 2 ^ 32 - 1 = a.row.toNat := by omega
      rw [number]
      exact UInt32.ofNat_toNat
    have column : (a.label.column - 1).toUInt16 = a.column := by
      rw [column_label, Nat.add_sub_cancel]
      exact UInt16.ofNat_toNat
    rw [row, column]
    rfl
  rw [parse_eq_ok_iff]
  constructor
  · rintro ⟨label, text, column, low, high, rfl⟩
    obtain rfl : label = a.label := CellLabel.text_injective (text.trans a.text_label.symm)
    have inGrid := (inGrid_iff a).2 ⟨column, low, high⟩
    exact ⟨inGrid, same inGrid⟩
  · rintro ⟨inGrid, rfl⟩
    obtain ⟨column, low, high⟩ := (inGrid_iff b).1 inGrid
    exact ⟨b.label, b.text_label, column, low, high, (same inGrid).symm⟩

theorem one_le_column (label : CellLabel) : 1 ≤ label.column := by
  obtain ⟨c, cs, letters⟩ := List.exists_cons_of_ne_nil label.letters_ne_nil
  have first : Column.numeralFrom 0 (c :: cs) = Column.numeralFrom (Column.digit c) cs := by
    rw [Column.numeralFrom, List.foldl_cons, Nat.zero_mul, Nat.zero_add]
    rfl
  rw [Column.column_eq, letters, first]
  exact Nat.le_trans (Column.one_le_digit c) (Column.le_numeralFrom _ cs)

/-- What is read from a text is in the grid and has the numbers of its parts. -/
theorem exists_of_parse {text : String} {address : Address} (h : parse text = .ok address) :
    address.InGrid ∧ ∃ label : CellLabel, label.text = text ∧
      label.columnFixed = address.columnFixed ∧ label.rowFixed = address.rowFixed ∧
      label.column = address.column.toNat + 1 ∧ label.row = (address.row + 1).toNat := by
  have lastRow : maxRows.toNat = 1048576 := rfl
  have lastColumn : maxColumns.toNat = 16384 := rfl
  obtain ⟨label, rfl, column, low, high, rfl⟩ := parse_eq_ok_iff.1 h
  have left := one_le_column label
  have columnNumber : (label.column - 1).toUInt16.toNat = label.column - 1 :=
    UInt16.toNat_ofNat_of_lt (by simp only [UInt16.size]; omega)
  have rowNumber : (label.row - 1).toUInt32.toNat = label.row - 1 :=
    UInt32.toNat_ofNat_of_lt (by simp only [UInt32.size]; omega)
  have one : (1 : UInt32).toNat = 1 := rfl
  refine ⟨?_, label, rfl, rfl, rfl, ?_, ?_⟩
  · rw [InGrid, UInt32.lt_iff_toNat_lt, UInt16.lt_iff_toNat_lt, rowNumber, columnNumber]
    omega
  · rw [columnNumber]
    omega
  · rw [UInt32.toNat_add, rowNumber, one]
    omega

/-- The text of an address is the normal form of all its spellings. -/
theorem text_of_parse {text : String} {address : Address} (h : parse text = .ok address) :
    address.text = normalForm text := by
  obtain ⟨inGrid, label, rfl, columnFixed, rowFixed, column, row⟩ := exists_of_parse h
  have positive : 1 ≤ Decimal.ofDigits label.digits := by
    rw [← CellLabel.row_eq, row, ← row_label]
    exact ((inGrid_iff address).1 inGrid).2.1
  rw [text_eq, normalForm_text, columnFixed, rowFixed, ← column, ← row, Column.column_eq,
    Column.lettersBefore_numeralFrom label.isAlpha_of_mem, List.append_nil, CellLabel.row_eq,
    Decimal.toDigits_ofDigits label.isDigit_of_mem positive]

/-- An address is read back from its text if it is in the grid, and else its text is no address. A
text that is an address has the text of the address as its normal form; so it is the same address
as its normal form, and as just those texts that share it. -/
theorem parse_inverse :
    (∀ a : Address, (a.row < maxRows ∧ a.column < maxColumns → parse a.text = .ok a) ∧
        (¬(a.row < maxRows ∧ a.column < maxColumns) → ∃ fault, parse a.text = .error fault)) ∧
      (∀ s a, parse s = .ok a → a.text = normalForm s ∧ parse a.text = .ok a) ∧
      ∀ s t a b, parse s = .ok a → parse t = .ok b → (a = b ↔ normalForm s = normalForm t) := by
  have readBack : ∀ s a, parse s = .ok a → parse a.text = .ok a := fun s a h =>
    parse_text_eq_ok_iff.2 ⟨(exists_of_parse h).1, rfl⟩
  refine ⟨fun a => ⟨fun inGrid => parse_text_eq_ok_iff.2 ⟨inGrid, rfl⟩, fun off => ?_⟩,
    fun s a h => ⟨text_of_parse h, readBack s a h⟩, fun s t a b hs ht => ?_⟩
  · cases parsed : parse a.text with
    | ok b => exact absurd (parse_text_eq_ok_iff.1 parsed).1 off
    | error fault => exact ⟨fault, rfl⟩
  · rw [← text_of_parse hs, ← text_of_parse ht]
    constructor
    · rintro rfl
      rfl
    · intro same
      have alike := readBack s a hs
      rw [same, readBack t b ht] at alike
      exact (Except.ok.inj alike).symm

end Address

end SheetFormula
