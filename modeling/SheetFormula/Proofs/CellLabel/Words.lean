import SheetFormula.Proofs.CellLabel

/-!
# Addresses in words of 32 bits

`Address.parseWords?` reads addresses with arithmetic that fails where a result is no word of 32
bits. It never fails, and reads what `Address.parse` reads (`Address.parseWords?_eq`): letters are
given up beyond the last column before their numeral can overflow, and digits beyond 32 bits are no
row.
-/

namespace SheetFormula

/-! ## Arithmetic -/

namespace Word

/-- The word of 32 bits with a value, if there is one. -/
def ofNat? (n : Nat) : Option UInt32 :=
  if n < UInt32.size then some (.ofNat n) else none

/-- A sum that is a word. -/
def add? (a b : UInt32) : Option UInt32 :=
  ofNat? (a.toNat + b.toNat)

/-- A product that is a word. -/
def mul? (a b : UInt32) : Option UInt32 :=
  ofNat? (a.toNat * b.toNat)

/-- A difference that is a word. -/
def sub? (a b : UInt32) : Option UInt32 :=
  if b.toNat ≤ a.toNat then some (.ofNat (a.toNat - b.toNat)) else none

section

variable {a b : Nat}

theorem toNat_ofNat (h : a < UInt32.size) : (UInt32.ofNat a).toNat = a :=
  UInt32.toNat_ofNat_of_lt h

theorem ofNat?_of_lt (h : a < UInt32.size) : ofNat? a = some (.ofNat a) :=
  if_pos h

theorem ofNat?_of_le (h : UInt32.size ≤ a) : ofNat? a = none :=
  if_neg (Nat.not_lt.2 h)

theorem add?_ofNat (h : a + b < UInt32.size) :
    add? (.ofNat a) (.ofNat b) = some (.ofNat (a + b)) := by
  rw [add?, toNat_ofNat (by omega), toNat_ofNat (by omega), ofNat?_of_lt h]

theorem mul?_ofNat (ha : a < UInt32.size) (hb : b < UInt32.size) :
    mul? (.ofNat a) (.ofNat b) = ofNat? (a * b) := by
  rw [mul?, toNat_ofNat ha, toNat_ofNat hb]

theorem sub?_ofNat (ha : a < UInt32.size) (hb : b ≤ a) :
    sub? (.ofNat a) (.ofNat b) = some (.ofNat (a - b)) := by
  rw [sub?, toNat_ofNat ha, toNat_ofNat (by omega), if_pos hb]

end

end Word

/-! ## Letters -/

namespace Column

/-- The value of a letter. -/
def digitWord? (letter : Char) : Option UInt32 := do
  Word.add? (← Word.sub? letter.toUpper.val 'A'.val) 1

/-- The numeral of some letters with one more. -/
def appendWord? (n : UInt32) (letter : Char) : Option UInt32 := do
  Word.add? (← Word.mul? n 26) (← digitWord? letter)

/-- Reads further letters, as `readFrom` does. -/
def readWords? (letters : String) (n : UInt32) : List Char → Option (Except AddressError UInt32)
  | [] => some (.ok n)
  | c :: cs =>
    if !c.isAlpha then some (.error (.badColumnLetter c))
    else do
      let next ← appendWord? n c
      if maxColumns.toUInt32 < next then return .error (.columnOutOfBounds letters)
      else readWords? letters next cs

/-- The number of a column, from zero. -/
def ofLettersWords? (letters : String) : Option (Except AddressError UInt16) :=
  if letters.isEmpty then some (.error .noLetters)
  else do
    match ← readWords? letters 0 letters.toList with
    | .ok n => return .ok (← Word.sub? n 1).toUInt16
    | .error fault => return .error fault

theorem toNat_toUpper {c : Char} (h : c.isAlpha) :
    65 ≤ c.toUpper.toNat ∧ c.toUpper.toNat ≤ 90 := by
  have all : ∀ n < 0x80, (Char.ofNat n).isAlpha →
      65 ≤ (Char.ofNat n).toUpper.toNat ∧ (Char.ofNat n).toUpper.toNat ≤ 90 := by
    decide +kernel
  have := all c.toNat (Token.toNat_of_isAlpha h).2
  rw [Char.ofNat_toNat] at this
  exact this h

theorem digit_eq (c : Char) : digit c = c.toUpper.toNat - 65 + 1 :=
  rfl

theorem digit_le {c : Char} (h : c.isAlpha) : digit c ≤ 26 := by
  have := toNat_toUpper h
  rw [digit_eq]
  omega

theorem digitWord?_eq {c : Char} (h : c.isAlpha) : digitWord? c = some (.ofNat (digit c)) := by
  obtain ⟨low, high⟩ := toNat_toUpper h
  have size : UInt32.size = 4294967296 := rfl
  have upper : c.toUpper.val = .ofNat c.toUpper.toNat := (UInt32.ofNat_toNat ..).symm
  have difference : Word.sub? c.toUpper.val 'A'.val = some (.ofNat (c.toUpper.toNat - 65)) := by
    rw [upper]
    exact Word.sub?_ofNat (by omega) low
  have sum := Word.add?_ofNat (a := c.toUpper.toNat - 65) (b := 1) (by omega)
  rw [digitWord?, difference, digit_eq]
  exact sum

theorem appendWord?_eq {n : Nat} (le : n ≤ maxColumns.toNat) {c : Char} (h : c.isAlpha) :
    appendWord? (.ofNat n) c = some (.ofNat (n * 26 + digit c)) := by
  have last : maxColumns.toNat = 16384 := rfl
  have size : UInt32.size = 4294967296 := rfl
  have := digit_le h
  have product : Word.mul? (.ofNat n) 26 = some (.ofNat (n * 26)) :=
    (Word.mul?_ofNat (b := 26) (by omega) (by omega)).trans (Word.ofNat?_of_lt (by omega))
  have sum := Word.add?_ofNat (a := n * 26) (b := digit c) (by omega)
  rw [appendWord?, product, digitWord?_eq h]
  exact sum

theorem readFrom_bounds {letters : String} {n m : Nat} (le : n ≤ maxColumns.toNat) {cs : List Char}
    (h : readFrom letters n cs = .ok m) : n ≤ m ∧ m ≤ maxColumns.toNat ∧ (cs ≠ [] → 1 ≤ m) := by
  induction cs generalizing n with
  | nil =>
    obtain rfl : n = m := Except.ok.inj h
    exact ⟨Nat.le_refl n, le, fun no => absurd rfl no⟩
  | cons c cs ih =>
    rw [readFrom] at h
    split at h
    · cases h
    split at h
    · cases h
    · rename_i passed
      have := one_le_digit c
      obtain ⟨grows, high, -⟩ := ih (Nat.not_lt.1 passed) h
      exact ⟨by omega, high, fun _ => by omega⟩

/-- A numeral that has not passed the last column takes one more letter without overflow. -/
theorem readWords?_eq (letters : String) {n : Nat} (le : n ≤ maxColumns.toNat) (cs : List Char) :
    readWords? letters (.ofNat n) cs = some ((readFrom letters n cs).map UInt32.ofNat) := by
  induction cs generalizing n with
  | nil => rfl
  | cons c cs ih =>
    rw [readWords?, readFrom]
    cases alpha : c.isAlpha with
    | false => rfl
    | true =>
      have last : maxColumns.toNat = 16384 := rfl
      have := digit_le alpha
      have passed : maxColumns.toUInt32 < .ofNat (n * 26 + digit c) ↔
          maxColumns.toNat < n * 26 + digit c := by
        rw [UInt32.lt_iff_toNat_lt, Word.toNat_ofNat (by simp only [UInt32.size]; omega)]
        rfl
      rw [appendWord?_eq le alpha, Bool.not_true, if_neg Bool.false_ne_true,
        if_neg Bool.false_ne_true, Option.bind_eq_bind, Option.bind_some, ite_congr (propext passed)
          (fun _ => rfl) fun _ => rfl]
      split
      · rfl
      · exact ih (Nat.not_lt.1 ‹_›)

theorem ofLettersWords?_eq (letters : String) :
    ofLettersWords? letters = some (ofLetters letters) := by
  rw [ofLettersWords?, ofLetters]
  split
  · rfl
  · rename_i nonempty
    have zero : readWords? letters 0 letters.toList =
        some ((readFrom letters 0 letters.toList).map UInt32.ofNat) :=
      readWords?_eq letters (Nat.zero_le _) _
    rw [zero]
    cases read : readFrom letters 0 letters.toList with
    | error fault => rfl
    | ok n =>
      obtain ⟨-, high, positive⟩ := readFrom_bounds (Nat.zero_le _) read
      have last : maxColumns.toNat = 16384 := rfl
      have low := positive (by simpa using nonempty)
      have size : UInt32.size = 4294967296 := rfl
      have difference : Word.sub? (.ofNat n) 1 = some (.ofNat (n - 1)) :=
        Word.sub?_ofNat (by omega) low
      have narrow : (UInt32.ofNat (n - 1)).toUInt16 = (n - 1).toUInt16 := by
        rw [← UInt16.toNat_inj, UInt32.toNat_toUInt16, Word.toNat_ofNat (by omega)]
        exact UInt16.toNat_ofNat'.symm
      simp only [Except.map, Option.bind_eq_bind, Option.bind_some, difference, narrow]
      rfl

end Column

/-! ## Digits -/

namespace Decimal

/-- The number that digits with the value `n` and one more digit denote. -/
def appendWord? (n : UInt32) (digit : Char) : Option UInt32 := do
  Word.add? (← Word.mul? 10 n) (← Word.sub? digit.val '0'.val)

/-- The number that digits denote if they follow on digits with the value `n`, none beyond 32 bits.
-/
def readWord? (n : UInt32) : List Char → Option UInt32
  | [] => some n
  | d :: ds => do readWord? (← appendWord? n d) ds

theorem appendWord?_eq {n : Nat} (size : n < UInt32.size) {d : Char} (digit : d.isDigit) :
    appendWord? (.ofNat n) d = Word.ofNat? (10 * n + (d.toNat - '0'.toNat)) := by
  obtain ⟨low, high⟩ := Token.toNat_of_isDigit digit
  have max : UInt32.size = 4294967296 := rfl
  have value : d.val = .ofNat d.toNat := (UInt32.ofNat_toNat ..).symm
  have difference : Word.sub? d.val '0'.val = some (.ofNat (d.toNat - '0'.toNat)) := by
    rw [value]
    exact Word.sub?_ofNat (by omega) low
  have product : Word.mul? 10 (.ofNat n) = Word.ofNat? (10 * n) :=
    Word.mul?_ofNat (a := 10) (by omega) size
  have zero : '0'.toNat = 48 := rfl
  rw [appendWord?, product, difference]
  by_cases small : 10 * n < UInt32.size
  · rw [Word.ofNat?_of_lt small]
    change Word.add? _ _ = _
    rw [Word.add?, Word.toNat_ofNat small, Word.toNat_ofNat (by omega)]
  · rw [Word.ofNat?_of_le (Nat.not_lt.1 small), Word.ofNat?_of_le (by omega)]
    rfl

theorem le_foldl (ds : List Char) (n : Nat) :
    n ≤ ds.foldl (fun n d => 10 * n + (d.toNat - '0'.toNat)) n := by
  induction ds generalizing n with
  | nil => exact Nat.le_refl n
  | cons d ds ih => exact Nat.le_trans (by omega) (ih (10 * n + (d.toNat - '0'.toNat)))

theorem readWord?_eq {n : Nat} (size : n < UInt32.size) {ds : List Char}
    (digits : ∀ d ∈ ds, d.isDigit) :
    readWord? (.ofNat n) ds =
      Word.ofNat? (ds.foldl (fun n d => 10 * n + (d.toNat - '0'.toNat)) n) := by
  induction ds generalizing n with
  | nil => exact (Word.ofNat?_of_lt size).symm
  | cons d ds ih =>
    obtain ⟨first, others⟩ := List.forall_mem_cons.1 digits
    rw [readWord?, appendWord?_eq size first, List.foldl_cons]
    by_cases small : 10 * n + (d.toNat - '0'.toNat) < UInt32.size
    · rw [Word.ofNat?_of_lt small]
      exact ih small others
    · have := le_foldl ds (10 * n + (d.toNat - '0'.toNat))
      rw [Word.ofNat?_of_le (Nat.not_lt.1 small), Word.ofNat?_of_le (by omega)]
      rfl

end Decimal

namespace Address

/-- The row, from zero, that the last part of the address `text` denotes. -/
def readRowWords? (text : String) (ds : List Char) : Option (Except AddressError UInt32) :=
  if ds.isEmpty || !ds.all Char.isDigit then some (.error (.badRow text))
  else
    match Decimal.readWord? 0 ds with
    | none => some (.error (.badRow text))
    | some n =>
      if n = 0 then some (.error (.zeroRow text))
      else do
        let row ← Word.sub? n 1
        if maxRows ≤ row then return .error (.rowOutOfBounds row) else return .ok row

/-- The address that a text denotes, in any letter case. -/
def parseWords? (text : String) : Option (Except AddressError Address) :=
  if text.isEmpty then
    some (.error .empty)
  else
    let (columnFixed, cs) := splitDollar text.toList
    let letters := cs.takeWhile Char.isAlpha
    let (rowFixed, ds) := splitDollar (cs.dropWhile Char.isAlpha)
    if letters.isEmpty then
      some (.error (.noColumnLetters text))
    else do
      match ← Column.ofLettersWords? (String.ofList letters) with
      | .error fault => return .error fault
      | .ok column =>
        match ← readRowWords? text ds with
        | .error fault => return .error fault
        | .ok row => return .ok ⟨row, column, rowFixed, columnFixed⟩

theorem readRowWords?_eq (text : String) (ds : List Char) :
    readRowWords? text ds = some (readRow text ds) := by
  rw [readRowWords?, readRow]
  cases bad : ds.isEmpty || !ds.all Char.isDigit with
  | true => rfl
  | false =>
    have digits : ∀ d ∈ ds, d.isDigit := by
      simpa using (Bool.or_eq_false_iff.1 bad).2
    have size : UInt32.size = 4294967296 := rfl
    have last : maxRows.toNat = 1048576 := rfl
    have read : Decimal.readWord? 0 ds = Word.ofNat? (Decimal.ofDigits ds) :=
      Decimal.readWord?_eq (n := 0) (by omega) digits
    rw [read]
    generalize Decimal.ofDigits ds = n
    by_cases large : UInt32.size ≤ n
    · simp [Word.ofNat?_of_le large, large]
    · have small := Nat.not_le.1 large
      rw [Word.ofNat?_of_lt small]
      by_cases zero : n = 0
      · subst zero
        rfl
      · have positive : UInt32.ofNat n ≠ 0 := by
          rw [ne_eq, ← UInt32.toNat_inj, Word.toNat_ofNat small]
          exact zero
        have difference : Word.sub? (.ofNat n) 1 = some (.ofNat (n - 1)) :=
          Word.sub?_ofNat small (Nat.one_le_iff_ne_zero.2 zero)
        have passed : maxRows ≤ .ofNat (n - 1) ↔ maxRows.toNat < n := by
          rw [UInt32.le_iff_toNat_le, Word.toNat_ofNat (by omega)]
          omega
        simp only [positive, zero, large, difference, passed, if_false, Bool.false_eq_true,
          Bool.false_or, decide_false, Option.bind_eq_bind, Option.bind_some]
        split <;> rfl

/-- In words of 32 bits addresses are read alike, and nothing overflows. -/
theorem parseWords?_eq (text : String) : parseWords? text = some (parse text) := by
  simp only [parseWords?, parse, Column.ofLettersWords?_eq, readRowWords?_eq]
  split
  · rfl
  split
  · rfl
  · cases Column.ofLetters (String.ofList ((splitDollar text.toList).2.takeWhile Char.isAlpha)) with
    | error fault => rfl
    | ok column =>
      cases readRow text (splitDollar ((splitDollar text.toList).2.dropWhile Char.isAlpha)).2 with
      | error fault => rfl
      | ok row => rfl

end Address

/-- A text is one token that refers to a cell, the whole text being its label, if it is a label of a
cell. It is an address if it is the label of a cell of the grid, and then the address of this cell;
to find out takes words of 32 bits. -/
theorem CellLabel.token_and_address (text : String) :
    (Token.ofText text = .ok [.reference ⟨.cell, text⟩] ↔ ∃ label : CellLabel, label.text = text) ∧
      (∀ address, Address.parse text = .ok address ↔ ∃ label : CellLabel, label.text = text ∧
        label.column ≤ 16384 ∧ 1 ≤ label.row ∧ label.row ≤ 1048576 ∧
        address.row.toNat = label.row - 1 ∧ address.column.toNat = label.column - 1 ∧
        address.rowFixed = label.rowFixed ∧ address.columnFixed = label.columnFixed) ∧
      Address.parseWords? text = some (Address.parse text) := by
  refine ⟨Token.ofText_eq_cell_iff text, fun address => ?_, Address.parseWords?_eq text⟩
  rw [Address.parse_eq_ok_iff]
  refine exists_congr fun label => and_congr_right fun _ => ?_
  have last : maxRows.toNat = 1048576 ∧ maxColumns.toNat = 16384 := ⟨rfl, rfl⟩
  rw [last.1, last.2]
  refine and_congr_right fun column => and_congr_right fun _ => and_congr_right fun row => ?_
  have rowNumber : (label.row - 1).toUInt32.toNat = label.row - 1 :=
    UInt32.toNat_ofNat_of_lt (by simp only [UInt32.size]; omega)
  have columnNumber : (label.column - 1).toUInt16.toNat = label.column - 1 :=
    UInt16.toNat_ofNat_of_lt (by simp only [UInt16.size]; omega)
  rw [Address.mk.injEq, ← UInt32.toNat_inj, ← UInt16.toNat_inj, rowNumber, columnNumber]

end SheetFormula
