import Mathlib
import SheetFormula.Builtin
import SheetFormula.Proofs.Truncation

/-!
# Texts from both ends

`LEFT` and `RIGHT` count from opposite ends of a text, each with a number that is cut to a whole one
first (`Builtin.countOf?`). What one takes and what the other takes with the rest of the count is
the whole text, and both take as many characters as they are asked for (`Builtin.call_left_right`).
A count below zero is an error, one beyond the length takes the text, and arrays have no text to
take from.
-/

namespace SheetFormula

namespace Builtin

/-! ## Counts -/

/-- How many characters an optional argument asks for, if it stands for a number: one where it is
left out, and a number without its fraction. -/
def countOf? (count : Option Value) : Option EInt :=
  (count.elim (some 1) Value.toNumber?).bind Double.truncation?

/-- There is a count for the rest of every text that has less than `2 ^ 53` characters. -/
theorem countOf?_ofNat {n : Nat} (small : n < 2 ^ 53) :
    countOf? (some (.number (Float.ofNat n))) = some (WithBotTop.coe (n : ℤ)) := by
  have whole : Double.wholePart n = n := by
    rw [Double.wholePart, if_pos n.cast_nonneg, Int.floor_natCast]
  change Double.truncation? (Float.ofNat n) = _
  rw [Double.truncation?, Double.value?_ofNat small, ← whole]
  rfl

theorem exists_number {v : Value} {count : Option Value} {n : EInt} (h : countOf? count = some n) :
    ∃ x, Argument.number (v :: count.toList) 1 1 = .ok x ∧ Double.truncation? x = some n := by
  obtain ⟨x, number, counted⟩ := Option.bind_eq_some_iff.1 h
  refine ⟨x, ?_, counted⟩
  cases count with
  | none =>
    cases number
    rfl
  | some c =>
    have coerced : c.toNumber? = some x := number
    change c.requireNumber = _
    rw [Value.requireNumber, coerced]

theorem count_of_neg {v : Value} {count : Option Value} {n : EInt} (h : countOf? count = some n)
    (below : n < 0) : Argument.count (v :: count.toList) 1 = .error .value := by
  obtain ⟨x, number, counted⟩ := exists_number (v := v) h
  have negative : WithBotTop.coe (Argument.truncate x) < WithBotTop.coe (0 : ℤ) := by
    rw [Double.truncate_eq counted]
    exact max_lt (WithBotTop.coe_lt_coe.2 (by decide)) (min_lt_of_left_lt below)
  rw [Argument.count, number]
  exact if_pos (WithBotTop.coe_lt_coe.1 negative)

/-- A count that is not negative is taken as it is, up to the largest number of 64 bits. -/
theorem exists_count {v : Value} {count : Option Value} {n : EInt} (h : countOf? count = some n)
    (nonneg : 0 ≤ n) :
    ∃ k : Nat, Argument.count (v :: count.toList) 1 = .ok k ∧
      WithBotTop.coe (k : ℤ) = n ⊓ WithBotTop.coe (2 ^ 64 - 1) := by
  obtain ⟨x, number, counted⟩ := exists_number (v := v) h
  have clamped : (0 : EInt) ≤ n ⊓ WithBotTop.coe (2 ^ 64 - 1) :=
    le_min nonneg (WithBotTop.coe_le_coe.2 (by decide))
  have truncated : WithBotTop.coe (Argument.truncate x) = n ⊓ WithBotTop.coe (2 ^ 64 - 1) := by
    rw [Double.truncate_eq counted]
    exact max_eq_right ((WithBotTop.coe_le_coe.2 (by decide)).trans clamped)
  have positive : 0 ≤ Argument.truncate x :=
    WithBotTop.coe_le_coe.1 (clamped.trans_eq truncated.symm)
  refine ⟨(Argument.truncate x).toNat, ?_, ?_⟩
  · rw [Argument.count, number]
    exact if_neg (not_lt.2 positive)
  · rw [Int.toNat_of_nonneg positive, truncated]

theorem count_of_eq {v : Value} {count : Option Value} {k : Nat}
    (h : countOf? count = some (WithBotTop.coe (k : ℤ))) (fits : k < 2 ^ 64) :
    Argument.count (v :: count.toList) 1 = .ok k := by
  obtain ⟨j, counted, clamped⟩ := exists_count (v := v) h (WithBotTop.coe_le_coe.2 k.cast_nonneg)
  rw [← WithBotTop.coe_monotone.map_min] at clamped
  have same : (j : ℤ) = (k : ℤ) ⊓ (2 ^ 64 - 1) := WithBotTop.coe_injective clamped
  have kept : j = k := by omega
  rw [counted, kept]

theorem exists_count_ge {v : Value} {count : Option Value} {n : EInt} {length : Nat}
    (h : countOf? count = some n) (beyond : WithBotTop.coe (length : ℤ) < n)
    (fits : length < 2 ^ 64) :
    ∃ k, Argument.count (v :: count.toList) 1 = .ok k ∧ length ≤ k := by
  have nonneg : (0 : EInt) ≤ n := (WithBotTop.coe_le_coe.2 length.cast_nonneg).trans beyond.le
  obtain ⟨k, counted, clamped⟩ := exists_count (v := v) h nonneg
  have enough : WithBotTop.coe (length : ℤ) ≤ WithBotTop.coe (k : ℤ) := by
    rw [clamped]
    exact le_min beyond.le (WithBotTop.coe_le_coe.2 (by omega))
  exact ⟨k, counted, Int.ofNat_le.1 (WithBotTop.coe_le_coe.1 enough)⟩

/-! ## Taking from a text -/

theorem call_eq_error {f : Builtin} {args : List Value} (h : f.apply args = .error .value) :
    f.call args = .error .value := by
  rw [call, h]
  split <;> rfl

theorem text_eq {v : Value} (scalar : v.isArray = false) (further : List Value) :
    Argument.text (v :: further) 0 = .ok v.text := by
  cases v with
  | array items => cases scalar
  | empty | null | boolean | number | string => rfl

theorem admits_toList (count : Option Value) (v : Value) :
    (Arity.mk 1 (some 2)).admits (v :: count.toList).length = true := by
  cases count <;> rfl

theorem call_left {v : Value} {count : Option Value} (scalar : v.isArray = false) {k : Nat}
    (counted : Argument.count (v :: count.toList) 1 = .ok k) :
    left.call (v :: count.toList) = .ok (.string (String.ofList (v.text.toList.take k))) := by
  rw [call, arity, if_pos (admits_toList count v), apply, Textual.left, text_eq scalar, counted]
  rfl

theorem call_right {v : Value} {count : Option Value} (scalar : v.isArray = false) {k : Nat}
    (counted : Argument.count (v :: count.toList) 1 = .ok k) :
    right.call (v :: count.toList) =
      .ok (.string (String.ofList (v.text.toList.drop (v.text.toList.length - k)))) := by
  rw [call, arity, if_pos (admits_toList count v), apply, Textual.right, text_eq scalar, counted]
  rfl

theorem call_len {s : String} {n : Nat} (length : s.toList.length = n)
    (finite : (Float.ofNat n).isFinite = true) :
    len.call [.string s] = .ok (.number (Float.ofNat n)) := by
  subst length
  exact if_pos finite

theorem call_of_count_error {v : Value} {count : Option Value} (scalar : v.isArray = false)
    (failed : Argument.count (v :: count.toList) 1 = .error .value) :
    left.call (v :: count.toList) = .error .value ∧
      right.call (v :: count.toList) = .error .value := by
  constructor
  · refine call_eq_error ?_
    rw [apply, Textual.left, text_eq scalar, failed]
    rfl
  · refine call_eq_error ?_
    rw [apply, Textual.right, text_eq scalar, failed]
    rfl

theorem call_of_length_le {v : Value} {count : Option Value} {k : Nat} (scalar : v.isArray = false)
    (counted : Argument.count (v :: count.toList) 1 = .ok k) (enough : v.text.length ≤ k) :
    left.call (v :: count.toList) = .ok (.string v.text) ∧
      right.call (v :: count.toList) = .ok (.string v.text) := by
  rw [← String.length_toList] at enough
  rw [call_left scalar counted, call_right scalar counted, List.take_of_length_le enough,
    Nat.sub_eq_zero_of_le enough, List.drop_zero, String.ofList_toList]
  exact ⟨rfl, rfl⟩

/-- The first characters and the rest, which are counted from the end, are the text. -/
theorem take_append_rest {s : String} {k : Nat} (inside : k ≤ s.length) :
    String.ofList (s.toList.take k) ++
      String.ofList (s.toList.drop (s.toList.length - (s.length - k))) = s := by
  rw [String.length_toList, Nat.sub_sub_self inside, ← String.ofList_append,
    List.take_append_drop, String.ofList_toList]

theorem rest_append_drop (s : String) (k : Nat) :
    String.ofList (s.toList.take (s.length - k)) ++
      String.ofList (s.toList.drop (s.toList.length - k)) = s := by
  rw [String.length_toList, ← String.ofList_append, List.take_append_drop, String.ofList_toList]

theorem length_ofList_take {s : String} {k : Nat} (inside : k ≤ s.length) :
    (String.ofList (s.toList.take k)).toList.length = k := by
  rw [String.toList_ofList, List.length_take, String.length_toList, Nat.min_eq_left inside]

theorem length_ofList_drop {s : String} {k : Nat} (inside : k ≤ s.length) :
    (String.ofList (s.toList.drop (s.toList.length - k))).toList.length = k := by
  rw [String.toList_ofList, List.length_drop, String.length_toList, Nat.sub_sub_self inside]

theorem apply_array {f : Builtin} (takes : f ∈ [left, right, len]) (items further : List Value) :
    f.apply (.array items :: further) = .error .value := by
  simp only [List.mem_cons, List.not_mem_nil, or_false] at takes
  rcases takes with rfl | rfl | rfl <;> rfl

/-- `LEFT` and `RIGHT` split a text. They fail for a count below zero and take the whole text for
one beyond its length. With a count between these, both take as many characters as it asks for, and
what one takes is the text together with what the other takes for the rest of the count. They take
nothing from an array, whatever the count, and neither does `LEN`. A text in memory has less than
`2 ^ 64` characters. -/
theorem call_left_right (v : Value) :
    (v.isArray = false → ∀ (count : Option Value) (n : EInt), countOf? count = some n →
      (n < 0 →
        left.call (v :: count.toList) = .error .value ∧
          right.call (v :: count.toList) = .error .value) ∧
      (v.text.length < 2 ^ 64 →
        (∀ k : Nat, k ≤ v.text.length → n = WithBotTop.coe (k : ℤ) →
          ∃ start rest before finish : String, ∃ number : Float,
            (start ++ rest = v.text ∧ before ++ finish = v.text) ∧
            (left.call (v :: count.toList) = .ok (.string start) ∧
              right.call (v :: count.toList) = .ok (.string finish)) ∧
            (∀ other, countOf? other = some (WithBotTop.coe (v.text.length - k : ℤ)) →
              left.call (v :: other.toList) = .ok (.string before) ∧
                right.call (v :: other.toList) = .ok (.string rest)) ∧
            len.call [.string start] = .ok (.number number) ∧
            len.call [.string finish] = .ok (.number number) ∧
            Double.value? number = some (WithBotTop.coe (k : ℚ))) ∧
        (WithBotTop.coe (v.text.length : ℤ) < n →
          left.call (v :: count.toList) = .ok (.string v.text) ∧
            right.call (v :: count.toList) = .ok (.string v.text)))) ∧
    (v.isArray = true → ∀ further : List Value, ∀ f ∈ [left, right, len],
      f.call (v :: further) = .error .value) := by
  refine ⟨fun scalar count n counted => ⟨fun below => ?_, fun fits => ⟨?_, fun beyond => ?_⟩⟩, ?_⟩
  · exact call_of_count_error scalar (count_of_neg counted below)
  · rintro k inside rfl
    obtain ⟨x, -, truncated⟩ := exists_number (v := v) counted
    have value := Double.value?_ofNat_of_truncation? truncated
    have finite := Double.isFinite_of_value? value
    have taken := count_of_eq (v := v) counted (inside.trans_lt fits)
    refine ⟨_, _, _, _, _, ⟨take_append_rest inside, rest_append_drop _ k⟩,
      ⟨call_left scalar taken, call_right scalar taken⟩, fun other counted' => ?_,
      call_len (length_ofList_take inside) finite, call_len (length_ofList_drop inside) finite,
      value⟩
    rw [← Nat.cast_sub inside] at counted'
    have remaining := count_of_eq (v := v) counted' ((Nat.sub_le ..).trans_lt fits)
    exact ⟨call_left scalar remaining, call_right scalar remaining⟩
  · obtain ⟨k, counted, enough⟩ := exists_count_ge (v := v) counted beyond fits
    exact call_of_length_le scalar counted enough
  · intro array further f takes
    cases v with
    | array items => exact call_eq_error (apply_array takes items further)
    | empty | null | boolean | number | string => cases array

/-- Three characters of two, four and two bytes, with counts of every kind. -/
theorem call_left_right_bytes :
    (∃ start rest : String, left.call [.string "é𝄞ß", .number 2.5] = .ok (.string start) ∧
      right.call [.string "é𝄞ß"] = .ok (.string rest) ∧ start ++ rest = "é𝄞ß" ∧
      ∃ number, len.call [.string start] = .ok (.number number) ∧
        Double.value? number = some (WithBotTop.coe 2)) ∧
    left.call [.string "é𝄞ß", .number (-1)] = .error .value ∧
    right.call [.string "é𝄞ß", .number 1e20] = .ok (.string "é𝄞ß") ∧
    len.call [.array []] = .error .value := by
  have counts := (call_left_right (.string "é𝄞ß")).1 rfl
  have fits : (Value.string "é𝄞ß").text.length < 2 ^ 64 := by decide
  have counted : countOf? (some (.number 2.5)) = some (WithBotTop.coe 2) := by decide +kernel
  have other : countOf? none = some (WithBotTop.coe (3 - 2)) := by decide +kernel
  refine ⟨?_, ?_, ?_, ?_⟩
  · obtain ⟨start, rest, _, _, number, ⟨whole, -⟩, ⟨taken, -⟩, remaining, length, -, value⟩ :=
      ((counts _ _ counted).2 fits).1 2 (by decide) rfl
    exact ⟨start, rest, taken, (remaining none other).2, whole, number, length, value⟩
  · have counted : countOf? (some (.number (-1))) = some (WithBotTop.coe (-1)) := by decide +kernel
    exact ((counts _ _ counted).1 (by decide)).1
  · have counted : countOf? (some (.number 1e20)) = some (WithBotTop.coe (10 ^ 20)) := by
      decide +kernel
    exact (((counts _ _ counted).2 fits).2 (by decide)).2
  · exact (call_left_right (.array [])).2 rfl [] len (by decide)

end Builtin

end SheetFormula
