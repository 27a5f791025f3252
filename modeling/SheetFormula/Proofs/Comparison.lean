import Mathlib
import SheetFormula.Value.Operator

/-!
# The order of values

Values with a kind of their own (`Value.Filled`: neither blank nor arrays, and no number that is
none) are in the order of their places (`Value.Place`): by kind, and within a kind by number, folded
text or truth (`Value.compare_of_filled`). So comparisons are those of a total preorder, whatever
texts are folded to.

A blank takes the kind of the value it is compared with, which may be a different one each time. Of
any two values the order is then still one (`Value.compare_swap`), but it is no longer transitive
(`Value.compare_blank`). What follows for the operators is `Comparison.apply_coherent`.
-/

namespace SheetFormula

open Float.Model (UnpackedFloat)

namespace Value

/-- The place of a value in the order of values, by its parts from the most significant on. -/
structure Place where
  rank : Nat
  /-- For numbers: below zero, zero or above, and beyond all finite ones on either side. -/
  side : Int
  exponent : Int
  mantissa : Int
  text : String
  truth : Bool

namespace Place

/-- The order of places goes by the first part in which they differ. -/
def order : Place → Place → Ordering :=
  compareLex (compareOn rank) <| compareLex (compareOn side) <| compareLex (compareOn exponent) <|
    compareLex (compareOn mantissa) <| compareLex (compareOn text) (compareOn truth)

instance : Std.TransCmp order := by
  unfold order
  infer_instance

/-- The place of a number. A negative one is the further ahead, the larger its parts are. -/
def ofNumber : UnpackedFloat → Place
  | .infinity .negative => ⟨0, -2, 0, 0, "", false⟩
  | .finite .negative m e _ => ⟨0, -1, -e, -m, "", false⟩
  | .zero _ | .notANumber => ⟨0, 0, 0, 0, "", false⟩
  | .finite .positive m e _ => ⟨0, 1, e, m, "", false⟩
  | .infinity .positive => ⟨0, 2, 0, 0, "", false⟩

end Place

/-! ## Numbers -/

theorem Place.compare_neg (a b : Int) : Ord.compare (-a) (-b) = (Ord.compare a b).swap := by
  have falling : StrictAnti fun n : Int => -n := fun _ _ => neg_lt_neg
  have reversed := falling.cmp_map_eq a b
  rw [cmp_eq_compare, cmp_eq_compare] at reversed
  rw [reversed]
  exact Std.OrientedOrd.eq_swap

theorem Place.compare_natCast (a b : Nat) : Ord.compare (a : Int) b = Ord.compare a b := by
  have kept := Int.natCast_strictMono.cmp_map_eq a b
  rwa [cmp_eq_compare, cmp_eq_compare] at kept

theorem Place.order_of_side (side e e' m m' : Int) :
    order ⟨0, side, e, m, "", false⟩ ⟨0, side, e', m', "", false⟩ =
      (Ord.compare e e').then (Ord.compare m m') := by
  simp [order, compareLex, compareOn]

/-- Doubles that are numbers are in the order of their places. -/
theorem compare_unpacked {a b : UnpackedFloat} (ha : a.isNaN = false) (hb : b.isNaN = false) :
    a.compare b = some ((Place.ofNumber a).order (Place.ofNumber b)) := by
  cases a with
  | notANumber => cases ha
  | infinity s =>
    cases b with
    | notANumber => cases hb
    | infinity t => cases s <;> cases t <;> rfl
    | zero t => cases s <;> rfl
    | finite t m' e' _ => cases s <;> cases t <;> rfl
  | zero s =>
    cases b with
    | notANumber => cases hb
    | infinity t => cases t <;> rfl
    | zero t => rfl
    | finite t m' e' _ => cases t <;> rfl
  | finite s m e _ =>
    cases b with
    | notANumber => cases hb
    | infinity t => cases s <;> cases t <;> rfl
    | zero t => cases s <;> rfl
    | finite t m' e' _ =>
      -- On the same side of zero the exponents count, and then the mantissas.
      cases s with
      | negative =>
        cases t with
        | negative =>
          rw [UnpackedFloat.compare, Place.ofNumber, Place.ofNumber, Place.order_of_side,
            Place.compare_neg, Place.compare_neg, Place.compare_natCast, Ordering.swap_then]
        | positive => rfl
      | positive =>
        cases t with
        | negative => rfl
        | positive =>
          rw [UnpackedFloat.compare, Place.ofNumber, Place.ofNumber, Place.order_of_side,
            Place.compare_natCast]

theorem lt_iff_compare {a b : Float} :
    a < b ↔ a.toModel.unpack.compare b.toModel.unpack = some .lt := by
  have unfolded : (a < b) = (decide (a.toModel < b.toModel) = true) := rfl
  rw [unfolded, decide_eq_true_iff]
  change (a.toModel.unpack.compare b.toModel.unpack == some .lt) = true ↔ _
  exact beq_iff_eq

theorem compareNumbers_eq {a b : Float} (ha : a.isNaN = false) (hb : b.isNaN = false) :
    compareNumbers a b =
      (Place.ofNumber a.toModel.unpack).order (Place.ofNumber b.toModel.unpack) := by
  have before : a < b ↔ _ := lt_iff_compare
  have after : b < a ↔ _ := lt_iff_compare
  have swapped : (Place.ofNumber b.toModel.unpack).order (Place.ofNumber a.toModel.unpack) = _ :=
    Std.OrientedCmp.eq_swap
  rw [compare_unpacked ha hb, Option.some_inj] at before
  rw [compare_unpacked hb ha, Option.some_inj, swapped, Ordering.swap_eq_lt] at after
  rw [compareNumbers]
  cases h : (Place.ofNumber a.toModel.unpack).order (Place.ofNumber b.toModel.unpack) with
  | lt => rw [if_pos (before.2 h)]
  | eq => rw [if_neg (by simp [before, h]), if_neg (by simp [after, h])]
  | gt => rw [if_neg (by simp [before, h]), if_pos (after.2 h)]

/-! ## Values of every kind -/

/-- A value that comparisons order: no array, and no number that is none. -/
structure Comparable (v : Value) : Prop where
  notArray : v.isArray = false
  notNaN : ∀ n, v = .number n → n.isNaN = false

/-- A value that has a kind of its own in the order. -/
structure Filled (v : Value) : Prop extends Comparable v where
  notBlank : v.isBlank = false

theorem filled_number {n : Float} (h : n.isNaN = false) : (number n).Filled :=
  ⟨⟨rfl, fun m hm => by cases hm; exact h⟩, rfl⟩

theorem filled_string (s : String) : (string s).Filled :=
  ⟨⟨rfl, fun _ h => by cases h⟩, rfl⟩

theorem filled_boolean (b : Bool) : (boolean b).Filled :=
  ⟨⟨rfl, fun _ h => by cases h⟩, rfl⟩

/-- The place of a value; that of a blank or an array is of no account. -/
def place (fold : String → String) : Value → Place
  | .number n => .ofNumber n.toModel.unpack
  | .string s => ⟨1, 0, 0, 0, fold s, false⟩
  | .boolean b => ⟨2, 0, 0, 0, "", b⟩
  | _ => ⟨2, 0, 0, 0, "", false⟩

theorem Place.rank_ofNumber (n : UnpackedFloat) : (ofNumber n).rank = 0 := by
  cases n with
  | notANumber => rfl
  | infinity s => cases s <;> rfl
  | zero s => rfl
  | finite s m e _ => cases s <;> rfl

theorem Place.order_of_rank {p q : Place} (h : p.rank ≠ q.rank) :
    p.order q = Ord.compare p.rank q.rank := by
  have differ : Ord.compare p.rank q.rank ≠ .eq := fun same => h (compare_eq_iff_eq.1 same)
  rw [order, compareLex, compareOn]
  cases ranks : Ord.compare p.rank q.rank with
  | lt => rfl
  | eq => exact absurd ranks differ
  | gt => rfl

theorem Place.order_of_text (s t : String) :
    order ⟨1, 0, 0, 0, s, false⟩ ⟨1, 0, 0, 0, t, false⟩ = Ord.compare s t := by
  simp [order, compareLex, compareOn]

variable {fold : String → String} {a b c : Value}

theorem rank_place (fold : String → String) (a : Value) : (a.place fold).rank = a.rank := by
  cases a with
  | number n => exact Place.rank_ofNumber _
  | _ => rfl

theorem compareFilled_of_rank (h : a.rank ≠ b.rank) :
    compareFilled fold a b = Ord.compare a.rank b.rank := by
  cases a with
  | number n =>
    cases b with
    | number m => exact absurd rfl h
    | _ => rfl
  | string s =>
    cases b with
    | string t => exact absurd rfl h
    | _ => rfl
  | boolean s =>
    cases b with
    | boolean t => exact absurd rfl h
    | _ => rfl
  | _ => rfl

/-- Values with a kind of their own are in the order of their places. -/
theorem compareFilled_eq (ha : a.Filled) (hb : b.Filled) :
    compareFilled fold a b = (a.place fold).order (b.place fold) := by
  by_cases ranks : a.rank = b.rank
  · cases a with
    | number n =>
      cases b with
      | number m => exact compareNumbers_eq (ha.notNaN n rfl) (hb.notNaN m rfl)
      | _ => cases ranks
    | string s =>
      cases b with
      | string t => exact (Place.order_of_text (fold s) (fold t)).symm
      | _ => cases ranks
    | boolean s =>
      cases b with
      | boolean t => rfl
      | number _ | string _ => cases ranks
      | empty | null => cases hb.notBlank
      | array items => cases hb.notArray
    | empty | null => cases ha.notBlank
    | array items => cases ha.notArray
  · rw [compareFilled_of_rank ranks, Place.order_of_rank (by rwa [rank_place, rank_place]),
      rank_place, rank_place]

/-! ## Blanks -/

theorem fillBlank_of_filled (ha : a.Filled) (other : Value) : a.fillBlank other = a := by
  simp [fillBlank, ha.notBlank]

/-- A blank becomes a value that has a kind, except beside another blank. -/
theorem filled_fillBlank (ha : a.Comparable) (b : Value) : (a.fillBlank b).Filled := by
  by_cases blank : a.isBlank = true
  · simp only [fillBlank, if_pos blank]
    split
    · exact filled_string ""
    · exact filled_boolean false
    · exact filled_number (by decide)
  · simp only [fillBlank, if_neg blank]
    exact ⟨ha, by simpa using blank⟩

theorem compare_of_comparable (ha : a.Comparable) (hb : b.Comparable) :
    a.compare fold b =
      if a.isBlank && b.isBlank then .eq
      else ((a.fillBlank b).place fold).order ((b.fillBlank a).place fold) := by
  rw [Value.compare, compareFilled_eq (filled_fillBlank ha b) (filled_fillBlank hb a)]

theorem compare_of_filled (ha : a.Filled) (hb : b.Filled) :
    a.compare fold b = (a.place fold).order (b.place fold) := by
  rw [compare_of_comparable ha.toComparable hb.toComparable, fillBlank_of_filled ha,
    fillBlank_of_filled hb, ha.notBlank]
  rfl

theorem compare_swap (ha : a.Comparable) (hb : b.Comparable) :
    b.compare fold a = (a.compare fold b).swap := by
  rw [compare_of_comparable ha hb, compare_of_comparable hb ha, Bool.and_comm]
  split
  · rfl
  · exact Std.OrientedCmp.eq_swap

/-- Every value that is ordered at all is equal to itself. -/
theorem compare_self (ha : a.Comparable) : a.compare fold a = .eq := by
  rw [compare_of_comparable ha ha]
  split
  · rfl
  · exact Std.ReflCmp.compare_self

theorem compare_trans (ha : a.Filled) (hb : b.Filled) (hc : c.Filled)
    (hab : (a.compare fold b).isLE) (hbc : (b.compare fold c).isLE) :
    (a.compare fold c).isLE := by
  rw [compare_of_filled ha hb] at hab
  rw [compare_of_filled hb hc] at hbc
  rw [compare_of_filled ha hc]
  exact Std.TransCmp.isLE_trans hab hbc

/-- With blanks the order is not transitive: a blank is equal to zero and to the empty text. -/
theorem compare_blank (fold : String → String) :
    compare fold (.string "") .empty = .eq ∧ compare fold .empty (.number 0) = .eq ∧
      compare fold (.string "") (.number 0) = .gt :=
  ⟨compare_self (filled_string "").toComparable,
    compare_self (filled_number (by decide)).toComparable, rfl⟩

end Value

namespace Comparison

variable {fold : String → String} {l r : Value}

theorem apply_of_array (comparison : Comparison) (h : l.isArray = true ∨ r.isArray = true) :
    comparison.apply fold l r = .error .value := by
  simp [apply, h]

theorem apply_of_comparable (hl : l.Comparable) (hr : r.Comparable) (comparison : Comparison) :
    comparison.apply fold l r = .ok (.boolean (comparison.holds (l.compare fold r))) := by
  simp [apply, hl.notArray, hr.notArray]

/-- Comparisons are those of a coherent order, whatever `fold` makes of texts, and the operators fold
them to lower case. An array has no place in it. -/
theorem apply_coherent (fold : String → String) :
    (∀ l r : Value, l.Comparable → r.Comparable →
      r.compare fold l = (l.compare fold r).swap ∧
      ∃ isLess isEqual isGreater : Bool, [isLess, isEqual, isGreater].count true = 1 ∧
        less.apply fold l r = .ok (.boolean isLess) ∧
        equal.apply fold l r = .ok (.boolean isEqual) ∧
        greater.apply fold l r = .ok (.boolean isGreater) ∧
        lessEqual.apply fold l r = .ok (.boolean (!isGreater)) ∧
        greaterEqual.apply fold l r = .ok (.boolean (!isLess)) ∧
        notEqual.apply fold l r = .ok (.boolean (!isEqual)) ∧
        less.apply fold r l = .ok (.boolean isGreater) ∧
        equal.apply fold r l = .ok (.boolean isEqual) ∧
        greater.apply fold r l = .ok (.boolean isLess)) ∧
    (∀ v : Value, v.Comparable → v.compare fold v = .eq) ∧
    (∀ a b c : Value, a.Filled → b.Filled → c.Filled →
      (a.compare fold b).isLE → (b.compare fold c).isLE → (a.compare fold c).isLE) ∧
    (∀ (n : Float) (s : String) (t : Bool),
      Value.compare fold (.number n) (.string s) = .lt ∧
      Value.compare fold (.string s) (.boolean t) = .lt ∧
      Value.compare fold (.number n) (.boolean t) = .lt) ∧
    (∀ (comparison : Comparison) (l r : Value), l.isArray = true ∨ r.isArray = true →
      comparison.apply fold l r = .error .value) ∧
    (∀ (comparison : Comparison) (l r : Value),
      BinaryOp.apply (.compare comparison) l r = comparison.apply Text.lower l r) := by
  refine ⟨fun l r hl hr => ⟨Value.compare_swap hl hr, ?_⟩, fun _ => Value.compare_self,
    fun _ _ _ => Value.compare_trans, fun _ _ _ => ⟨rfl, rfl, rfl⟩, fun _ _ _ => apply_of_array _,
    fun _ _ _ => rfl⟩
  refine ⟨(l.compare fold r).isLT, (l.compare fold r).isEq, (l.compare fold r).isGT, ?_⟩
  simp only [apply_of_comparable hl hr, apply_of_comparable hr hl, Value.compare_swap hl hr]
  cases l.compare fold r with
  | lt => simp [holds]
  | eq => simp [holds]
  | gt => simp [holds]

end Comparison

end SheetFormula
