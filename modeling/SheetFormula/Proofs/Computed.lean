import SheetFormula.Builtin

/-!
# What operators and functions compute

Operators and built-in functions give finite numbers, or hand an operand or an argument on as it is.
Where they fail, it is with one of three codes. `Computes P x` says both of a computation `x`, with
`P` for its value; it is kept by the steps that computations consist of, so each function takes a
line.

* `Value.AllFinite`: every number in a value is finite.
* `BinaryOp.computes_apply`, `UnaryOp.computes_apply`, `Builtin.computes_call`: what operators and
  calls of built-in functions compute, from any operands and arguments.
-/

namespace SheetFormula

/-- Every number in a value is finite, at any nesting of arrays. -/
inductive Value.AllFinite : Value → Prop where
  | empty : AllFinite .empty
  | null : AllFinite .null
  | boolean (b : Bool) : AllFinite (.boolean b)
  | number {n : Float} (finite : n.isFinite) : AllFinite (.number n)
  | string (s : String) : AllFinite (.string s)
  | array {items : List Value} (all : ∀ v ∈ items, AllFinite v) : AllFinite (.array items)

theorem Value.allFinite_block {rows : List (List Value)}
    (h : ∀ row ∈ rows, ∀ v ∈ row, v.AllFinite) : (block rows).AllFinite := by
  refine .array fun v hv => ?_
  obtain ⟨row, hrow, rfl⟩ := List.mem_map.1 hv
  exact .array (h row hrow)

/-- The codes that operators and built-in functions fail with. -/
def ErrorCode.isComputed : ErrorCode → Bool
  | .div0 | .num | .value => true
  | .name | .na | .null | .ref | .error => false

/-- A computation gives something in `P`, or fails with a code of operators and functions. -/
def Computes {α : Type} (P : α → Prop) : Except ErrorCode α → Prop
  | .ok a => P a
  | .error code => code.isComputed

namespace Computes

variable {α β : Type} {P Q : α → Prop} {T : β → Prop} {x : Except ErrorCode α}

theorem mono (h : Computes P x) (le : ∀ a, P a → Q a) : Computes Q x := by
  cases x with
  | ok a => exact le a h
  | error code => exact h

theorem bind {f : α → Except ErrorCode β} (h : Computes P x) (hf : ∀ a, P a → Computes T (f a)) :
    Computes T (x >>= f) := by
  cases x with
  | ok a => exact hf a h
  | error code => exact h

theorem map {f : α → β} (h : Computes P x) (hf : ∀ a, P a → T (f a)) : Computes T (x.map f) := by
  cases x with
  | ok a => exact hf a h
  | error code => exact h

theorem mapM {f : β → Except ErrorCode α} (h : ∀ b, Computes (fun _ => True) (f b))
    (bs : List β) : Computes (fun _ => True) (bs.mapM f) := by
  induction bs with
  | nil => trivial
  | cons b bs ih =>
    rw [List.mapM_cons]
    exact (h b).bind fun _ _ => ih.bind fun _ _ => trivial

end Computes

/-! ## Operators -/

theorem Value.computes_requireNumber (v : Value) : Computes (fun _ => True) v.requireNumber := by
  unfold requireNumber
  split
  · trivial
  · rfl

theorem Value.computes_finite (n : Float) : Computes AllFinite (finite n) := by
  unfold finite
  split
  · exact .number ‹_›
  · rfl

/-- Both operands as numbers, and a computation on them. -/
theorem Value.computes_arithmetic {P : Value → Prop} {f : Float → Float → Except ErrorCode Value}
    (hf : ∀ a b, Computes P (f a b)) (l r : Value) :
    Computes P (do f (← l.requireNumber) (← r.requireNumber)) :=
  l.computes_requireNumber.bind fun a _ => r.computes_requireNumber.bind fun b _ => hf a b

theorem BinaryOp.computes_apply (op : BinaryOp) (l r : Value) :
    Computes Value.AllFinite (op.apply l r) := by
  cases op with
  | add => exact Value.computes_arithmetic (fun a b => Value.computes_finite (a + b)) l r
  | subtract => exact Value.computes_arithmetic (fun a b => Value.computes_finite (a - b)) l r
  | multiply => exact Value.computes_arithmetic (fun a b => Value.computes_finite (a * b)) l r
  | divide =>
    refine Value.computes_arithmetic (fun a b => ?_) l r
    split
    · rfl
    · exact Value.computes_finite (a / b)
  | power =>
    refine Value.computes_arithmetic (fun a b => ?_) l r
    split
    · rfl
    · exact Value.computes_finite (Value.raise a b)
  | concat =>
    simp only [apply]
    split
    · rfl
    · exact Value.AllFinite.string _
  | compare comparison =>
    simp only [apply, Comparison.apply]
    split
    · rfl
    · exact Value.AllFinite.boolean _

/-- A `+` in front hands its operand on. -/
theorem UnaryOp.computes_apply (op : UnaryOp) (v : Value) :
    Computes (fun w => w.AllFinite ∨ w = v) (op.apply v) := by
  cases op with
  | plus => exact .inr rfl
  | negate =>
    refine v.computes_requireNumber.bind fun n _ => ?_
    exact (Value.computes_finite (-n)).mono fun _ => .inl
  | percent =>
    refine v.computes_requireNumber.bind fun n _ => ?_
    exact (Value.computes_finite (n / 100)).mono fun _ => .inl

/-! ## Arguments -/

namespace Builtin

namespace Argument

theorem computes_number (args : List Value) (index : Nat) (default : Float) :
    Computes (fun _ => True) (number args index default) := by
  unfold number
  split
  · exact Value.computes_requireNumber _
  · trivial

theorem computes_text (args : List Value) (index : Nat) :
    Computes (fun _ => True) (text args index) := by
  unfold text
  split
  · rfl
  · trivial
  · trivial

theorem computes_truth (args : List Value) : Computes (fun _ => True) (truth args) := by
  unfold truth
  split
  · trivial
  · rfl

theorem computes_count (args : List Value) (index : Nat) :
    Computes (fun _ => True) (count args index) := by
  refine (computes_number args index 1).bind fun n _ => ?_
  split
  · rfl
  · trivial

theorem computes_numbersOf (v : Value) : Computes (fun _ => True) (numbersOf v) := by
  unfold numbersOf
  split
  · trivial
  · split
    · trivial
    · exact v.computes_requireNumber.map fun _ _ => trivial

theorem computes_numbers (args : List Value) : Computes (fun _ => True) (numbers args) :=
  (Computes.mapM computes_numbersOf args).map fun _ _ => trivial

theorem computes_truthsOf (v : Value) : Computes (fun _ => True) (truthsOf v) := by
  unfold truthsOf
  split
  · trivial
  · split
    · trivial
    · split
      · trivial
      · rfl

theorem computes_truths (args : List Value) : Computes (fun _ => True) (truths args) := by
  refine (Computes.mapM computes_truthsOf args).bind fun bss _ => ?_
  dsimp only
  split
  · rfl
  · trivial

end Argument

/-! ## Built-in functions -/

open Argument

/-- A function gives no array, or one of its arguments. -/
theorem computes_apply (f : Builtin) (args : List Value) :
    Computes (fun v => v.isArray = false ∨ v ∈ args) (f.apply args) := by
  cases f with
  | sum | product | min | max => exact (computes_numbers args).bind fun _ _ => .inl rfl
  | average =>
    refine (computes_numbers args).bind fun ns _ => ?_
    split
    · rfl
    · exact .inl rfl
  | count | pi | concatenate => exact .inl rfl
  | abs | int => exact (computes_number args 0 0).bind fun _ _ => .inl rfl
  | round =>
    exact (computes_number args 0 0).bind fun _ _ =>
      (computes_number args 1 0).bind fun _ _ => .inl rfl
  | mod =>
    refine (computes_number args 0 0).bind fun n _ => (computes_number args 1 0).bind fun d _ => ?_
    split
    · rfl
    · exact .inl rfl
  | sqrt =>
    refine (computes_number args 0 0).bind fun n _ => ?_
    split
    · rfl
    · exact .inl rfl
  | power =>
    refine (computes_number args 0 0).bind fun base _ =>
      (computes_number args 1 1).bind fun exponent _ => ?_
    unfold Value.finite
    split
    · exact .inl rfl
    · rfl
  | choose =>
    refine (computes_truth args).bind fun condition _ => ?_
    split
    · cases h : args[1]? with
      | none => exact .inl rfl
      | some v => exact .inr (List.mem_of_getElem? h)
    · cases h : args[2]? with
      | none => exact .inl rfl
      | some v => exact .inr (List.mem_of_getElem? h)
  | and | or | xor => exact (computes_truths args).bind fun _ _ => .inl rfl
  | not => exact (computes_truth args).bind fun _ _ => .inl rfl
  | len | upper | lower | trim => exact (computes_text args 0).bind fun _ _ => .inl rfl
  | left | right =>
    exact (computes_text args 0).bind fun _ _ => (computes_count args 1).bind fun _ _ => .inl rfl

/-- A call gives a value all of whose numbers are finite, or one of its arguments. -/
theorem computes_call (f : Builtin) (args : List Value) :
    Computes (fun v => v.AllFinite ∨ v ∈ args) (f.call args) := by
  unfold call
  split
  · refine (f.computes_apply args).bind fun v hv => ?_
    cases v with
    | number n => exact (Value.computes_finite n).mono fun _ => .inl
    | empty => exact .inl .empty
    | null => exact .inl .null
    | boolean b => exact .inl (.boolean b)
    | string s => exact .inl (.string s)
    | array items => exact .inr (hv.resolve_left (by simp [Value.isArray]))
  · rfl

end Builtin

end SheetFormula
