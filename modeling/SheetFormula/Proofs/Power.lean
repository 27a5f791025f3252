import Mathlib
import SheetFormula.Proofs.Watch

/-!
# Powers

A power is written with the operator `^` or as a call of `POWER`. Both evaluate and coerce their
operands in the same order, and both refuse what is not finite. Zero to the power of zero is the one
case in which they differ: the operator refuses it, the function takes it for one.

* `BinaryOp.apply_power`: the operator on values is the function but for that case.
* `Expr.eval_binary`, `Expr.eval_call_pair`: operands are evaluated as arguments are.
* `Engine.evaluate_power`: what follows for formulas, as long as `POWER` is the built-in function.
-/

namespace SheetFormula

/-! ## Powers of values -/

/-- A value that stands for the number zero, of either sign. -/
def Value.IsZero (v : Value) : Prop :=
  ∃ n, v.requireNumber = .ok n ∧ n == 0

/-- What the gate of calls is given is finite already, so it changes nothing. -/
theorem Value.finite_bind_finite (n : Float) :
    (do match ← finite n with
        | .number m => finite m
        | v => return v) = finite n := by
  by_cases h : n.isFinite
  · simp only [finite, if_pos h, bind, Except.bind]
  · simp only [finite, if_neg h, bind, Except.bind]

namespace Builtin

theorem call_power (l r : Value) :
    power.call [l, r] = (do
      let base ← l.requireNumber
      let exponent ← r.requireNumber
      Value.finite (Value.raise base exponent)) := by
  have admits : power.arity.admits [l, r].length = true := rfl
  rw [call, if_pos admits]
  simp only [apply, Scalar.power, Argument.number, List.getElem?_cons_zero,
    List.getElem?_cons_succ]
  cases l.requireNumber with
  | error code => rfl
  | ok base =>
    cases r.requireNumber with
    | error code => rfl
    | ok exponent => exact Value.finite_bind_finite _

/-- The power zero of every number is one, also that of zero. -/
theorem call_power_of_isZero {l r : Value} (hl : l.IsZero) (hr : r.IsZero) :
    power.call [l, r] = .ok (.number 1) := by
  obtain ⟨base, isBase, -⟩ := hl
  obtain ⟨exponent, isExponent, zero⟩ := hr
  rw [call_power, isBase, isExponent]
  change Value.finite (Value.raise base exponent) = _
  rw [Value.raise, if_pos zero]
  rfl

end Builtin

namespace BinaryOp

variable {l r : Value}

theorem apply_power_of_isZero (hl : l.IsZero) (hr : r.IsZero) :
    power.apply l r = .error .num := by
  obtain ⟨base, isBase, baseZero⟩ := hl
  obtain ⟨exponent, isExponent, zero⟩ := hr
  rw [apply, isBase, isExponent]
  exact if_pos (by rw [baseZero, zero, Bool.and_self])

/-- Unless both operands stand for zero, the operator does what the function does. -/
theorem apply_power (h : ¬(l.IsZero ∧ r.IsZero)) : power.apply l r = Builtin.power.call [l, r] := by
  rw [Builtin.call_power, apply]
  cases isBase : l.requireNumber with
  | error code => rfl
  | ok base =>
    cases isExponent : r.requireNumber with
    | error code => rfl
    | ok exponent =>
      -- The guard of the operator asks for what `h` rules out; behind it both do the same.
      refine if_neg fun zeros => h ?_
      rw [Bool.and_eq_true] at zeros
      exact ⟨⟨base, isBase, zeros.1⟩, exponent, isExponent, zeros.2⟩

end BinaryOp

/-! ## Operands and arguments -/

variable {σ : Type}

namespace Expr

/-- The values of two expressions, one after the other. -/
def evalBoth (context : Context σ) (l r : Expr) : Action σ (Value × Value) := do
  let v ← eval context l
  let w ← eval context r
  pure (v, w)

theorem eval_binary (context : Context σ) (op : BinaryOp) (l r : Expr) :
    eval context (.binary op l r) = (do
      let operands ← evalBoth context l r
      signalling (op.apply operands.1 operands.2)) := by
  simp only [eval, evalBoth, bind_assoc, pure_bind]

theorem eval_call_pair (context : Context σ) (label : String) (l r : Expr) :
    eval context (.call label [l, r]) = (do
      let operands ← evalBoth context l r
      context (.call label [operands.1, operands.2])) := by
  simp only [eval, evalList, evalBoth, bind_assoc, pure_bind]

end Expr

/-! ## Formulas -/

namespace Engine

variable {engine : Engine σ}

/-- Calls of a name come to a built-in function: the handler declines them, the host defines no
function of this name, and the library in use answers as the built-in function does. -/
structure CallsBuiltin (engine : Engine σ) (name : String) (f : Builtin) : Prop where
  declined : ∀ args s, (engine.handlers.askFunction name args s).1 = none
  undefined : engine.functions.get? name = none
  enabled : engine.options.libraryFunctions = true
  answered : ∀ args s, (engine.library name args s).1 = some ((f.call args).mapError .signal)

/-- Calls that nobody else takes come to the built-in functions. -/
theorem callsBuiltin_of_library {name : String} {f : Builtin} (builtin : engine.library = .builtin)
    (enabled : engine.options.libraryFunctions = true) (known : Builtin.ofName? name = some f)
    (declined : ∀ args s, (engine.handlers.askFunction name args s).1 = none)
    (undefined : engine.functions.get? name = none) : engine.CallsBuiltin name f :=
  { declined, undefined, enabled
    answered := fun args s => by
      rw [builtin, Library.builtin, known]
      rfl }

theorem CallsBuiltin.context {name : String} {f : Builtin} (h : engine.CallsBuiltin name f)
    (args : List Value) (s : σ) :
    (engine.context (.call name args) s).1 = (f.call args).mapError .signal := by
  simp only [Engine.context, Functions.resolve, h.enabled, if_true]
  rw [Action.lift_bind, h.declined, h.undefined]
  dsimp only
  rw [Action.lift_bind, h.answered]
  cases f.call args with
  | ok v => rfl
  | error code => rfl

/-- Both operands have values, and these stand for zero. -/
def BothZero (engine : Engine σ) (l r : Expr) (s : σ) : Prop :=
  ∃ v w after, Expr.evalBoth engine.context l r s = (.ok (v, w), after) ∧ v.IsZero ∧ w.IsZero

theorem eval_power_of_bothZero (calls : engine.CallsBuiltin "POWER" .power) {l r : Expr} {s : σ}
    (h : engine.BothZero l r s) :
    ((Expr.binary .power l r).eval engine.context s).1 = .error (.signal .num) ∧
      ((Expr.call "POWER" [l, r]).eval engine.context s).1 = .ok (.number 1) := by
  obtain ⟨v, w, after, ran, hv, hw⟩ := h
  rw [Expr.eval_binary, Expr.eval_call_pair, Action.bind_ok ran, Action.bind_ok ran,
    BinaryOp.apply_power_of_isZero hv hw, calls.context, Builtin.call_power_of_isZero hv hw]
  exact ⟨rfl, rfl⟩

theorem eval_power (calls : engine.CallsBuiltin "POWER" .power) {l r : Expr} {s : σ}
    (h : ¬engine.BothZero l r s) :
    ((Expr.binary .power l r).eval engine.context s).1 =
      ((Expr.call "POWER" [l, r]).eval engine.context s).1 := by
  rw [Expr.eval_binary, Expr.eval_call_pair]
  rcases ran : Expr.evalBoth engine.context l r s with ⟨failure | ⟨v, w⟩, after⟩
  · rw [Action.bind_error ran, Action.bind_error ran]
  · have nonzero : ¬(v.IsZero ∧ w.IsZero) := fun zeros => h ⟨v, w, after, ran, zeros⟩
    rw [Action.bind_ok ran, Action.bind_ok ran, BinaryOp.apply_power nonzero, calls.context]
    cases Builtin.power.call [v, w] with
    | ok v => rfl
    | error code => rfl

/-- As long as `POWER` is the built-in function, both ways to write a power come to the same value
or the same error, whatever the operands are and however they fail, except for zero to the power of
zero: then the operator gives `#NUM!` and the function one. Formulas evaluate accordingly. -/
theorem evaluate_power (calls : engine.CallsBuiltin "POWER" .power) (l r : Expr) (s : σ) :
    (¬engine.BothZero l r s →
      ((Expr.binary .power l r).eval engine.context s).1 =
        ((Expr.call "POWER" [l, r]).eval engine.context s).1) ∧
    (engine.BothZero l r s →
      ((Expr.binary .power l r).eval engine.context s).1 = .error (.signal .num) ∧
        ((Expr.call "POWER" [l, r]).eval engine.context s).1 = .ok (.number 1)) ∧
    ∀ written called, Formula.parse engine.options written = .ok (.binary .power l r) →
      Formula.parse engine.options called = .ok (.call "POWER" [l, r]) →
        ((engine.evaluate written s).1.1 = (engine.evaluate called s).1.1 ↔
          ¬engine.BothZero l r s) := by
  refine ⟨eval_power calls, eval_power_of_bothZero calls, fun written called parsed parsed' => ?_⟩
  rw [evaluate_of_parse parsed, evaluate_of_parse parsed']
  refine ⟨fun same zeros => ?_, fun nonzero => ?_⟩
  · obtain ⟨refused, one⟩ := eval_power_of_bothZero calls zeros
    rw [refused, one] at same
    cases same
  · rw [eval_power calls nonzero]

/-- A handler that counts the calls and declines them makes no difference. A reference and a text
are operands like any others. -/
theorem evaluate_power_text :
    let engine : Engine Nat :=
      { handlers :=
          { onReference := some fun _ calls => (some (.number (-2)), calls)
            onFunction := some fun _ _ calls => (none, calls + 1) } }
    let l : Expr := .reference ⟨.cell, "A1"⟩
    let r : Expr := .string " 3 "
    engine.CallsBuiltin "POWER" .power ∧ ¬engine.BothZero l r 0 ∧
      (engine.evaluate "=A1^\" 3 \"" 0).1.1 = (engine.evaluate "=Power(A1,\" 3 \")" 0).1.1 := by
  intro engine l r
  have known : Builtin.ofName? "POWER" = some .power := by cbv
  have calls : engine.CallsBuiltin "POWER" .power :=
    callsBuiltin_of_library rfl rfl known (fun _ _ => rfl) (Functions.get?_empty _)
  have written : Formula.parse {} "=A1^\" 3 \"" = .ok (.binary .power l r) := by cbv
  have called : Formula.parse {} "=Power(A1,\" 3 \")" = .ok (.call "POWER" [l, r]) := by cbv
  have nonzero : ¬engine.BothZero l r 0 := by
    rintro ⟨v, w, after, ran, ⟨n, number, zero⟩, -⟩
    have evaluated : Expr.evalBoth engine.context l r 0 = (.ok (.number (-2), .string " 3 "), 0) :=
      rfl
    rw [evaluated] at ran
    cases ran
    cases number
    revert zero
    decide
  exact ⟨calls, nonzero, ((evaluate_power calls l r 0).2.2 _ _ written called).2 nonzero⟩

/-- Zero to the power of zero, without handlers. -/
theorem evaluate_zero_power :
    ({} : Engine Unit).CallsBuiltin "POWER" .power ∧
      (({} : Engine Unit).evaluate "0^0" ()).1.1 = .error .num ∧
      (({} : Engine Unit).evaluate "POWER(0,0)" ()).1.1 = .value (.number 1) := by
  have known : Builtin.ofName? "POWER" = some .power := by cbv
  have calls : ({} : Engine Unit).CallsBuiltin "POWER" .power :=
    callsBuiltin_of_library rfl rfl known (fun _ _ => rfl) (Functions.get?_empty _)
  have written : Formula.parse ({} : Engine Unit).options "0^0" =
      .ok (.binary .power (.number 0) (.number 0)) := by cbv
  have called : Formula.parse ({} : Engine Unit).options "POWER(0,0)" =
      .ok (.call "POWER" [.number 0, .number 0]) := by cbv
  have zero : (Value.number 0).IsZero := ⟨0, rfl, by decide⟩
  have zeros : ({} : Engine Unit).BothZero (.number 0) (.number 0) () := by
    refine ⟨.number 0, .number 0, (), ?_, zero, zero⟩
    have finite : Value.finite 0 = .ok (.number 0) := if_pos (by decide)
    simp only [Expr.evalBoth, Expr.eval, finite]
    rfl
  obtain ⟨refused, one⟩ := eval_power_of_bothZero calls zeros
  refine ⟨calls, ?_, ?_⟩
  · rw [evaluate_of_parse written, refused]
    rfl
  · rw [evaluate_of_parse called, one]
    rfl

end Engine

end SheetFormula
