import Mathlib
import SheetFormula.Proofs.Together
import SheetFormula.Proofs.Watch
import SheetFormula.Proofs.Grammar.Threshold

/-!
# Where error codes come from

`Engine.Origin engine e after code`: what the code of an expression can come from if the host
defines no functions of its own. A formula that is not well formed is `#ERROR!`; any other one gives
a value, or a code with an origin (`Engine.evaluate_origin`). So `#ERROR!`, `#REF!`, `#N/A` and
`#NULL!` appear only where a formula spells them out.
-/

namespace SheetFormula

variable {σ : Type}

/-- What the error code of an expression comes from. With the state of the host `after` evaluation,
a name without a value is the last thing asked for. -/
inductive Engine.Origin (engine : Engine σ) (e : Expr) (after : σ) : ErrorCode → Prop where
  /-- An error literal. -/
  | literal {code : ErrorCode} (part : Expr.IsPart (.error code) e) : Origin engine e after code
  /-- An operator, a literal out of range or a built-in function. -/
  | computed {code : ErrorCode} (h : code.isComputed) : Origin engine e after code
  /-- A name that the handler declines and that is no variable. -/
  | name {label : String} {before : σ} (part : Expr.IsPart (.name label) e)
      (declined : engine.handlers.askVariable label before = (none, after))
      (undefined : engine.vars.get? label = none) : Origin engine e after .name
  /-- A call that the handler declines and that is of no built-in function, or of a disabled one. -/
  | call {label : String} {args : List Expr} {vs : List Value} {before : σ}
      (part : Expr.IsPart (.call label args) e)
      (declined : engine.handlers.askFunction label vs before = (none, after))
      (unknown : engine.options.libraryFunctions → Builtin.ofName? label = none) :
      Origin engine e after .name

/-! ## Lookups -/

theorem Variables.resolve_eq_error {vars : Variables} {handlers : Handlers σ} {label : String}
    {s s' : σ} {failure : Failure} (h : vars.resolve handlers label s = (.error failure, s')) :
    failure = .signal .name ∧ handlers.askVariable label s = (none, s') ∧
      vars.get? label = none := by
  unfold resolve at h
  rw [Action.lift_bind] at h
  cases asked : handlers.askVariable label s with
  | mk answer after =>
    rw [asked] at h
    cases answer with
    | some v => cases h
    | none =>
      cases defined : vars.get? label with
      | some v =>
        rw [defined] at h
        cases h
      | none =>
        rw [defined] at h
        cases h
        exact ⟨rfl, rfl, rfl⟩

/-- Without functions of the host a call fails as the built-in function does, or nobody knows it. -/
theorem Functions.resolve_eq_error {functions : Functions σ} {handlers : Handlers σ}
    {enabled : Bool} {label : String} {vs : List Value} {s s' : σ} {failure : Failure}
    (noHost : functions.get? label = none)
    (h : functions.resolve handlers (if enabled then some .builtin else none) label vs s =
      (.error failure, s')) :
    (∃ code, failure = .signal code ∧ code.isComputed) ∨
      failure = .signal .name ∧ handlers.askFunction label vs s = (none, s') ∧
        (enabled → Builtin.ofName? label = none) := by
  unfold resolve at h
  rw [Action.lift_bind, noHost] at h
  cases asked : handlers.askFunction label vs s with
  | mk answer after =>
    rw [asked] at h
    cases answer with
    | some v => cases h
    | none =>
      cases enabled with
      | false =>
        cases h
        exact .inr ⟨rfl, rfl, nofun⟩
      | true =>
        cases known : Builtin.ofName? label with
        | none =>
          simp only [if_true, Library.builtin, known, Option.map, Action.lift_bind] at h
          cases h
          exact .inr ⟨rfl, rfl, fun _ => rfl⟩
        | some f =>
          simp only [if_true, Library.builtin, known, Option.map, Action.lift_bind] at h
          have computes := f.computes_call vs
          cases called : f.call vs with
          | ok v =>
            rw [called] at h
            cases h
          | error code =>
            rw [called] at h computes
            cases h
            exact .inl ⟨code, rfl, computes⟩

/-- The lookups of an expression, if they fail, fail with a code that has an origin. -/
theorem Engine.origin_of_context {engine : Engine σ} (builtin : engine.library = .builtin)
    (noHost : ∀ label, engine.functions.get? label = none) {e : Expr} {lookup : Lookup}
    (asks : e.MayAsk lookup) {s s' : σ} {failure : Failure}
    (h : engine.context lookup s = (.error failure, s')) :
    ∃ code, failure = .signal code ∧ engine.Origin e s' code := by
  cases lookup with
  | name label =>
    obtain ⟨rfl, declined, undefined⟩ := Variables.resolve_eq_error h
    exact ⟨_, rfl, .name asks declined undefined⟩
  | call label vs =>
    obtain ⟨args, part⟩ := asks
    simp only [context, builtin] at h
    obtain ⟨code, rfl, computed⟩ | ⟨rfl, declined, unknown⟩ :=
      Functions.resolve_eq_error (noHost label) h
    · exact ⟨code, rfl, .computed computed⟩
    · exact ⟨_, rfl, .call part declined unknown⟩
  | reference label => cases h
  | range start stop => cases h

/-! ## Formulas -/

theorem Together.of_error {α : Type} {E : Failure → σ → Prop} {act : Action σ α}
    (h : ∀ s s' failure, act s = (.error failure, s') → E failure s') :
    Together Eq (fun _ => True) E act act := by
  rintro s _ rfl
  refine ⟨rfl, rfl, ?_⟩
  cases ran : act s with
  | mk result s' =>
    cases result with
    | ok v => trivial
    | error failure => exact h s s' failure ran

theorem Engine.origin_of_eval {engine : Engine σ} (builtin : engine.library = .builtin)
    (noHost : ∀ label, engine.functions.get? label = none) {e : Expr} {s : σ} {failure : Failure}
    (h : (e.eval engine.context s).1 = .error failure) :
    ∃ code, failure = .signal code ∧ engine.Origin e (e.eval engine.context s).2 code := by
  have covered : Expr.Covered engine.context engine.context Eq (fun _ => True)
      (fun failure after => ∃ code, failure = .signal code ∧ engine.Origin e after code) e :=
    { asked := fun _ asks _ => .of_error fun _ _ _ => origin_of_context builtin noHost asks
      literal := fun code _ _ part _ => ⟨code, rfl, .literal part⟩
      computed := fun code _ _ computed _ => ⟨code, rfl, .computed computed⟩
      finite := fun _ _ => trivial
      block := fun _ _ => trivial }
  obtain ⟨-, -, origin⟩ := Expr.eval_together e covered s s rfl
  rw [h] at origin
  exact origin

theorem Formula.code_of_parse_error {options : Options} {text : String} {failure : Failure}
    (h : Formula.parse options text = .error failure) : failure.code = .error := by
  obtain ⟨n, r, -, -, failures, decided⟩ := exists_parse_eq options text
  have same := decided options.maxDepth options.libraryFunctions
  rw [h] at same
  split at same
  · cases same
    rfl
  · obtain ⟨offset, fault, rfl⟩ | ⟨fault, rfl⟩ := failures failure same.symm <;> rfl

/-- Without functions of the host, a formula that is not well formed evaluates to `#ERROR!`. One
with a tree evaluates to a value or to a code with an origin in the tree, and if there is no error
literal in it, not to `#ERROR!`, `#REF!`, `#N/A` or `#NULL!`. -/
theorem Engine.evaluate_origin (engine : Engine σ) (builtin : engine.library = .builtin)
    (noHost : ∀ label, engine.functions.get? label = none) {text : String} (nonempty : text ≠ "")
    (s : σ) :
    (∀ failure, Formula.parse engine.options text = .error failure →
      (engine.evaluate text s).1.1 = .error .error) ∧
    ∀ e, Formula.parse engine.options text = .ok e →
      ((∃ v, (engine.evaluate text s).1.1 = .value v) ∨
        ∃ code, (engine.evaluate text s).1.1 = .error code ∧
          engine.Origin e (engine.evaluate text s).2 code) ∧
      ((∀ code, ¬Expr.IsPart (.error code) e) →
        ∀ code ∈ [ErrorCode.error, .ref, .na, .null],
          (engine.evaluate text s).1.1 ≠ .error code) := by
  rw [evaluate_of_nonempty engine nonempty]
  refine ⟨fun failure parsed => ?_, fun e parsed => ?_⟩
  · rw [run_of_error parsed]
    exact congrArg Outcome.error (Formula.code_of_parse_error parsed)
  · rw [run_of_ok parsed]
    cases result : (e.eval engine.context s).1 with
    | ok v => exact ⟨.inl ⟨v, rfl⟩, nofun⟩
    | error failure =>
      obtain ⟨code, rfl, origin⟩ := origin_of_eval builtin noHost result
      refine ⟨.inr ⟨code, rfl, origin⟩, fun noLiteral other mem same => ?_⟩
      obtain rfl : code = other := Outcome.error.inj same
      cases origin with
      | literal part => exact noLiteral code part
      | computed computed => revert mem computed; cases code <;> decide
      | name | call => revert mem; decide

/-- In `f(x)` nobody knows `x`, so it is not asked what `F` is. -/
theorem Engine.evaluate_origin_unknown :
    (({} : Engine Unit).evaluate "f(x)" ()).1.1 = .error .name ∧
      ({} : Engine Unit).Origin (.call "F" [.name "x"]) () .name ∧
      (({} : Engine Unit).evaluate "f(x" ()).1.1 = .error .error := by
  have parsed : Formula.parse {} "f(x)" = .ok (.call "F" [.name "x"]) := by
    cbv
  have illFormed : Formula.parse {} "f(x" = .error (.parse (.expected .rightParen none)) := by
    cbv
  have evaluated : (({} : Engine Unit).evaluate "f(x)" ()).1.1 = .error .name := by
    have undefined : Variables.initial.get? "x" = none := by
      simp [Variables.get?, Variables.initial]
    rw [evaluate_of_nonempty {} (by decide), run_of_ok parsed]
    simp only [Expr.eval, Expr.evalList, context, Variables.resolve, undefined]
    rfl
  refine ⟨evaluated, ?_, (evaluate_origin {} rfl Functions.get?_empty (by decide) ()).1 _ illFormed⟩
  obtain ⟨⟨v, h⟩ | ⟨code, h, origin⟩, -⟩ :=
    (evaluate_origin {} rfl Functions.get?_empty (by decide) ()).2 _ parsed
  · rw [evaluated] at h
    cases h
  · rw [evaluated] at h
    cases h
    exact origin

end SheetFormula
