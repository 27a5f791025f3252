import Mathlib
import SheetFormula.Proofs.Names
import SheetFormula.Proofs.Together
import SheetFormula.Proofs.Watch

/-!
# What a formula depends on

`Engine.traced` is an engine that does as another one and keeps what it calls on: handlers,
functions of the host and its library (`Engine.evaluate_traced`). Two engines that differ in the
tables of variables and functions only, and not in what a formula names, evaluate it alike and call
on the same, in the same order (`Engine.evaluate_depends`).
-/

namespace SheetFormula

/-! ## Calls -/

/-- What an engine calls on. -/
inductive Callee where
  | onVariable (name : String)
  | onFunction (name : String) (args : List Value)
  | onReference (ref : Reference)
  | onRange (start stop : Reference)
  | function (name : String) (args : List Value)
  | library (name : String) (args : List Value)

/-- A computation with some calls kept at the end of a list. -/
def calling {σ α : Type} (calls : List Callee) (act : StateM σ α) : StateM (List Callee × σ) α :=
  fun state =>
    match act state.2 with
    | (a, after) => (a, state.1 ++ calls, after)

section Traced

variable {σ : Type}

/-- Handlers whose calls are kept. -/
def Handlers.traced (handlers : Handlers σ) : Handlers (List Callee × σ) where
  onVariable := handlers.onVariable.map fun handler name =>
    calling [.onVariable name] (handler name)
  onFunction := handlers.onFunction.map fun handler name args =>
    calling [.onFunction name args] (handler name args)
  onReference := handlers.onReference.map fun handler ref =>
    calling [.onReference ref] (handler ref)
  onRange := handlers.onRange.map fun handler start stop =>
    calling [.onRange start stop] (handler start stop)

/-- Functions whose calls are kept. -/
def Functions.traced (functions : Functions σ) : Functions (List Callee × σ) :=
  ⟨functions.values.map fun name function args => calling [.function name args] (function args)⟩

/-- A library whose calls are kept. -/
def Library.traced (library : Library σ) : Library (List Callee × σ) := fun name args =>
  calling [.library name args] (library name args)

/-- An engine that keeps what it calls on. -/
def Engine.traced (engine : Engine σ) : Engine (List Callee × σ) where
  options := engine.options
  vars := engine.vars
  functions := engine.functions.traced
  handlers := engine.handlers.traced
  library := engine.library.traced
  evaluations := engine.evaluations

theorem Functions.get?_traced (functions : Functions σ) (name : String) :
    functions.traced.get? name = (functions.get? name).map fun function args =>
      calling [.function name args] (function args) := by
  rw [get?, traced, Std.HashMap.getElem?_map]
  rfl

/-! ## A traced engine does as the engine -/

/-- Whatever is kept, the host is in the same state. -/
def SameState (s : σ) (t : List Callee × σ) : Prop :=
  t.2 = s

/-- Two actions do the same, and the second one keeps calls. -/
abbrev Traces {α : Type} (act : Action σ α) (act' : Action (List Callee × σ) α) : Prop :=
  Together SameState (fun _ => True) (fun _ _ => True) act act'

theorem traces_calling {α : Type} (calls : List Callee) (act : StateM σ α) :
    Traces (σ := σ) (liftM act) (liftM (calling calls act)) := by
  rintro s t rfl
  exact ⟨rfl, rfl, trivial⟩

theorem traces_pure {α : Type} (a : α) : Traces (σ := σ) (pure a) (pure a) :=
  .pure trivial

theorem traces_throw {α : Type} (failure : Failure) :
    Traces (α := α) (σ := σ) (throw failure) (throw failure) :=
  .throw fun _ _ _ => trivial

theorem Variables.resolve_traces (vars : Variables) (handlers : Handlers σ) (name : String) :
    Traces (vars.resolve handlers name) (vars.resolve handlers.traced name) := by
  have asked : Traces (σ := σ) (liftM (handlers.askVariable name))
      (liftM (handlers.traced.askVariable name)) := by
    unfold Handlers.askVariable Handlers.traced
    cases handlers.onVariable with
    | none => exact traces_pure none
    | some handler => exact traces_calling _ _
  refine asked.bind fun answer _ => ?_
  cases answer with
  | some v => exact traces_pure v
  | none =>
    cases vars.get? name with
    | some v => exact traces_pure v
    | none => exact traces_throw _

theorem Functions.resolve_traces (functions : Functions σ) (handlers : Handlers σ)
    (library : Library σ) (enabled : Bool) (name : String) (args : List Value) :
    Traces (functions.resolve handlers (if enabled then some library else none) name args)
      (functions.traced.resolve handlers.traced (if enabled then some library.traced else none)
        name args) := by
  have asked : Traces (σ := σ) (liftM (handlers.askFunction name args))
      (liftM (handlers.traced.askFunction name args)) := by
    unfold Handlers.askFunction Handlers.traced
    cases handlers.onFunction with
    | none => exact traces_pure none
    | some handler => exact traces_calling _ _
  unfold resolve
  rw [get?_traced]
  refine asked.bind fun answer _ => ?_
  cases answer with
  | some v => exact traces_pure v
  | none =>
    cases functions.get? name with
    | some function =>
      rintro s t rfl
      refine ⟨rfl, rfl, ?_⟩
      cases (function args t.2).1 <;> trivial
    | none =>
      cases enabled with
      | false => exact traces_throw _
      | true =>
        refine (traces_calling [.library name args] (library name args)).bind fun answer _ => ?_
        rcases answer with _ | _ | v
        · exact traces_throw _
        · exact traces_throw _
        · exact traces_pure v

theorem Handlers.reference_traces (handlers : Handlers σ) (label : String) :
    Traces (σ := σ) (liftM (handlers.reference label))
      (liftM (handlers.traced.reference label)) := by
  unfold reference askReference traced
  cases handlers.onReference with
  | none => exact traces_pure _
  | some handler => exact traces_calling [.onReference (.ofLabel label)] _

theorem Handlers.range_traces (handlers : Handlers σ) (start stop : String) :
    Traces (σ := σ) (liftM (handlers.range start stop))
      (liftM (handlers.traced.range start stop)) := by
  unfold range askRange traced
  cases handlers.onRange with
  | none => exact traces_pure _
  | some handler => exact traces_calling [.onRange (.ofLabel start) (.ofLabel stop)] _

theorem Engine.context_traces (engine : Engine σ) (lookup : Lookup) :
    Traces (engine.context lookup) (engine.traced.context lookup) := by
  cases lookup with
  | name name => exact engine.vars.resolve_traces engine.handlers name
  | call name args =>
    exact engine.functions.resolve_traces engine.handlers engine.library
      engine.options.libraryFunctions name args
  | reference label => exact engine.handlers.reference_traces label
  | range start stop => exact engine.handlers.range_traces start stop

theorem Engine.run_traces (engine : Engine σ) (text : String) :
    Traces (engine.run text) (engine.traced.run text) := by
  cases parsed : Formula.parse engine.options text with
  | error failure =>
    have traced : engine.traced.run text = throw failure := run_of_error parsed
    rw [run_of_error parsed, traced]
    exact traces_throw failure
  | ok e =>
    have traced : engine.traced.run text = e.eval engine.traced.context := run_of_ok parsed
    rw [run_of_ok parsed, traced]
    exact e.eval_together
      { asked := fun lookup _ _ => engine.context_traces lookup
        literal := fun _ _ _ _ _ => trivial
        computed := fun _ _ _ _ _ => trivial
        finite := fun _ _ => trivial
        block := fun _ _ => trivial }

/-- A traced engine evaluates a formula as the engine does. -/
theorem Engine.evaluate_traced (engine : Engine σ) (text : String) (s : σ) :
    ∃ calls, engine.traced.evaluate text ([], s) =
      (((engine.evaluate text s).1.1, (engine.evaluate text s).1.2.traced), calls,
        (engine.evaluate text s).2) := by
  by_cases empty : text = ""
  · subst empty
    exact ⟨[], rfl⟩
  · rw [evaluate_of_nonempty engine empty, evaluate_of_nonempty engine.traced empty]
    obtain ⟨state, result, -⟩ := engine.run_traces text s ([], s) rfl
    refine ⟨(engine.traced.run text ([], s)).2.1, ?_⟩
    rw [← result, ← state]
    rfl

end Traced

/-! ## Tables that agree on what a formula names -/

section Agreement

open SheetFormula.Expr (IsPart)

variable {σ : Type} {engine other : Engine σ} {e : Expr} {text : String}

/-- Two engines differ in their tables of variables and functions at most. -/
structure Engine.SharesHost (engine other : Engine σ) : Prop where
  options : engine.options = other.options
  handlers : engine.handlers = other.handlers
  library : engine.library = other.library

/-- Their tables do not differ in what an expression names. -/
structure Engine.AgreesOn (engine other : Engine σ) (e : Expr) : Prop where
  vars : ∀ label, IsPart (.name label) e → engine.vars.get? label = other.vars.get? label
  functions : ∀ label args, IsPart (.call label args) e →
    engine.functions.get? label = other.functions.get? label

namespace Engine

theorem SharesHost.traced (h : engine.SharesHost other) :
    engine.traced.SharesHost other.traced where
  options := h.options
  handlers := congrArg Handlers.traced h.handlers
  library := congrArg Library.traced h.library

theorem AgreesOn.traced (h : engine.AgreesOn other e) : engine.traced.AgreesOn other.traced e where
  vars := h.vars
  functions label args part := by
    have functions := h.functions label args part
    rw [Engine.traced, Engine.traced, Functions.get?_traced, functions, Functions.get?_traced]

/-- What an expression may ask is answered alike. -/
theorem AgreesOn.context_eq (h : engine.AgreesOn other e) (same : engine.SharesHost other)
    {lookup : Lookup} (asks : e.MayAsk lookup) : engine.context lookup = other.context lookup := by
  cases lookup with
  | name label => simp only [context, Variables.resolve, same.handlers, h.vars label asks]
  | call label vs =>
    obtain ⟨args, part⟩ := asks
    simp only [context, Functions.resolve, same.options, same.handlers, same.library,
      h.functions label args part]
  | reference label => simp only [context, same.handlers]
  | range start stop => simp only [context, same.handlers]

/-- Two engines evaluate a formula to one outcome and to one state of the host. -/
def SameOutcome (engine other : Engine σ) (text : String) : Prop :=
  ∀ s, (engine.evaluate text s).1.1 = (other.evaluate text s).1.1 ∧
    (engine.evaluate text s).2 = (other.evaluate text s).2

/-- Engines that answer alike what a formula may ask evaluate it alike. -/
theorem sameOutcome_of_context (options : engine.options = other.options)
    (answers : ∀ e, Formula.parse engine.options text = .ok e →
      ∀ lookup, e.MayAsk lookup → engine.context lookup = other.context lookup) :
    engine.SameOutcome other text := by
  have run : engine.run text = other.run text := by
    cases parsed : Formula.parse engine.options text with
    | error failure => rw [run_of_error parsed, run_of_error (options ▸ parsed)]
    | ok e =>
      rw [run_of_ok parsed, run_of_ok (options ▸ parsed), Expr.eval_congr (answers e parsed)]
  intro s
  by_cases empty : text = ""
  · subst empty
    exact ⟨rfl, rfl⟩
  · rw [evaluate_of_nonempty engine empty, evaluate_of_nonempty other empty, run]
    exact ⟨rfl, rfl⟩

theorem sameOutcome_of_agree (same : engine.SharesHost other)
    (agree : ∀ e, Formula.parse engine.options text = .ok e → engine.AgreesOn other e) :
    engine.SameOutcome other text :=
  sameOutcome_of_context same.options fun e parsed _ => (agree e parsed).context_eq same

/-- Two engines evaluate a formula to one outcome, with one sequence of calls, and to one state of
the host. -/
def EvaluatesAlike (engine other : Engine σ) (text : String) : Prop :=
  ∀ s, ∃ outcome calls after, ∀ either ∈ [engine, other],
    (either.evaluate text s).1.1 = outcome ∧ (either.evaluate text s).2 = after ∧
      either.traced.evaluate text ([], s) =
        ((outcome, (either.evaluate text s).1.2.traced), calls, after)

theorem evaluatesAlike_of_agree (same : engine.SharesHost other)
    (agree : ∀ e, Formula.parse engine.options text = .ok e → engine.AgreesOn other e) :
    engine.EvaluatesAlike other text := by
  intro s
  obtain ⟨outcome, after⟩ := sameOutcome_of_agree same agree s
  obtain ⟨-, tracedAfter⟩ := sameOutcome_of_agree same.traced
    (fun e parsed => (agree e parsed).traced) ([], s)
  obtain ⟨calls, first⟩ := engine.evaluate_traced text s
  obtain ⟨calls', second⟩ := other.evaluate_traced text s
  rw [first, second] at tracedAfter
  refine ⟨_, calls, _, List.forall_mem_cons.2 ⟨⟨rfl, rfl, first⟩, List.forall_mem_singleton.2
    ⟨outcome.symm, after.symm, ?_⟩⟩⟩
  rw [second, outcome, after, (Prod.mk.inj tracedAfter).1]

/-- A variable that a formula does not name has no part in it. -/
theorem evaluatesAlike_setVariable {name : String} (v : Value)
    (unnamed : ∀ e, Formula.parse engine.options text = .ok e → ¬IsPart (.name name) e) :
    engine.EvaluatesAlike { engine with vars := engine.vars.set name v } text := by
  refine evaluatesAlike_of_agree ⟨rfl, rfl, rfl⟩ fun e parsed =>
    ⟨fun label part => ?_, fun _ _ _ => rfl⟩
  rw [Variables.get?_set, if_neg]
  rintro rfl
  exact unnamed e parsed part

/-- A function has no part in a formula unless its name is in upper case. -/
theorem evaluatesAlike_setFunction {name : String} (function : HostFunction σ)
    (mixed : Text.upper name ≠ name) (text : String) :
    engine.EvaluatesAlike { engine with functions := engine.functions.set name function } text := by
  refine evaluatesAlike_of_agree ⟨rfl, rfl, rfl⟩ fun e parsed =>
    ⟨fun _ _ => rfl, fun label args part => ?_⟩
  rw [Functions.get?_set, if_neg]
  rintro rfl
  exact mixed (Formula.upper_of_call parsed part)

/-- A formula depends only on the variables and functions that it names, the functions in upper
case. So no variable that it does not name has a part in it, none with the label of a cell or with
an `@` in any formula, and no function whose name is not in upper case. -/
theorem evaluate_depends (same : engine.SharesHost other)
    (agree : ∀ e, Formula.parse engine.options text = .ok e → engine.AgreesOn other e) :
    engine.EvaluatesAlike other text ∧
      (∀ name v, (∀ e, Formula.parse engine.options text = .ok e → ¬IsPart (.name name) e) →
        engine.EvaluatesAlike { engine with vars := engine.vars.set name v } text) ∧
      (∀ name v, ((∃ label : CellLabel, label.text = name) ∨ name.toList.head? = some '@') →
        ∀ text, engine.EvaluatesAlike { engine with vars := engine.vars.set name v } text) ∧
      ∀ name function, Text.upper name ≠ name →
        ∀ text, engine.EvaluatesAlike
          { engine with functions := engine.functions.set name function } text := by
  refine ⟨evaluatesAlike_of_agree same agree, fun name v => evaluatesAlike_setVariable v,
    fun name v noWord text => evaluatesAlike_setVariable v fun e parsed part => ?_,
    fun name function => evaluatesAlike_setFunction function⟩
  obtain ⟨noLabel, noAt⟩ := Formula.not_label_of_name parsed part
  exact noWord.elim noLabel noAt

/-- `=f(x)` is evaluated alike whatever `X`, `TRUE` and the function `f` are: it names `x` and
`F`. -/
theorem evaluate_depends_case :
    let pair : HostFunction Unit := fun args => pure (.array args)
    let engine : Engine Unit :=
      { vars := Variables.initial.set "x" (.number 1), functions := Functions.empty.set "F" pair }
    let other : Engine Unit :=
      { engine with
        vars := (engine.vars.set "X" .null).set "TRUE" .empty
        functions := engine.functions.set "f" fun _ => pure .null }
    engine.SharesHost other ∧
      (∀ e, Formula.parse engine.options "=f(x)" = .ok e → engine.AgreesOn other e) ∧
      engine.EvaluatesAlike other "=f(x)" ∧
      (other.evaluate "=f(x)" ()).1.1 = .value (.array [.number 1]) := by
  intro pair engine other
  have parsed : Formula.parse {} "=f(x)" = .ok (.call "F" [.name "x"]) := by cbv
  have same : engine.SharesHost other := ⟨rfl, rfl, rfl⟩
  have agree : ∀ e, Formula.parse engine.options "=f(x)" = .ok e → engine.AgreesOn other e := by
    intro e h
    cases parsed.symm.trans h
    refine ⟨fun label part => ?_, fun label args part => ?_⟩
    · cases part with
      | argument mem h =>
        cases List.mem_singleton.1 mem
        cases h
        simp [engine, other, Variables.get?_set]
    · cases part with
      | self => simp [engine, other, Functions.get?_set]
      | argument mem h =>
        cases List.mem_singleton.1 mem
        cases h
  refine ⟨same, agree, (evaluate_depends same agree).1, ?_⟩
  have one : other.vars.get? "x" = some (.number 1) := by
    simp [engine, other, Variables.get?_set]
  have called : other.functions.get? "F" = some pair := by
    simp [engine, other, Functions.get?_set]
  have ran : other.run "=f(x)" = Expr.eval other.context (.call "F" [.name "x"]) :=
    run_of_ok parsed
  rw [evaluate_of_nonempty other (by decide), ran]
  simp only [Expr.eval, Expr.evalList, context, Variables.resolve, Functions.resolve, one, called]
  rfl

end Engine

end Agreement

end SheetFormula
