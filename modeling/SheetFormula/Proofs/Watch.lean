import SheetFormula.Engine
import SheetFormula.Proofs.Grammar.Acceptance
import SheetFormula.Proofs.Mentions
import SheetFormula.Proofs.Spelling

/-!
# What an engine is asked for

`Engine.watched` is an engine that does as another one and writes down the labels that its handlers
are asked for. It answers lookups as the other one with an observer does
(`Engine.context_watched`), so formulas evaluate to the same, and what it writes down are the labels
among the tokens of a formula (`Engine.evaluate_watched`).
-/

namespace SheetFormula

/-- A computation with some labels written down after it. -/
def noting {σ α : Type} (labels : List String) (act : StateM σ α) : StateM (List String × σ) α :=
  fun state =>
    match act state.2 with
    | (a, after) => (a, state.1 ++ labels, after)

section Watched

variable {σ : Type}

/-- Handlers that write down the labels they are asked for. An open slot is filled, and declines. -/
def Handlers.watched (handlers : Handlers σ) : Handlers (List String × σ) where
  onVariable := some fun name => noting [name] (handlers.askVariable name)
  onFunction := some fun name args => noting [] (handlers.askFunction name args)
  onReference := some fun ref => noting [ref.label] (handlers.askReference ref)
  onRange := some fun start stop => noting [start.label, stop.label] (handlers.askRange start stop)

/-- Functions that leave what is written down alone. -/
def Functions.watched (functions : Functions σ) : Functions (List String × σ) :=
  ⟨functions.values.map fun _ function args => noting [] (function args)⟩

/-- A library that leaves what is written down alone. -/
def Library.watched (library : Library σ) : Library (List String × σ) := fun name args =>
  noting [] (library name args)

/-- An engine that writes down the labels that it is asked for. -/
def Engine.watched (engine : Engine σ) : Engine (List String × σ) where
  options := engine.options
  vars := engine.vars
  functions := engine.functions.watched
  handlers := engine.handlers.watched
  library := engine.library.watched
  evaluations := engine.evaluations

/-! ## Lookups -/

theorem Reference.label_ofLabel (label : String) : (ofLabel label).label = label := by
  unfold ofLabel
  split <;> rfl

theorem Functions.get?_watched (functions : Functions σ) (name : String) :
    functions.watched.get? name =
      (functions.get? name).map fun function args => noting [] (function args) := by
  rw [get?, watched, Std.HashMap.getElem?_map]
  rfl

theorem noting_apply {α : Type} (labels : List String) (act : StateM σ α) (t : List String)
    (s : σ) : noting labels act (t, s) = ((act s).1, t ++ labels, (act s).2) :=
  rfl

theorem Variables.resolve_watched (vars : Variables) (handlers : Handlers σ) (name : String)
    (t : List String) (s : σ) :
    vars.resolve handlers.watched name (t, s) =
      ((vars.resolve handlers name s).1, t ++ [name], (vars.resolve handlers name s).2) := by
  have asked : handlers.watched.askVariable name = noting [name] (handlers.askVariable name) := rfl
  unfold resolve
  rw [Action.lift_bind, Action.lift_bind, asked, noting_apply]
  cases (handlers.askVariable name s).1 with
  | some v => rfl
  | none => cases vars.get? name <;> rfl

theorem Library.answer_watched (library : Library σ) (name : String) (args : List Value)
    (t : List String) (s : σ) :
    library.watched name args (t, s) =
      ((library name args s).1, t, (library name args s).2) := by
  rw [watched, noting_apply, List.append_nil]

theorem Functions.resolve_watched (functions : Functions σ) (handlers : Handlers σ)
    (library : Option (Library σ)) (name : String) (args : List Value) (t : List String) (s : σ) :
    functions.watched.resolve handlers.watched (library.map Library.watched) name args (t, s) =
      ((functions.resolve handlers library name args s).1, t,
        (functions.resolve handlers library name args s).2) := by
  have asked : handlers.watched.askFunction name args =
      noting [] (handlers.askFunction name args) := rfl
  unfold resolve
  rw [Action.lift_bind, Action.lift_bind, asked, noting_apply, List.append_nil, get?_watched]
  cases (handlers.askFunction name args s).1 with
  | some v => rfl
  | none =>
    cases functions.get? name with
    | some function =>
      change noting [] (function args) (t, _) = _
      rw [noting_apply, List.append_nil]
    | none =>
      cases library with
      | none => rfl
      | some library =>
        simp only [Option.map, Action.lift_bind, Library.answer_watched]
        rcases (library name args (handlers.askFunction name args s).2).1 with _ | _ | _ <;> rfl

theorem Handlers.reference_watched (handlers : Handlers σ) (label : String) :
    handlers.watched.reference label = noting [label] (handlers.reference label) := by
  have asked : handlers.watched.askReference (.ofLabel label) =
      noting [label] (handlers.askReference (.ofLabel label)) := by
    change noting [(Reference.ofLabel label).label] (handlers.askReference (.ofLabel label)) = _
    rw [Reference.label_ofLabel]
  unfold reference
  rw [asked]
  rfl

theorem Handlers.range_watched (handlers : Handlers σ) (start stop : String) :
    handlers.watched.range start stop = noting [start, stop] (handlers.range start stop) := by
  have asked : handlers.watched.askRange (.ofLabel start) (.ofLabel stop) =
      noting [start, stop] (handlers.askRange (.ofLabel start) (.ofLabel stop)) := by
    change noting [(Reference.ofLabel start).label, (Reference.ofLabel stop).label]
      (handlers.askRange (.ofLabel start) (.ofLabel stop)) = _
    rw [Reference.label_ofLabel, Reference.label_ofLabel]
  unfold range
  rw [asked]
  rfl

/-- To watch an engine is to observe its lookups. -/
theorem Engine.context_watched (engine : Engine σ) :
    engine.watched.context =
      engine.context.observing fun asked x => asked ++ x.labels := by
  funext lookup ⟨t, s⟩
  cases lookup with
  | name name => exact Variables.resolve_watched engine.vars engine.handlers name t s
  | call name args =>
    have called := engine.functions.resolve_watched engine.handlers
      (if engine.options.libraryFunctions then some engine.library else none) name args t s
    rw [apply_ite (Option.map Library.watched)] at called
    simp only [context, Context.observing, Exchange.labels, Exchange.topic, Lookup.topic,
      Topic.labels, List.append_nil]
    exact called
  | reference label =>
    have asked := engine.handlers.reference_watched label
    change (liftM (engine.handlers.watched.reference label) : Action (List String × σ) Value) _ = _
    rw [asked]
    rfl
  | range start stop =>
    have asked := engine.handlers.range_watched start stop
    change (liftM (engine.handlers.watched.range start stop) : Action (List String × σ) Value) _ = _
    rw [asked]
    rfl

/-! ## Formulas -/

theorem Engine.run_of_ok {engine : Engine σ} {text : String} {e : Expr}
    (h : Formula.parse engine.options text = .ok e) :
    engine.run text = e.eval engine.context := by
  rw [run, h]

theorem Engine.run_of_error {engine : Engine σ} {text : String} {failure : Failure}
    (h : Formula.parse engine.options text = .error failure) :
    engine.run text = throw failure := by
  rw [run, h]

/-- A formula that is none asks for nothing. One that is asks, in order, for labels among its
tokens, and for all of them if it has a value. -/
theorem Engine.run_watched (engine : Engine σ) (text : String) (s : σ) :
    ∃ asked, (∀ t, engine.watched.run text (t, s) =
        ((engine.run text s).1, t ++ asked, (engine.run text s).2)) ∧
      (∀ failure, Formula.parse engine.options text = .error failure → asked = []) ∧
      ∀ e, Formula.parse engine.options text = .ok e →
        ∃ ts, Token.ofText (Formula.body engine.options text) = .ok ts ∧
          asked <+: Token.labels ts ∧
          ∀ v, (engine.run text s).1 = .ok v → asked = Token.labels ts := by
  cases parsed : Formula.parse engine.options text with
  | error failure =>
    refine ⟨[], fun t => ?_, fun _ _ => rfl, fun e he => ?_⟩
    · have watched : engine.watched.run text = throw failure := run_of_error parsed
      rw [watched, run_of_error parsed, List.append_nil]
      rfl
    · cases he
  | ok e =>
    obtain ⟨p, read, rfl, -⟩ := Grammar.parse_eq_ok_iff.1 parsed
    obtain ⟨xs, runs, seen⟩ := p.tree.exists_runs engine.context s
    have watched : engine.watched.run text = p.tree.eval engine.watched.context := run_of_ok parsed
    refine ⟨xs.flatMap Exchange.labels, fun t => ?_, fun failure hf => ?_, fun e he => ?_⟩
    · rw [watched, run_of_ok parsed, context_watched, seen, List.foldl_append_eq_append,
        List.flatMap_def]
    · cases hf
    · cases he
      refine ⟨p.tokens, read, ?_, fun v hv => ?_⟩
      · rw [Grammar.labels_of_phrase]
        exact runs.labels_prefix
      · rw [← run_of_ok parsed, hv] at runs
        rw [Grammar.labels_of_phrase]
        exact runs.labels_eq

theorem Engine.exists_parse_of_run {engine : Engine σ} {text : String} {s : σ} {v : Value}
    (h : (engine.run text s).1 = .ok v) : ∃ e, Formula.parse engine.options text = .ok e := by
  cases parsed : Formula.parse engine.options text with
  | ok e => exact ⟨e, rfl⟩
  | error failure =>
    rw [run_of_error parsed] at h
    cases h

theorem Engine.evaluate_of_nonempty (engine : Engine σ) {text : String} (h : text ≠ "") (s : σ) :
    engine.evaluate text s =
      ((match (engine.run text s).1 with
        | .ok v => .value v
        | .error failure => .error failure.code,
        { engine with evaluations := engine.evaluations + 1 }), (engine.run text s).2) := by
  have notEmpty : text.isEmpty = false := by
    simpa using h
  have bind : ∀ {α β : Type} (act : StateM σ α) (f : α → StateM σ β),
      (act >>= f) s = f (act s).1 (act s).2 := fun _ _ => rfl
  unfold evaluate
  rw [notEmpty, if_neg Bool.false_ne_true, bind, ExceptT.run]
  cases (engine.run text s).1 <;> rfl

/-- What a host is told about the result of a formula. -/
def Outcome.ofResult : Except Failure Value → Outcome
  | .ok v => .value v
  | .error failure => .error failure.code

theorem Engine.evaluate_of_parse {engine : Engine σ} {text : String} {e : Expr}
    (h : Formula.parse engine.options text = .ok e) (s : σ) :
    engine.evaluate text s =
      ((.ofResult (e.eval engine.context s).1,
        { engine with evaluations := engine.evaluations + 1 }), (e.eval engine.context s).2) := by
  rw [evaluate_of_nonempty engine (Formula.ne_empty_of_parse h), run_of_ok h]
  cases (e.eval engine.context s).1 <;> rfl

/-- To watch an engine changes nothing. The labels that it is asked for are, in order, those among
the tokens of the formula: all of them if the formula has a value, some first ones if it fails, and
none if it is not well formed. -/
theorem Engine.evaluate_watched (engine : Engine σ) (text : String) (s : σ) :
    ∃ asked,
      engine.watched.evaluate text ([], s) =
        (((engine.evaluate text s).1.1, (engine.evaluate text s).1.2.watched), asked,
          (engine.evaluate text s).2) ∧
      (∀ v, (engine.evaluate text s).1.1 = .value v →
        ∃ ts, Token.ofText (Formula.body engine.options text) = .ok ts ∧
          Token.Written ts (Formula.body engine.options text).toList ∧ asked = Token.labels ts) ∧
      (∀ e, Formula.parse engine.options text = .ok e →
        ∃ ts, Token.ofText (Formula.body engine.options text) = .ok ts ∧
          Token.Written ts (Formula.body engine.options text).toList ∧ asked <+: Token.labels ts) ∧
      ∀ failure, Formula.parse engine.options text = .error failure → asked = [] := by
  by_cases empty : text = ""
  · subst empty
    refine ⟨[], rfl, nofun, fun e he => ?_, fun _ _ => rfl⟩
    rw [Formula.parse_empty] at he
    cases he
  · obtain ⟨asked, watched, ofFailure, ofSuccess⟩ := engine.run_watched text s
    refine ⟨asked, ?_, fun v hv => ?_, fun e he => ?_, ofFailure⟩
    · rw [evaluate_of_nonempty _ empty, evaluate_of_nonempty _ empty, watched, List.nil_append]
      rfl
    · rw [evaluate_of_nonempty _ empty] at hv
      cases result : (engine.run text s).1 with
      | error failure =>
        rw [result] at hv
        cases hv
      | ok w =>
        obtain ⟨e, parsed⟩ := exists_parse_of_run result
        obtain ⟨ts, read, -, all⟩ := ofSuccess e parsed
        exact ⟨ts, read, Token.written_of_ofText read, all w result⟩
    · obtain ⟨ts, read, within, -⟩ := ofSuccess e he
      exact ⟨ts, read, Token.written_of_ofText read, within⟩

end Watched

end SheetFormula
