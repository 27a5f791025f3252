import Mathlib
import SheetFormula.Proofs.Dependence

/-!
# Handlers as a layer over the tables

Handlers of variables and of functions that answer from what they are asked alone are a layer in
front of the tables. `Engine.flattened` is an engine without these two handlers that has the layer
in its tables, for the names of one formula, and evaluates it alike (`Engine.evaluate_layered`).

* `Layer`: the answers of such handlers.
* `Engine.layered`: the function that a call comes to behind a layer.
* `Handlers.vacate`, `Handlers.decline`: an open slot, and one whose handler never answers.
-/

namespace SheetFormula

variable {σ : Type}

/-! ## Slots -/

namespace Handlers

/-- The slots for handlers. -/
inductive Slot where
  | onVariable
  | onFunction
  | onReference
  | onRange

/-- The handlers without the one in a slot. -/
def vacate (handlers : Handlers σ) : Slot → Handlers σ
  | .onVariable => { handlers with onVariable := none }
  | .onFunction => { handlers with onFunction := none }
  | .onReference => { handlers with onReference := none }
  | .onRange => { handlers with onRange := none }

/-- The handlers with one in a slot that declines whatever it is asked. -/
def decline (handlers : Handlers σ) : Slot → Handlers σ
  | .onVariable => { handlers with onVariable := some fun _ => pure none }
  | .onFunction => { handlers with onFunction := some fun _ _ => pure none }
  | .onReference => { handlers with onReference := some fun _ => pure none }
  | .onRange => { handlers with onRange := some fun _ _ => pure none }

end Handlers

namespace Engine

theorem context_decline (engine : Engine σ) (slot : Handlers.Slot) (lookup : Lookup) :
    { engine with handlers := engine.handlers.decline slot }.context lookup =
      { engine with handlers := engine.handlers.vacate slot }.context lookup := by
  cases slot <;> cases lookup <;> rfl

theorem sameOutcome_decline (engine : Engine σ) (slot : Handlers.Slot) (text : String) :
    { engine with handlers := engine.handlers.decline slot }.SameOutcome
      { engine with handlers := engine.handlers.vacate slot } text :=
  sameOutcome_of_context rfl fun _ _ lookup _ => engine.context_decline slot lookup

end Engine

/-! ## Layers -/

/-- Answers to names and to calls, where there is one. -/
structure Layer where
  onVariable : String → Option Value
  onFunction : String → List Value → Option Value

/-- The handlers of variables and of functions answer as a layer does, in every state of the host,
and leave the state as it is. An open slot never answers. -/
structure Handlers.Answers (handlers : Handlers σ) (layer : Layer) : Prop where
  vars : ∀ name, handlers.askVariable name = pure (layer.onVariable name)
  functions : ∀ name args, handlers.askFunction name args = pure (layer.onFunction name args)

/-- The variables with the answers of a layer to some topics. -/
def Variables.under (vars : Variables) (layer : Layer) : List Topic → Variables
  | [] => vars
  | .name label :: topics =>
    match layer.onVariable label with
    | some v => (vars.under layer topics).set label v
    | none => vars.under layer topics
  | .call _ :: topics | .reference _ :: topics | .range _ _ :: topics => vars.under layer topics

/-- The table with some functions for the calls among some topics. -/
def Functions.under (functions : Functions σ) (layered : String → HostFunction σ) :
    List Topic → Functions σ
  | [] => functions
  | .call label :: topics => (functions.under layered topics).set label (layered label)
  | .name _ :: topics | .reference _ :: topics | .range _ _ :: topics =>
    functions.under layered topics

theorem Variables.get?_under (vars : Variables) (layer : Layer) (topics : List Topic)
    (label : String) :
    (vars.under layer topics).get? label =
      if .name label ∈ topics then (layer.onVariable label).or (vars.get? label)
      else vars.get? label := by
  fun_induction under vars layer topics with
  | case1 => rfl
  | case2 name topics v answer ih =>
    rw [get?_set]
    split
    · rename_i same
      subst same
      simp [answer]
    · rename_i other
      simp [ih, Ne.symm other]
  | case3 name topics none ih =>
    rw [ih]
    by_cases same : label = name
    · subst same
      simp [none]
    · simp [same]
  | case4 | case5 | case6 => simpa

theorem Functions.get?_under (functions : Functions σ) (layered : String → HostFunction σ)
    {topics : List Topic} {label : String} (mem : .call label ∈ topics) :
    (functions.under layered topics).get? label = some (layered label) := by
  fun_induction under functions layered topics with
  | case1 => cases mem
  | case2 name topics ih =>
    rw [get?_set]
    split
    · rename_i same
      rw [same]
    · rename_i other
      exact ih (by simpa [Ne.symm other] using mem)
  | case3 _ _ ih | case4 _ _ ih | case5 _ _ _ ih => exact ih (by simpa using mem)

namespace Engine

/-- The function that a call of a name comes to: the answer of the layer, or else the function of
the host, or else that of the library if it is in use, or else `#NAME?`. A function that fails is
not replaced by the next. -/
def layered (engine : Engine σ) (layer : Layer) (name : String) : HostFunction σ := fun args =>
  match layer.onFunction name args, engine.functions.get? name with
  | some v, _ => pure v
  | none, some function => function args
  | none, none =>
    if engine.options.libraryFunctions then do
      match ← engine.library name args with
      | some (.ok v) => pure v
      | some (.error failure) => throw failure
      | none => throw (.signal .name)
    else
      throw (.signal .name)

/-- An engine has no handlers of variables and of functions, and for the names of a formula its
tables have what another engine's have behind a layer; else the two do not differ. -/
structure Flattens (flat engine : Engine σ) (layer : Layer) (text : String) : Prop where
  options : flat.options = engine.options
  library : flat.library = engine.library
  handlers : flat.handlers = (engine.handlers.vacate .onVariable).vacate .onFunction
  vars : ∀ e label, Formula.parse engine.options text = .ok e → .name label ∈ e.mentions →
    flat.vars.get? label = (layer.onVariable label).or (engine.vars.get? label)
  functions : ∀ e label, Formula.parse engine.options text = .ok e → .call label ∈ e.mentions →
    flat.functions.get? label = some (engine.layered layer label)

/-- The topics of a formula. -/
def topics (engine : Engine σ) (text : String) : List Topic :=
  match Formula.parse engine.options text with
  | .ok e => e.mentions
  | .error _ => []

/-- The engine without its handlers of variables and of functions, and with a layer in its tables
for the names of a formula. -/
def flattened (engine : Engine σ) (layer : Layer) (text : String) : Engine σ :=
  { engine with
    vars := engine.vars.under layer (engine.topics text)
    functions := engine.functions.under (engine.layered layer) (engine.topics text)
    handlers := (engine.handlers.vacate .onVariable).vacate .onFunction }

theorem topics_of_parse {engine : Engine σ} {text : String} {e : Expr}
    (parsed : Formula.parse engine.options text = .ok e) : engine.topics text = e.mentions := by
  rw [topics, parsed]

theorem flattened_flattens (engine : Engine σ) (layer : Layer) (text : String) :
    (engine.flattened layer text).Flattens engine layer text where
  options := rfl
  library := rfl
  handlers := rfl
  vars e label parsed mem := by
    rw [flattened, topics_of_parse parsed, Variables.get?_under, if_pos mem]
  functions e label parsed mem := by
    rw [flattened, topics_of_parse parsed, Functions.get?_under _ _ mem]

section

variable {engine flat : Engine σ} {layer : Layer} {text : String} {e : Expr}

theorem context_name (answers : engine.handlers.Answers layer) (label : String) :
    engine.context (.name label) =
      match (layer.onVariable label).or (engine.vars.get? label) with
      | some v => pure v
      | none => throw (.signal .name) := by
  simp only [context, Variables.resolve]
  rw [answers.vars]
  cases layer.onVariable label with
  | some v => rfl
  | none => rfl

theorem context_call (answers : engine.handlers.Answers layer) (label : String)
    (args : List Value) : engine.context (.call label args) = engine.layered layer label args := by
  simp only [context, Functions.resolve, layered]
  rw [answers.functions]
  cases layer.onFunction label args with
  | some v => rfl
  | none =>
    cases engine.functions.get? label with
    | some function => rfl
    | none =>
      cases engine.options.libraryFunctions with
      | false => rfl
      | true => rfl

theorem Flattens.answers_none (h : flat.Flattens engine layer text) :
    flat.handlers.Answers ⟨fun _ => none, fun _ _ => none⟩ := by
  rw [h.handlers]
  exact ⟨fun _ => rfl, fun _ _ => rfl⟩

theorem Flattens.context_eq (h : flat.Flattens engine layer text)
    (answers : engine.handlers.Answers layer) (parsed : Formula.parse engine.options text = .ok e)
    {lookup : Lookup} (asks : e.MayAsk lookup) : engine.context lookup = flat.context lookup := by
  have mem := asks.topic_mem
  cases lookup with
  | name label =>
    rw [context_name answers, context_name h.answers_none, h.vars e label parsed mem]
    rfl
  | call label args =>
    rw [context_call answers, context_call h.answers_none]
    unfold layered
    rw [h.functions e label parsed mem]
    rfl
  | reference label =>
    simp only [context, h.handlers]
    rfl
  | range start stop =>
    simp only [context, h.handlers]
    rfl

/-- Handlers of variables and of functions that answer from what they are asked alone are a layer
over the tables: a formula is evaluated alike without them and with the layer in the tables, and
there are such tables. A handler that never answers is as good as none, whatever its slot and the
other handlers. -/
theorem evaluate_layered (answers : engine.handlers.Answers layer) (text : String) :
    (engine.flattened layer text).Flattens engine layer text ∧
      (∀ flat : Engine σ, flat.Flattens engine layer text → engine.SameOutcome flat text) ∧
      ∀ (host : Engine σ) (slot : Handlers.Slot) (text : String),
        { host with handlers := host.handlers.decline slot }.SameOutcome
          { host with handlers := host.handlers.vacate slot } text :=
  ⟨engine.flattened_flattens layer text,
    fun _ h => sameOutcome_of_context h.options.symm fun _ parsed _ =>
      h.context_eq answers parsed,
    sameOutcome_decline⟩

end

/-- In `=SUM(x,SUM(y))` a layer answers for `x` and for the call with one argument; the outer call
comes to a function of the host, which fails, also when there is a `SUM` in the library. -/
theorem evaluate_layered_sum :
    let layer : Layer :=
      { onVariable := fun name => if name = "x" then some (.number 2) else none
        onFunction := fun _ args => if args.length = 1 then args.head? else none }
    let engine : Engine Unit :=
      { vars := Variables.initial.set "y" (.number 3)
        functions := Functions.empty.set "SUM" fun _ => throw (.signal .num)
        handlers :=
          { onVariable := some fun name => pure (layer.onVariable name)
            onFunction := some fun name args => pure (layer.onFunction name args) } }
    let flat := engine.flattened layer "=SUM(x,SUM(y))"
    engine.handlers.Answers layer ∧ engine.SameOutcome flat "=SUM(x,SUM(y))" ∧
      (flat.evaluate "=SUM(x,SUM(y))" ()).1.1 = .error .num := by
  intro layer engine flat
  have answers : engine.handlers.Answers layer := ⟨fun _ => rfl, fun _ _ => rfl⟩
  obtain ⟨flattens, same, -⟩ := evaluate_layered answers "=SUM(x,SUM(y))"
  have parsed : Formula.parse {} "=SUM(x,SUM(y))" =
      .ok (.call "SUM" [.name "x", .call "SUM" [.name "y"]]) := by cbv
  have ran : engine.run "=SUM(x,SUM(y))" =
      Expr.eval engine.context (.call "SUM" [.name "x", .call "SUM" [.name "y"]]) :=
    run_of_ok parsed
  have three : engine.vars.get? "y" = some (.number 3) := by
    simp [engine, Variables.get?_set]
  have failing : engine.functions.get? "SUM" = some fun _ => throw (.signal .num) := by
    simp [engine, Functions.get?_set]
  -- the outcome of the flattened engine is that of the engine with its handlers
  refine ⟨answers, same flat flattens, (same flat flattens ()).1.symm.trans ?_⟩
  rw [evaluate_of_nonempty engine (by decide), ran]
  simp only [Expr.eval, Expr.evalList, context_name answers, context_call answers, layered, three,
    failing]
  rfl

end Engine

end SheetFormula
