import SheetFormula.Engine.Tables
import SheetFormula.Formula
import SheetFormula.Sheet

/-!
# The engine

An engine evaluates formulas with the variables, functions and handlers of a host, whose state `σ`
they may read and change. Here failures turn into error codes.

* `Engine.evaluate`: what a formula evaluates to, and the engine after it.
* `Engine.attach`: an engine that takes references and ranges from a sheet of the host's state.
-/

namespace SheetFormula

/-- What a formula evaluates to. -/
inductive Outcome where
  /-- The empty text is no formula. -/
  | nothing
  | value (v : Value)
  | error (code : ErrorCode)

/-- What formulas are evaluated with. -/
structure Engine (σ : Type) where
  options : Options := {}
  vars : Variables := .initial
  functions : Functions σ := .empty
  handlers : Handlers σ := .empty
  /-- The functions behind those of the host. -/
  library : Library σ := .builtin
  /-- How many formulas have been evaluated. -/
  evaluations : Nat := 0

namespace Engine

variable {σ : Type}

/-- How an engine answers the lookups of a formula. -/
def context (engine : Engine σ) : Context σ
  | .name name => engine.vars.resolve engine.handlers name
  | .call name args =>
    let library := if engine.options.libraryFunctions then some engine.library else none
    engine.functions.resolve engine.handlers library name args
  | .reference label => engine.handlers.reference label
  | .range start stop => engine.handlers.range start stop

/-- The value of a formula. -/
def run (engine : Engine σ) (text : String) : Action σ Value :=
  match Formula.parse engine.options text with
  | .ok expr => expr.eval engine.context
  | .error failure => throw failure

/-- What a formula evaluates to, and the engine after it. -/
def evaluate (engine : Engine σ) (text : String) : StateM σ (Outcome × Engine σ) := do
  if text.isEmpty then
    return (.nothing, engine)
  else
    let after := { engine with evaluations := engine.evaluations + 1 }
    match ← (engine.run text).run with
    | .ok v => return (.value v, after)
    | .error failure => return (.error failure.code, after)

/-- The engine with a sheet in front of references and ranges. The sheet is read anew for each
lookup, so later changes to it show. -/
def attach (engine : Engine σ) (sheet : σ → Sheet) : Engine σ :=
  { engine with
    handlers := { engine.handlers with
      onReference := some fun reference => do return (sheet (← get)).value? reference
      onRange := some fun start stop => do return (sheet (← get)).block? start stop } }

end Engine

end SheetFormula
