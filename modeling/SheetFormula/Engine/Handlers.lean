import SheetFormula.Expr.Eval

/-!
# Handlers

A host may put a handler in front of each kind of lookup. A handler gives an answer or declines; it
may read and change the host's state `σ` in either case. Handlers see labels as written.

* `Handlers.askVariable`, `Handlers.askFunction`, `Handlers.askReference`, `Handlers.askRange`: the
  answer of a handler; an open slot declines.
* `Handlers.reference`, `Handlers.range`: references that nobody answers for are empty.
-/

namespace SheetFormula

/-- The four slots for handlers. -/
structure Handlers (σ : Type) where
  onVariable : Option (String → StateM σ (Option Value)) := none
  onFunction : Option (String → List Value → StateM σ (Option Value)) := none
  onReference : Option (Reference → StateM σ (Option Value)) := none
  onRange : Option (Reference → Reference → StateM σ (Option (List (List Value)))) := none

namespace Handlers

variable {σ : Type}

/-- No handlers. -/
def empty : Handlers σ := {}

/-- The answer of the handler of variables. -/
def askVariable (handlers : Handlers σ) (name : String) : StateM σ (Option Value) :=
  match handlers.onVariable with
  | some handler => handler name
  | none => pure none

/-- The answer of the handler of functions. -/
def askFunction (handlers : Handlers σ) (name : String) (args : List Value) :
    StateM σ (Option Value) :=
  match handlers.onFunction with
  | some handler => handler name args
  | none => pure none

/-- The answer of the handler of references. -/
def askReference (handlers : Handlers σ) (reference : Reference) : StateM σ (Option Value) :=
  match handlers.onReference with
  | some handler => handler reference
  | none => pure none

/-- The answer of the handler of ranges. -/
def askRange (handlers : Handlers σ) (start stop : Reference) :
    StateM σ (Option (List (List Value))) :=
  match handlers.onRange with
  | some handler => handler start stop
  | none => pure none

/-- The value of the reference with a label. -/
def reference (handlers : Handlers σ) (label : String) : StateM σ Value := do
  return (← handlers.askReference (.ofLabel label)).getD .empty

/-- The values between the references with two labels, as an array of rows. -/
def range (handlers : Handlers σ) (start stop : String) : StateM σ Value := do
  return .block ((← handlers.askRange (.ofLabel start) (.ofLabel stop)).getD [])

/-- Whether a slot is filled, for a reader. -/
def describeSlot {α : Type} (slot : Option α) : String :=
  if slot.isSome then "true" else "false"

/-- Which slots are filled, for a reader. -/
def describe (handlers : Handlers σ) : String :=
  "Hooks \x7b call_variable: " ++ describeSlot handlers.onVariable ++
    ", call_function: " ++ describeSlot handlers.onFunction ++
    ", call_reference_value: " ++ describeSlot handlers.onReference ++
    ", call_range_value: " ++ describeSlot handlers.onRange ++ " \x7d"

end Handlers

end SheetFormula
