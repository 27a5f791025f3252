import Std.Data.HashMap
import SheetFormula.Builtin
import SheetFormula.Engine.Handlers
import SheetFormula.Text.Quoted

/-!
# Variables and functions

What a host defines by name. A variable is looked up with the handler first and then in the table;
a function with the handler, in the table and in a library, in this order. A name that nothing
defines is `#NAME?`.
-/

namespace SheetFormula

/-! ## Variables -/

/-- The values of variables, by exact name. -/
structure Variables where
  values : Std.HashMap String Value

namespace Variables

/-- The variables that every table starts with. -/
def initial : Variables :=
  ⟨(((∅ : Std.HashMap String Value).insert "TRUE" (.boolean true)).insert "FALSE"
    (.boolean false)).insert "NULL" .null⟩

/-- The table with a variable set. -/
def set (vars : Variables) (name : String) (v : Value) : Variables :=
  ⟨vars.values.insert name v⟩

/-- The value of a variable. -/
def get? (vars : Variables) (name : String) : Option Value :=
  vars.values[name]?

theorem get?_set (vars : Variables) (name label : String) (v : Value) :
    (vars.set name v).get? label = if name = label then some v else vars.get? label := by
  simp [get?, set, Std.HashMap.getElem?_insert]

/-- The number of variables. -/
def size (vars : Variables) : Nat :=
  vars.values.size

/-- Whether there are no variables. -/
def isEmpty (vars : Variables) : Bool :=
  vars.values.isEmpty

variable {σ : Type}

/-- The value of a name in a formula. -/
def resolve (vars : Variables) (handlers : Handlers σ) (name : String) : Action σ Value := do
  match ← handlers.askVariable name with
  | some v => pure v
  | none =>
    match vars.get? name with
    | some v => pure v
    | none => throw (.signal .name)

end Variables

/-! ## Functions -/

/-- A function that a host defines. It may fail in words of its own. -/
abbrev HostFunction (σ : Type) := List Value → Action σ Value

/-- Functions by name; a library may lack the function asked for. -/
abbrev Library (σ : Type) := String → List Value → StateM σ (Option (Except Failure Value))

/-- The library of the built-in functions. -/
def Library.builtin {σ : Type} : Library σ := fun name args =>
  pure ((Builtin.ofName? name).map fun f => (f.call args).mapError .signal)

/-- The functions that a host defines, by exact name. -/
structure Functions (σ : Type) where
  values : Std.HashMap String (HostFunction σ) := {}

namespace Functions

variable {σ : Type}

/-- No functions. -/
def empty : Functions σ := {}

/-- The table with a function set. -/
def set (functions : Functions σ) (name : String) (function : HostFunction σ) : Functions σ :=
  ⟨functions.values.insert name function⟩

/-- The function of a name. -/
def get? (functions : Functions σ) (name : String) : Option (HostFunction σ) :=
  functions.values[name]?

theorem get?_empty (label : String) : (empty : Functions σ).get? label = none :=
  Std.HashMap.getElem?_empty

theorem get?_set (functions : Functions σ) (name label : String) (function : HostFunction σ) :
    (functions.set name function).get? label =
      if name = label then some function else functions.get? label := by
  simp [get?, set, Std.HashMap.getElem?_insert]

/-- Whether a name has a function. -/
def contains (functions : Functions σ) (name : String) : Bool :=
  functions.values.contains name

/-- The names of all functions, in order. -/
def names (functions : Functions σ) : List String :=
  functions.values.keys.mergeSort

/-- The result of a call in a formula. A function of the table that fails is not replaced by one of
the library. -/
def resolve (functions : Functions σ) (handlers : Handlers σ) (library : Option (Library σ))
    (name : String) (args : List Value) : Action σ Value := do
  match ← handlers.askFunction name args with
  | some v => pure v
  | none =>
    match functions.get? name with
    | some function => function args
    | none =>
      match library with
      | none => throw (.signal .name)
      | some library =>
        match ← library name args with
        | some (.ok v) => pure v
        | some (.error failure) => throw failure
        | none => throw (.signal .name)

/-- The names of all functions, for a reader. -/
def describe (functions : Functions σ) : String :=
  "FunctionRegistry \x7b functions: [" ++
    ", ".intercalate (functions.names.map Text.quoted) ++ "] \x7d"

end Functions

end SheetFormula
