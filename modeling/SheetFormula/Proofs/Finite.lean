import Mathlib
import SheetFormula.Proofs.Together
import SheetFormula.Proofs.Watch

/-!
# Numbers stay finite

`Engine.logged` is an engine that does as another one and keeps what functions are handed: the
arguments for the handler, for the functions of the host and for the library. If a host supplies
only finite numbers (`Engine.SuppliesFinite`), then only finite numbers are handed on, and formulas
evaluate to finite numbers (`Engine.evaluate_finite`).

The engine and the logged one are compared under `Finite inv`: they are in the same state, the
invariant `inv` of the host holds, and what is kept is finite.
-/

namespace SheetFormula

/-! ## What functions are handed -/

/-- Who gets the arguments of a call. -/
inductive Receiver where
  | handler
  | host
  | library
  deriving DecidableEq

/-- Arguments that are handed on. -/
structure Handover where
  receiver : Receiver
  name : String
  args : List Value

/-- A computation with what is handed on for it kept at the end of a list. -/
def handing {σ α : Type} (handed : List Handover) (act : StateM σ α) :
    StateM (List Handover × σ) α :=
  fun state =>
    match act state.2 with
    | (a, after) => (a, state.1 ++ handed, after)

section Logged

variable {σ : Type}

/-- Handlers whose arguments are kept. -/
def Handlers.logged (handlers : Handlers σ) : Handlers (List Handover × σ) where
  onVariable := handlers.onVariable.map fun handler name => handing [] (handler name)
  onFunction := handlers.onFunction.map fun handler name args =>
    handing [⟨.handler, name, args⟩] (handler name args)
  onReference := handlers.onReference.map fun handler ref => handing [] (handler ref)
  onRange := handlers.onRange.map fun handler start stop => handing [] (handler start stop)

/-- Functions whose arguments are kept. -/
def Functions.logged (functions : Functions σ) : Functions (List Handover × σ) :=
  ⟨functions.values.map fun name function args =>
    handing [⟨.host, name, args⟩] (function args)⟩

/-- A library whose arguments are kept. -/
def Library.logged (library : Library σ) : Library (List Handover × σ) := fun name args =>
  handing [⟨.library, name, args⟩] (library name args)

/-- An engine that keeps what functions are handed. -/
def Engine.logged (engine : Engine σ) : Engine (List Handover × σ) where
  options := engine.options
  vars := engine.vars
  functions := engine.functions.logged
  handlers := engine.handlers.logged
  library := engine.library.logged
  evaluations := engine.evaluations

theorem handing_nil_pure {α : Type} (a : α) :
    handing [] (pure a : StateM σ α) = (pure a : StateM (List Handover × σ) α) :=
  funext fun state => congrArg (fun kept => (a, kept, state.2)) (List.append_nil state.1)

theorem Handlers.askVariable_logged (handlers : Handlers σ) (name : String) :
    handlers.logged.askVariable name = handing [] (handlers.askVariable name) := by
  unfold askVariable logged
  cases handlers.onVariable with
  | none => exact (handing_nil_pure none).symm
  | some handler => rfl

theorem Handlers.askFunction_logged (handlers : Handlers σ) (name : String) (args : List Value) :
    ∃ handed : List Handover, (∀ handover ∈ handed, handover.args = args) ∧
      handlers.logged.askFunction name args = handing handed (handlers.askFunction name args) := by
  unfold askFunction logged
  cases handlers.onFunction with
  | none => exact ⟨[], nofun, (handing_nil_pure none).symm⟩
  | some handler => exact ⟨_, by simp, rfl⟩

theorem Handlers.askReference_logged (handlers : Handlers σ) (ref : Reference) :
    handlers.logged.askReference ref = handing [] (handlers.askReference ref) := by
  unfold askReference logged
  cases handlers.onReference with
  | none => exact (handing_nil_pure none).symm
  | some handler => rfl

theorem Handlers.askRange_logged (handlers : Handlers σ) (start stop : Reference) :
    handlers.logged.askRange start stop = handing [] (handlers.askRange start stop) := by
  unfold askRange logged
  cases handlers.onRange with
  | none => exact (handing_nil_pure none).symm
  | some handler => rfl

theorem Functions.get?_logged (functions : Functions σ) (name : String) :
    functions.logged.get? name = (functions.get? name).map fun function args =>
      handing [⟨.host, name, args⟩] (function args) := by
  rw [get?, logged, Std.HashMap.getElem?_map]
  rfl

end Logged

/-! ## What hosts supply -/

section Supplies

variable {σ α : Type}

/-- From states in `inv`, a computation ends in such a state and gives a result in `P`. -/
def Keeps (inv : σ → Prop) (P : α → Prop) (act : StateM σ α) : Prop :=
  ∀ s, inv s → inv (act s).2 ∧ P (act s).1

/-- As long as the state of a host is in `inv`, it stays there and the host supplies finite values
only: its variables, the answers of its handlers, and what its functions give if they do not fail.
Functions and the handler of functions may rely on finite arguments. -/
structure Engine.SuppliesFinite (engine : Engine σ) (inv : σ → Prop) : Prop where
  vars : ∀ label v, engine.vars.get? label = some v → v.AllFinite
  onVariable : ∀ label, Keeps inv (fun answer : Option Value => ∀ v ∈ answer, v.AllFinite)
    (engine.handlers.askVariable label)
  onFunction : ∀ label args, (∀ v ∈ args, v.AllFinite) →
    Keeps inv (fun answer : Option Value => ∀ v ∈ answer, v.AllFinite)
      (engine.handlers.askFunction label args)
  onReference : ∀ ref, Keeps inv (fun answer : Option Value => ∀ v ∈ answer, v.AllFinite)
    (engine.handlers.askReference ref)
  onRange : ∀ start stop, Keeps inv
    (fun answer : Option (List (List Value)) =>
      ∀ rows ∈ answer, ∀ row ∈ rows, ∀ v ∈ row, v.AllFinite)
    (engine.handlers.askRange start stop)
  functions : ∀ label function, engine.functions.get? label = some function →
    ∀ args, (∀ v ∈ args, v.AllFinite) →
      Keeps inv (fun result : Except Failure Value => ∀ v, result = .ok v → v.AllFinite)
        (function args)

/-- An engine and the logged one are in the same state, which is in `inv`, and what is kept is
finite. -/
structure InStep (inv : σ → Prop) (s : σ) (t : List Handover × σ) : Prop where
  same : t.2 = s
  holds : inv s
  handed : ∀ handover ∈ t.1, ∀ v ∈ handover.args, v.AllFinite

variable {inv : σ → Prop} {P : α → Prop} {act : StateM σ α} {handed : List Handover}

theorem Keeps.handing (h : Keeps inv P act)
    (finite : ∀ handover ∈ handed, ∀ v ∈ handover.args, v.AllFinite) {s : σ}
    {t : List Handover × σ} (step : InStep inv s t) :
    InStep inv (act s).2 (handing handed act t).2 ∧ (act s).1 = (handing handed act t).1 ∧
      P (act s).1 := by
  obtain ⟨rfl, holds, before⟩ := step
  obtain ⟨holds', result⟩ := h _ holds
  exact ⟨⟨rfl, holds', List.forall_mem_append.2 ⟨before, finite⟩⟩, rfl, result⟩

/-- A computation without failures of its own. -/
theorem Keeps.together (h : Keeps inv P act)
    (finite : ∀ handover ∈ handed, ∀ v ∈ handover.args, v.AllFinite) :
    Together (InStep inv) P (fun _ _ => True) (liftM act)
      (liftM (SheetFormula.handing handed act)) := by
  intro s t step
  obtain ⟨related, same, result⟩ := h.handing finite step
  exact ⟨related, congrArg Except.ok same, result⟩

theorem Keeps.together_of_ok {act : Action σ α}
    (h : Keeps inv (fun result : Except Failure α => ∀ v, result = .ok v → P v) act)
    (finite : ∀ handover ∈ handed, ∀ v ∈ handover.args, v.AllFinite) :
    Together (InStep inv) P (fun _ _ => True) act (SheetFormula.handing handed act) := by
  intro s t step
  obtain ⟨related, same, result⟩ := h.handing finite step
  refine ⟨related, same, ?_⟩
  cases ran : (act s).1 with
  | ok v => exact result v ran
  | error failure => trivial

end Supplies

/-! ## Lookups -/

section Lookups

variable {σ : Type} {inv : σ → Prop} {engine : Engine σ}

theorem Variables.resolve_finite (supplies : engine.SuppliesFinite inv) (label : String) :
    Together (InStep inv) Value.AllFinite (fun _ _ => True)
      (engine.vars.resolve engine.handlers label)
      (engine.vars.resolve engine.handlers.logged label) := by
  unfold resolve
  rw [Handlers.askVariable_logged]
  refine ((supplies.onVariable label).together (List.forall_mem_nil _)).bind fun answer finite => ?_
  cases answer with
  | some v => exact .pure (finite v rfl)
  | none =>
    cases defined : engine.vars.get? label with
    | some v => exact .pure (supplies.vars label v defined)
    | none => exact .throw fun _ _ _ => trivial

theorem Library.keeps_builtin {label : String} {args : List Value}
    (finite : ∀ v ∈ args, v.AllFinite) :
    Keeps inv
      (fun answer : Option (Except Failure Value) => ∀ v, answer = some (.ok v) → v.AllFinite)
      (Library.builtin label args) := by
  intro s holds
  refine ⟨holds, fun v h => ?_⟩
  obtain ⟨f, -, called⟩ := Option.map_eq_some_iff.1 h
  have computes := f.computes_call args
  cases result : f.call args with
  | error code =>
    rw [result] at called
    cases called
  | ok w =>
    rw [result] at called computes
    cases called
    rcases computes with allFinite | mem
    · exact allFinite
    · exact finite v mem

theorem Functions.resolve_finite (builtin : engine.library = .builtin)
    (supplies : engine.SuppliesFinite inv) (enabled : Bool) (label : String) {args : List Value}
    (finite : ∀ v ∈ args, v.AllFinite) :
    Together (InStep inv) Value.AllFinite (fun _ _ => True)
      (engine.functions.resolve engine.handlers (if enabled then some engine.library else none)
        label args)
      (engine.functions.logged.resolve engine.handlers.logged
        (if enabled then some engine.library.logged else none) label args) := by
  have handed : ∀ {handed : List Handover}, (∀ handover ∈ handed, handover.args = args) →
      ∀ handover ∈ handed, ∀ v ∈ handover.args, v.AllFinite := by
    intro handed same handover mem
    rw [same handover mem]
    exact finite
  obtain ⟨asked, sameArgs, logged⟩ := engine.handlers.askFunction_logged label args
  unfold resolve
  rw [logged, get?_logged]
  refine ((supplies.onFunction label args finite).together (handed sameArgs)).bind
    fun answer answered => ?_
  cases answer with
  | some v => exact .pure (answered v rfl)
  | none =>
    cases defined : engine.functions.get? label with
    | some function =>
      exact (supplies.functions label function defined args finite).together_of_ok
        (handed (by simp))
    | none =>
      cases enabled with
      | false => exact .throw fun _ _ _ => trivial
      | true =>
        have keeps : Keeps inv (fun answer : Option (Except Failure Value) =>
            ∀ v, answer = some (.ok v) → v.AllFinite) (engine.library label args) := by
          rw [builtin]
          exact Library.keeps_builtin finite
        have sameArgs : ∀ handover ∈ [Handover.mk .library label args], handover.args = args := by
          simp
        refine (keeps.together (handed sameArgs)).bind fun answer answered => ?_
        rcases answer with _ | _ | v
        · exact .throw fun _ _ _ => trivial
        · exact .throw fun _ _ _ => trivial
        · exact .pure (answered v rfl)

theorem Handlers.reference_finite (supplies : engine.SuppliesFinite inv) (label : String) :
    Together (InStep inv) Value.AllFinite (fun _ _ => True)
      (liftM (engine.handlers.reference label))
      (liftM (engine.handlers.logged.reference label)) := by
  have keeps : Keeps inv Value.AllFinite (engine.handlers.reference label) := by
    intro s holds
    obtain ⟨holds', answered⟩ := supplies.onReference (.ofLabel label) s holds
    refine ⟨holds', ?_⟩
    change (((engine.handlers.askReference (.ofLabel label)) s).1.getD .empty).AllFinite
    cases answer : (engine.handlers.askReference (.ofLabel label) s).1 with
    | none => exact .empty
    | some v => exact answered v answer
  have logged : engine.handlers.logged.reference label =
      handing [] (engine.handlers.reference label) := by
    unfold reference
    rw [askReference_logged]
    rfl
  rw [logged]
  exact keeps.together (List.forall_mem_nil _)

theorem Handlers.range_finite (supplies : engine.SuppliesFinite inv) (start stop : String) :
    Together (InStep inv) Value.AllFinite (fun _ _ => True)
      (liftM (engine.handlers.range start stop))
      (liftM (engine.handlers.logged.range start stop)) := by
  have keeps : Keeps inv Value.AllFinite (engine.handlers.range start stop) := by
    intro s holds
    obtain ⟨holds', answered⟩ := supplies.onRange (.ofLabel start) (.ofLabel stop) s holds
    refine ⟨holds', ?_⟩
    change (Value.block
      ((engine.handlers.askRange (.ofLabel start) (.ofLabel stop) s).1.getD [])).AllFinite
    cases answer : (engine.handlers.askRange (.ofLabel start) (.ofLabel stop) s).1 with
    | none => exact Value.allFinite_block (List.forall_mem_nil _)
    | some rows => exact Value.allFinite_block (answered rows answer)
  have logged : engine.handlers.logged.range start stop =
      handing [] (engine.handlers.range start stop) := by
    unfold range
    rw [askRange_logged]
    rfl
  rw [logged]
  exact keeps.together (List.forall_mem_nil _)

/-- What an expression may ask is answered with finite values if it is asked with such. -/
theorem Engine.context_finite (builtin : engine.library = .builtin)
    (supplies : engine.SuppliesFinite inv) (lookup : Lookup)
    (finite : ∀ v ∈ lookup.args, v.AllFinite) :
    Together (InStep inv) Value.AllFinite (fun _ _ => True) (engine.context lookup)
      (engine.logged.context lookup) := by
  cases lookup with
  | name label => exact Variables.resolve_finite supplies label
  | call label args =>
    exact Functions.resolve_finite builtin supplies engine.options.libraryFunctions label finite
  | reference label => exact Handlers.reference_finite supplies label
  | range start stop => exact Handlers.range_finite supplies start stop

end Lookups

/-! ## Formulas -/

section Formulas

variable {σ : Type} {inv : σ → Prop} {engine : Engine σ}

theorem Engine.run_finite (builtin : engine.library = .builtin)
    (supplies : engine.SuppliesFinite inv) (text : String) :
    Together (InStep inv) Value.AllFinite (fun _ _ => True) (engine.run text)
      (engine.logged.run text) := by
  cases parsed : Formula.parse engine.options text with
  | error failure =>
    have logged : engine.logged.run text = throw failure := run_of_error parsed
    rw [run_of_error parsed, logged]
    exact .throw fun _ _ _ => trivial
  | ok e =>
    have logged : engine.logged.run text = e.eval engine.logged.context := run_of_ok parsed
    rw [run_of_ok parsed, logged]
    exact e.eval_together
      { asked := fun lookup _ => context_finite builtin supplies lookup
        literal := fun _ _ _ _ _ => trivial
        computed := fun _ _ _ _ _ => trivial
        finite := fun _ finite => finite
        block := fun _ => Value.allFinite_block }

/-- If a host supplies finite numbers only, then a formula evaluates to finite numbers only, if to a
value at all, and only such are handed to functions and to their handler. -/
theorem Engine.evaluate_finite (builtin : engine.library = .builtin)
    (supplies : engine.SuppliesFinite inv) (text : String) {s : σ} (holds : inv s) :
    (∀ v, (engine.evaluate text s).1.1 = .value v → v.AllFinite) ∧
      ∃ handed : List Handover,
        engine.logged.evaluate text ([], s) =
          (((engine.evaluate text s).1.1, (engine.evaluate text s).1.2.logged), handed,
            (engine.evaluate text s).2) ∧
        ∀ handover ∈ handed, ∀ v ∈ handover.args, v.AllFinite := by
  by_cases nonempty : text = ""
  · subst nonempty
    exact ⟨nofun, [], rfl, List.forall_mem_nil _⟩
  · rw [evaluate_of_nonempty engine nonempty, evaluate_of_nonempty engine.logged nonempty]
    obtain ⟨⟨same, -, handed⟩, result, finite⟩ :=
      run_finite builtin supplies text s ([], s) ⟨rfl, holds, List.forall_mem_nil _⟩
    refine ⟨fun v h => ?_, (engine.logged.run text ([], s)).2.1, ?_, handed⟩
    · cases ran : (engine.run text s).1 with
      | error failure =>
        rw [ran] at h
        cases h
      | ok w =>
        rw [ran] at h finite
        cases h
        exact finite
    · rw [← result, ← same]
      rfl

/-- An engine for which every name has the number that the host keeps. Its function `PAIR` gives its
arguments back. -/
def Engine.storing : Engine Float where
  functions := Functions.empty.set "PAIR" fun args => pure (.array args)
  handlers := { onVariable := some fun _ n => (some (.number n), n) }

theorem Variables.allFinite_initial {label : String} {v : Value}
    (h : initial.get? label = some v) : v.AllFinite := by
  have table : initial = ((Variables.set ⟨∅⟩ "TRUE" (.boolean true)).set "FALSE"
      (.boolean false)).set "NULL" .null := rfl
  rw [table] at h
  simp only [get?_set] at h
  split at h
  · cases h
    exact .null
  · split at h
    · cases h
      exact .boolean false
    · split at h
      · cases h
        exact .boolean true
      · simp [get?] at h

/-- Finite numbers are supplied as long as a finite number is kept. -/
theorem Engine.storing_suppliesFinite : storing.SuppliesFinite (·.isFinite) where
  vars _ _ := Variables.allFinite_initial
  onVariable _ _ finite := ⟨finite, fun _ h => Option.some.inj h ▸ .number finite⟩
  onFunction _ _ _ _ finite := ⟨finite, nofun⟩
  onReference _ _ finite := ⟨finite, nofun⟩
  onRange _ _ _ finite := ⟨finite, nofun⟩
  functions label function defined args all _ finite := by
    simp only [storing, Functions.get?_set] at defined
    split at defined
    · cases defined
      exact ⟨finite, fun _ h => Except.ok.inj h ▸ .array all⟩
    · rw [Functions.get?_empty] at defined
      cases defined

/-- `pair(x)` is an array of one number, which is finite as it was handed to `PAIR`. -/
theorem Engine.evaluate_finite_storing :
    (storing.evaluate "pair(x)" 1).1.1 = .value (.array [.number 1]) ∧
      (Value.array [.number 1]).AllFinite ∧
      ∃ handed : List Handover,
        storing.logged.evaluate "pair(x)" ([], 1) =
          (((storing.evaluate "pair(x)" 1).1.1, (storing.evaluate "pair(x)" 1).1.2.logged), handed,
            (storing.evaluate "pair(x)" 1).2) ∧
        ∀ handover ∈ handed, ∀ v ∈ handover.args, v.AllFinite := by
  have parsed : Formula.parse {} "pair(x)" = .ok (.call "PAIR" [.name "x"]) := by
    cbv
  have evaluated : (storing.evaluate "pair(x)" 1).1.1 = .value (.array [.number 1]) := by
    have pair : storing.functions.get? "PAIR" = some fun args => pure (.array args) := by
      simp only [storing, Functions.get?_set, if_true]
    rw [evaluate_of_nonempty _ (by decide), run_of_ok parsed]
    simp only [Expr.eval, Expr.evalList, context, Variables.resolve, Functions.resolve, pair]
    rfl
  have builtin : storing.library = .builtin := rfl
  have one : (1 : Float).isFinite := by decide
  obtain ⟨finite, handed⟩ := evaluate_finite builtin storing_suppliesFinite "pair(x)" one
  exact ⟨evaluated, finite _ evaluated, handed⟩

end Formulas

end SheetFormula
