import SheetFormula.Expr.Eval

/-!
# Runs of an expression

`Expr.Runs e xs result`: the expression `e` asks the lookups of the exchanges `xs`, in this order,
and if they are answered as there, it ends in `result`. A run knows nothing of contexts, so each
rule is about one node and the runs of its operands; `Expr.Raises` are the rules for nodes that fail
by themselves.

* `Context.observing`: a context that shows each exchange to an observer.
* `Expr.exists_runs`: evaluation in any context goes as some run. An observer changes nothing, and
  sees the exchanges of the run one after the other.
-/

namespace SheetFormula

/-- A lookup and its answer. -/
structure Exchange where
  lookup : Lookup
  answer : Except Failure Value

/-! ## Runs -/

namespace Expr

mutual

/-- The lookups of an expression with their answers, and what it ends in. -/
inductive Runs : Expr → List Exchange → Except Failure Value → Prop where
  | number {n : Float} {v : Value} (finite : Value.finite n = .ok v) : Runs (.number n) [] (.ok v)
  | string (s : String) : Runs (.string s) [] (.ok (.string s))
  | reference (ref : Reference) (answer : Except Failure Value) :
      Runs (.reference ref) [⟨.reference ref.label, answer⟩] answer
  | range (start stop : Reference) (answer : Except Failure Value) :
      Runs (.range start stop) [⟨.range start.label stop.label, answer⟩] answer
  | name (label : String) (answer : Except Failure Value) :
      Runs (.name label) [⟨.name label, answer⟩] answer
  | left {op : BinaryOp} {left right : Expr} {xs : List Exchange} {failure : Failure}
      (hl : Runs left xs (.error failure)) : Runs (.binary op left right) xs (.error failure)
  | right {op : BinaryOp} {left right : Expr} {xs ys : List Exchange} {l : Value}
      {failure : Failure} (hl : Runs left xs (.ok l)) (hr : Runs right ys (.error failure)) :
      Runs (.binary op left right) (xs ++ ys) (.error failure)
  | binary {op : BinaryOp} {left right : Expr} {xs ys : List Exchange} {l r v : Value}
      (hl : Runs left xs (.ok l)) (hr : Runs right ys (.ok r)) (applied : op.apply l r = .ok v) :
      Runs (.binary op left right) (xs ++ ys) (.ok v)
  | operand {op : UnaryOp} {operand : Expr} {xs : List Exchange} {failure : Failure}
      (h : Runs operand xs (.error failure)) : Runs (.unary op operand) xs (.error failure)
  | unary {op : UnaryOp} {operand : Expr} {xs : List Exchange} {u v : Value}
      (h : Runs operand xs (.ok u)) (applied : op.apply u = .ok v) :
      Runs (.unary op operand) xs (.ok v)
  | arguments {label : String} {args : List Expr} {xs : List Exchange} {failure : Failure}
      (h : RunsList args xs (.error failure)) : Runs (.call label args) xs (.error failure)
  /-- The call is asked last, with the values of the arguments. -/
  | call {label : String} {args : List Expr} {xs : List Exchange} {vs : List Value}
      (h : RunsList args xs (.ok vs)) (answer : Except Failure Value) :
      Runs (.call label args) (xs ++ [⟨.call label vs, answer⟩]) answer
  | cells {rows : List (List Expr)} {xs : List Exchange} {failure : Failure}
      (h : RunsRows rows xs (.error failure)) : Runs (.array rows) xs (.error failure)
  | array {rows : List (List Expr)} {xs : List Exchange} {vss : List (List Value)}
      (h : RunsRows rows xs (.ok vss)) : Runs (.array rows) xs (.ok (.block vss))
  | raised {e : Expr} {xs : List Exchange} {failure : Failure} (h : Raises e xs failure) :
      Runs e xs (.error failure)

/-- The failures of a node itself, after the exchanges of its operands. -/
inductive Raises : Expr → List Exchange → Failure → Prop where
  | number {n : Float} {code : ErrorCode} (finite : Value.finite n = .error code) :
      Raises (.number n) [] (.signal code)
  | error (code : ErrorCode) : Raises (.error code) [] (.signal code)
  | binary {op : BinaryOp} {left right : Expr} {xs ys : List Exchange} {l r : Value}
      {code : ErrorCode} (hl : Runs left xs (.ok l)) (hr : Runs right ys (.ok r))
      (applied : op.apply l r = .error code) :
      Raises (.binary op left right) (xs ++ ys) (.signal code)
  | unary {op : UnaryOp} {operand : Expr} {xs : List Exchange} {u : Value} {code : ErrorCode}
      (h : Runs operand xs (.ok u)) (applied : op.apply u = .error code) :
      Raises (.unary op operand) xs (.signal code)
  | colon (left right : Expr) : Raises (.colon left right) [] (.signal .value)

/-- The runs of expressions one after the other, up to the first failure. -/
inductive RunsList : List Expr → List Exchange → Except Failure (List Value) → Prop where
  | nil : RunsList [] [] (.ok [])
  | head {e : Expr} {es : List Expr} {xs : List Exchange} {failure : Failure}
      (h : Runs e xs (.error failure)) : RunsList (e :: es) xs (.error failure)
  | tail {e : Expr} {es : List Expr} {xs ys : List Exchange} {v : Value} {failure : Failure}
      (h : Runs e xs (.ok v)) (hs : RunsList es ys (.error failure)) :
      RunsList (e :: es) (xs ++ ys) (.error failure)
  | cons {e : Expr} {es : List Expr} {xs ys : List Exchange} {v : Value} {vs : List Value}
      (h : Runs e xs (.ok v)) (hs : RunsList es ys (.ok vs)) :
      RunsList (e :: es) (xs ++ ys) (.ok (v :: vs))

/-- The runs of rows one after the other, up to the first failure. -/
inductive RunsRows : List (List Expr) → List Exchange → Except Failure (List (List Value)) → Prop
    where
  | nil : RunsRows [] [] (.ok [])
  | head {row : List Expr} {rows : List (List Expr)} {xs : List Exchange} {failure : Failure}
      (h : RunsList row xs (.error failure)) : RunsRows (row :: rows) xs (.error failure)
  | tail {row : List Expr} {rows : List (List Expr)} {xs ys : List Exchange} {vs : List Value}
      {failure : Failure} (h : RunsList row xs (.ok vs)) (hs : RunsRows rows ys (.error failure)) :
      RunsRows (row :: rows) (xs ++ ys) (.error failure)
  | cons {row : List Expr} {rows : List (List Expr)} {xs ys : List Exchange} {vs : List Value}
      {vss : List (List Value)} (h : RunsList row xs (.ok vs)) (hs : RunsRows rows ys (.ok vss)) :
      RunsRows (row :: rows) (xs ++ ys) (.ok (vs :: vss))

end

end Expr

/-! ## Actions -/

section Action

variable {σ α β : Type} {act : Action σ α} {f : α → Action σ β} {s s' : σ}

theorem Action.lift_bind (act : StateM σ α) (f : α → Action σ β) (s : σ) :
    ((liftM act : Action σ α) >>= f) s = f (act s).1 (act s).2 :=
  rfl

theorem Action.bind_ok {v : α} (h : act s = (.ok v, s')) : (act >>= f) s = f v s' := by
  change (match act s with | (r, s') => ExceptT.bindCont f r s') = _
  rw [h]
  rfl

theorem Action.bind_error {failure : Failure} (h : act s = (.error failure, s')) :
    (act >>= f) s = (.error failure, s') := by
  change (match act s with | (r, s') => ExceptT.bindCont f r s') = _
  rw [h]
  rfl

end Action

/-! ## Observers -/

namespace Context

variable {σ τ : Type}

/-- A context that shows each exchange to an observer with a state `τ` of its own. -/
def observing (context : Context σ) (observe : τ → Exchange → τ) : Context (τ × σ) :=
  fun lookup state =>
    match context lookup state.2 with
    | (answer, after) => (answer, observe state.1 ⟨lookup, answer⟩, after)

/-- A context that keeps each exchange at the end of a list. -/
def transcribing (context : Context σ) : Context (List Exchange × σ) :=
  context.observing fun kept x => kept ++ [x]

theorem recording_eq_observing (context : Context σ) :
    context.recording = context.observing fun kept x => kept ++ [x.lookup] :=
  rfl

end Context

section Traced

variable {σ α β : Type}

/-- `Traced R act observed`: the action ends as some exchanges related to its result by `R` say, and
with an observer it does the same and the observer sees these exchanges. -/
def Traced (R : List Exchange → Except Failure α → Prop) (act : Action σ α)
    (observed : ∀ τ : Type, (τ → Exchange → τ) → Action (τ × σ) α) : Prop :=
  ∀ s, ∃ xs, R xs (act s).1 ∧ ∀ (τ : Type) (observe : τ → Exchange → τ) (t : τ),
    observed τ observe (t, s) = ((act s).1, xs.foldl observe t, (act s).2)

variable {R : List Exchange → Except Failure α → Prop}

theorem traced_of_const {result : Except Failure α} (h : R [] result) :
    Traced (σ := σ) R (fun s => (result, s)) fun _ _ s => (result, s) :=
  fun _ => ⟨[], h, fun _ _ _ => rfl⟩

theorem traced_lookup (context : Context σ) {R : List Exchange → Except Failure Value → Prop}
    {lookup : Lookup} (h : ∀ answer, R [⟨lookup, answer⟩] answer) :
    Traced R (context lookup) fun _ observe => context.observing observe lookup :=
  fun _ => ⟨_, h _, fun _ _ _ => rfl⟩

/-- After a success the exchanges of the rest follow. -/
theorem Traced.bind {T : List Exchange → Except Failure β → Prop} {act : Action σ α}
    {observed : ∀ τ : Type, (τ → Exchange → τ) → Action (τ × σ) α} {f : α → Action σ β}
    {g : α → ∀ τ : Type, (τ → Exchange → τ) → Action (τ × σ) β} (h : Traced R act observed)
    (stops : ∀ {xs failure}, R xs (.error failure) → T xs (.error failure))
    (goesOn : ∀ v, Traced (fun ys result => ∀ xs, R xs (.ok v) → T (xs ++ ys) result) (f v) (g v)) :
    Traced T (act >>= f) fun τ observe => observed τ observe >>= fun v => g v τ observe := by
  intro s
  obtain ⟨xs, hxs, seen⟩ := h s
  cases ha : act s with
  | mk result s' =>
    rw [ha] at hxs seen
    cases result with
    | error failure =>
      refine ⟨xs, ?_, fun τ observe t => ?_⟩
      · rw [Action.bind_error ha]
        exact stops hxs
      · rw [Action.bind_error ha]
        exact Action.bind_error (seen τ observe t)
    | ok v =>
      obtain ⟨ys, hys, seen'⟩ := goesOn v s'
      refine ⟨xs ++ ys, ?_, fun τ observe t => ?_⟩
      · rw [Action.bind_ok ha]
        exact hys xs hxs
      · rw [Action.bind_ok ha, List.foldl_append, ← seen' τ observe]
        exact Action.bind_ok (seen τ observe t)

end Traced

/-! ## Evaluation -/

namespace Expr

variable {σ : Type} (context : Context σ)

theorem traced_signalling {R : List Exchange → Except Failure Value → Prop}
    {result : Except ErrorCode Value} (ok : ∀ v, result = .ok v → R [] (.ok v))
    (error : ∀ code, result = .error code → R [] (.error (.signal code))) :
    Traced (σ := σ) R (signalling result) fun _ _ => signalling result := by
  cases result with
  | ok v => exact traced_of_const (ok v rfl)
  | error code => exact traced_of_const (error code rfl)

mutual

theorem traced_eval : ∀ e : Expr,
    Traced (Runs e) (e.eval context) fun _ observe => e.eval (context.observing observe)
  | .number n => by
    simp only [eval]
    exact traced_signalling (fun _ h => .number h) fun _ h => .raised (.number h)
  | .string s => by
    simp only [eval]
    exact traced_of_const (.string s)
  | .error code => by
    simp only [eval]
    exact traced_of_const (.raised (.error code))
  | .reference ref => by
    simp only [eval]
    exact traced_lookup context (.reference ref)
  | .range start stop => by
    simp only [eval]
    exact traced_lookup context (.range start stop)
  | .name label => by
    simp only [eval]
    exact traced_lookup context (.name label)
  | .binary op left right => by
    simp only [eval]
    refine (traced_eval left).bind .left fun l => ?_
    refine (traced_eval right).bind (fun hr _ hl => .right hl hr) fun r => ?_
    refine traced_signalling (fun v applied ys hr xs hl => ?_) fun code applied ys hr xs hl => ?_
    · rw [List.append_nil]
      exact .binary hl hr applied
    · rw [List.append_nil]
      exact .raised (.binary hl hr applied)
  | .unary op operand => by
    simp only [eval]
    refine (traced_eval operand).bind .operand fun u => ?_
    refine traced_signalling (fun v applied xs h => ?_) fun code applied xs h => ?_
    · rw [List.append_nil]
      exact .unary h applied
    · rw [List.append_nil]
      exact .raised (.unary h applied)
  | .colon left right => by
    simp only [eval]
    exact traced_of_const (.raised (.colon left right))
  | .call label args => by
    simp only [eval]
    refine (traced_evalList args).bind .arguments fun vs => ?_
    exact traced_lookup context fun answer _ h => .call h answer
  | .array rows => by
    simp only [eval]
    refine (traced_evalRows rows).bind .cells fun vss => traced_of_const fun xs h => ?_
    rw [List.append_nil]
    exact .array h

theorem traced_evalList : ∀ es : List Expr,
    Traced (RunsList es) (evalList context es) fun _ observe =>
      evalList (context.observing observe) es
  | [] => by
    simp only [evalList]
    exact traced_of_const .nil
  | e :: es => by
    simp only [evalList]
    refine (traced_eval e).bind .head fun v => ?_
    refine (traced_evalList es).bind (fun hs _ h => .tail h hs) fun vs => ?_
    refine traced_of_const fun ys hs xs h => ?_
    rw [List.append_nil]
    exact .cons h hs

theorem traced_evalRows : ∀ rows : List (List Expr),
    Traced (RunsRows rows) (evalRows context rows) fun _ observe =>
      evalRows (context.observing observe) rows
  | [] => by
    simp only [evalRows]
    exact traced_of_const .nil
  | row :: rows => by
    simp only [evalRows]
    refine (traced_evalList row).bind .head fun vs => ?_
    refine (traced_evalRows rows).bind (fun hs _ h => .tail h hs) fun vss => ?_
    refine traced_of_const fun ys hs xs h => ?_
    rw [List.append_nil]
    exact .cons h hs

end

/-- Evaluation goes as some run. An observer changes nothing, and sees the exchanges of the run. -/
theorem exists_runs (e : Expr) (s : σ) :
    ∃ xs, Runs e xs (e.eval context s).1 ∧
      ∀ (τ : Type) (observe : τ → Exchange → τ) (t : τ), e.eval (context.observing observe) (t, s) =
        ((e.eval context s).1, xs.foldl observe t, (e.eval context s).2) :=
  traced_eval context e s

end Expr

end SheetFormula
