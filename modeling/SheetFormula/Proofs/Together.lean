import SheetFormula.Proofs.Computed
import SheetFormula.Proofs.Order

/-!
# Evaluation side by side

`Together R P E act act'`: two actions, from states related by `R`, end in one and the same result
and in related states; the result is a value in `P`, or a failure in `E`. If two contexts answer
whatever an expression may ask together, then it is evaluated together in both
(`Expr.eval_together`).

With two different contexts this compares evaluations, as with and without a log. With one context,
and equal states related, it says what evaluation gives.
-/

namespace SheetFormula

/-- From states related by `R`, two actions end in related states and in one and the same result: a
value in `P`, or a failure that is in `E` with the state after it. -/
def Together {σ τ α : Type} (R : σ → τ → Prop) (P : α → Prop) (E : Failure → σ → Prop)
    (act : Action σ α) (act' : Action τ α) : Prop :=
  ∀ s t, R s t → R (act s).2 (act' t).2 ∧ (act s).1 = (act' t).1 ∧
    match (act s).1 with
    | .ok v => P v
    | .error failure => E failure (act s).2

namespace Together

variable {σ τ α β : Type} {R : σ → τ → Prop} {P : α → Prop} {T : β → Prop}
  {E : Failure → σ → Prop} {act : Action σ α} {act' : Action τ α}

theorem pure {v : α} (h : P v) : Together R P E (Pure.pure v) (Pure.pure v) :=
  fun _ _ hR => ⟨hR, rfl, h⟩

theorem throw {failure : Failure} (h : ∀ s t, R s t → E failure s) :
    Together R P E (MonadExcept.throw failure) (MonadExcept.throw failure) :=
  fun s t hR => ⟨hR, rfl, h s t hR⟩

theorem bind {f : α → Action σ β} {f' : α → Action τ β} (h : Together R P E act act')
    (hf : ∀ v, P v → Together R T E (f v) (f' v)) : Together R T E (act >>= f) (act' >>= f') := by
  intro s t hR
  obtain ⟨related, same, good⟩ := h s t hR
  cases ha : act s with
  | mk result s' =>
    cases ha' : act' t with
    | mk result' t' =>
      rw [ha, ha'] at related
      rw [ha, ha'] at same
      rw [ha] at good
      cases same
      cases result with
      | ok v =>
        rw [Action.bind_ok ha, Action.bind_ok ha']
        exact hf v good s' t' related
      | error failure =>
        rw [Action.bind_error ha, Action.bind_error ha']
        exact ⟨related, rfl, good⟩

end Together

/-! ## What an expression depends on -/

/-- The arguments that a lookup passes on. -/
def Lookup.args : Lookup → List Value
  | .call _ args => args
  | .name _ | .reference _ | .range _ _ => []

namespace Expr

/-- Whether a node of an expression may ask a lookup. -/
def MayAsk (e : Expr) : Lookup → Prop
  | .name label => IsPart (.name label) e
  | .call label _ => ∃ args, IsPart (.call label args) e
  | .reference label => ∃ ref : Reference, ref.label = label ∧ IsPart (.reference ref) e
  | .range first last => ∃ start stop : Reference, start.label = first ∧ stop.label = last ∧
      IsPart (.range start stop) e

theorem MayAsk.mono {e e' : Expr} {lookup : Lookup} (h : e'.MayAsk lookup)
    (le : ∀ part, IsPart part e' → IsPart part e) : e.MayAsk lookup := by
  cases lookup with
  | name label => exact le _ h
  | call label vs =>
    obtain ⟨args, part⟩ := h
    exact ⟨args, le _ part⟩
  | reference label =>
    obtain ⟨ref, rfl, part⟩ := h
    exact ⟨ref, rfl, le _ part⟩
  | range first last =>
    obtain ⟨start, stop, rfl, rfl, part⟩ := h
    exact ⟨start, stop, rfl, rfl, le _ part⟩

theorem MayAsk.topic_mem {e : Expr} {lookup : Lookup} (h : e.MayAsk lookup) :
    lookup.topic ∈ e.mentions := by
  cases lookup with
  | name label => exact h.listed_subset true (List.mem_singleton_self _)
  | call label vs =>
    obtain ⟨args, part⟩ := h
    exact part.listed_subset true (List.mem_append_right _ (List.mem_singleton_self _))
  | reference label =>
    obtain ⟨ref, rfl, part⟩ := h
    exact part.listed_subset true (List.mem_singleton_self _)
  | range first last =>
    obtain ⟨start, stop, rfl, rfl, part⟩ := h
    exact part.listed_subset true (List.mem_singleton_self _)

/-- Two contexts answer together what an expression may ask, and `P` and `E` cover all that it takes
values and failures from: the answers, if the arguments of calls are in `P`, its error literals and
what operators compute. -/
structure Covered {σ τ : Type} (context : Context σ) (context' : Context τ) (R : σ → τ → Prop)
    (P : Value → Prop) (E : Failure → σ → Prop) (e : Expr) : Prop where
  asked : ∀ lookup, e.MayAsk lookup → (∀ v ∈ lookup.args, P v) →
    Together R P E (context lookup) (context' lookup)
  literal : ∀ code s t, IsPart (.error code) e → R s t → E (.signal code) s
  computed : ∀ code s t, code.isComputed → R s t → E (.signal code) s
  finite : ∀ v : Value, v.AllFinite → P v
  block : ∀ rows : List (List Value), (∀ row ∈ rows, ∀ v ∈ row, P v) → P (.block rows)

section

variable {σ τ : Type} {context : Context σ} {context' : Context τ} {R : σ → τ → Prop}
  {P : Value → Prop} {E : Failure → σ → Prop}

theorem Covered.mono {e e' : Expr} (h : Covered context context' R P E e)
    (le : ∀ part, IsPart part e' → IsPart part e) : Covered context context' R P E e' :=
  { h with
    asked := fun lookup asks => h.asked lookup (asks.mono le)
    literal := fun code s t part => h.literal code s t (le _ part) }

theorem Covered.signalling {e : Expr} {T : Value → Prop} {result : Except ErrorCode Value}
    (h : Covered context context' R P E e) (computes : Computes T result)
    (le : ∀ v, T v → P v) :
    Together R P E (Expr.signalling result) (Expr.signalling result) := by
  cases result with
  | ok v => exact .pure (le v computes)
  | error code => exact .throw fun s t hR => h.computed code s t computes hR

/-! ## Evaluation -/

mutual

theorem eval_together : ∀ e : Expr, Covered context context' R P E e →
    Together R P E (e.eval context) (e.eval context')
  | .number n, h => by
    simp only [eval]
    exact h.signalling (Value.computes_finite n) h.finite
  | .string s, h => by
    simp only [eval]
    exact .pure (h.finite _ (.string s))
  | .error code, h => by
    simp only [eval]
    exact .throw fun s t => h.literal code s t .self
  | .reference ref, h => by
    simp only [eval]
    exact h.asked (.reference ref.label) ⟨ref, rfl, .self⟩ nofun
  | .range start stop, h => by
    simp only [eval]
    exact h.asked (.range start.label stop.label) ⟨start, stop, rfl, rfl, .self⟩ nofun
  | .name label, h => by
    simp only [eval]
    exact h.asked (.name label) .self nofun
  | .binary op left right, h => by
    simp only [eval]
    refine (eval_together left (h.mono fun _ => .left)).bind fun l _ => ?_
    refine (eval_together right (h.mono fun _ => .right)).bind fun r _ => ?_
    exact h.signalling (op.computes_apply l r) h.finite
  | .unary op operand, h => by
    simp only [eval]
    refine (eval_together operand (h.mono fun _ => .operand)).bind fun v hv => ?_
    refine h.signalling (op.computes_apply v) fun w hw => ?_
    rcases hw with hw | rfl
    · exact h.finite w hw
    · exact hv
  | .colon left right, h => by
    simp only [eval]
    exact .throw fun s t => h.computed .value s t rfl
  | .call label args, h => by
    simp only [eval]
    refine (evalList_together args fun arg mem => h.mono fun _ => .argument mem).bind
      fun vs hvs => ?_
    exact h.asked (.call label vs) ⟨args, .self⟩ hvs
  | .array rows, h => by
    simp only [eval]
    refine (evalRows_together rows fun row memRow e mem => h.mono fun _ => .cell memRow mem).bind
      fun vss hvss => ?_
    exact .pure (h.block vss hvss)

theorem evalList_together : ∀ es : List Expr, (∀ e ∈ es, Covered context context' R P E e) →
    Together R (fun vs => ∀ v ∈ vs, P v) E (evalList context es) (evalList context' es)
  | [], _ => by
    simp only [evalList]
    exact .pure nofun
  | e :: es, h => by
    simp only [evalList]
    refine (eval_together e (h e (List.mem_cons_self ..))).bind fun v hv => ?_
    refine (evalList_together es fun e he => h e (List.mem_cons_of_mem _ he)).bind fun vs hvs => ?_
    exact .pure (List.forall_mem_cons.2 ⟨hv, hvs⟩)

theorem evalRows_together : ∀ rows : List (List Expr),
    (∀ row ∈ rows, ∀ e ∈ row, Covered context context' R P E e) →
      Together R (fun vss => ∀ vs ∈ vss, ∀ v ∈ vs, P v) E (evalRows context rows)
        (evalRows context' rows)
  | [], _ => by
    simp only [evalRows]
    exact .pure nofun
  | row :: rows, h => by
    simp only [evalRows]
    refine (evalList_together row (h row (List.mem_cons_self ..))).bind fun vs hvs => ?_
    refine (evalRows_together rows fun row hrow => h row (List.mem_cons_of_mem _ hrow)).bind
      fun vss hvss => ?_
    exact .pure (List.forall_mem_cons.2 ⟨hvs, hvss⟩)

end

end

/-- An expression has one value in contexts that answer alike what it may ask. -/
theorem eval_congr {σ : Type} {context context' : Context σ} {e : Expr}
    (h : ∀ lookup, e.MayAsk lookup → context lookup = context' lookup) :
    e.eval context = e.eval context' := by
  have covered : Covered context context' Eq (fun _ => True) (fun _ _ => True) e :=
    { asked := by
        rintro lookup asks - s _ rfl
        rw [h lookup asks]
        refine ⟨rfl, rfl, ?_⟩
        cases (context' lookup s).1 <;> trivial
      literal := fun _ _ _ _ _ => trivial
      computed := fun _ _ _ _ _ => trivial
      finite := fun _ _ => trivial
      block := fun _ _ => trivial }
  funext s
  obtain ⟨state, result, -⟩ := e.eval_together covered s s rfl
  exact Prod.ext result state

end Expr

end SheetFormula
