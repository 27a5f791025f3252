import SheetFormula.Proofs.Grammar.Acceptance

/-!
# The limit is a threshold

The parser looks at the limit on the levels of nesting only where it goes a level deeper, and gives
up at the first level that is too deep. So a list of tokens has one outcome, which shows from some
limit on, and under every lower limit it fails for depth.

`Steady` says so of what a procedure gives under each limit, together with how it leaves the count
of levels. It is kept by the operations that the procedures consist of (`Steady.andThen`,
`Steady.descend` and others), and so holds of all procedures together (`steadyBelow`), by induction
on the number of tokens. `Formula.parse_threshold` is what follows for the text of a formula.
-/

namespace SheetFormula

/-- Whether a fault is one that may be found while an expression is read. -/
def ParseFault.isWithin : ParseFault → Bool
  | .unexpectedEnd | .unexpectedToken _ | .expected .rightParen _ | .expectedArraySeparator => true
  | .emptyFormula | .trailingToken _ | .expected .. | .reported _ => false

namespace Grammar

open Expr.Parser Outcome

/-! ## Outcomes under each limit -/

section Steady

variable {α β : Type} {base base' depth left left' bound bound' : Nat} {o : Nat → Outcome α}

/-- What comes out where no level is too deep: a failure is a fault in the tokens. -/
def Unlimited (r : Outcome α) : Prop :=
  ∀ failure d, r = .error (failure, d) → ∃ fault : ParseFault, fault.isWithin ∧
    failure = .parse fault

/-- The outcomes `o` under each limit of what is read from the count `depth` on. They are one and
the same from a limit of at most `bound` on, and failures for depth under lower limits. A success
has the count back at `base` and leaves fewer than `left` tokens. A failure leaves the count at
`base` or above, and at most one level above the limit. -/
structure Steady (base depth left bound : Nat) (o : Nat → Outcome α) : Prop where
  cut : ∃ n r, n ≤ bound ∧ Unlimited r ∧ ∀ limit, Settles limit n (o limit) r
  ok : ∀ ⦃limit v rest d⦄, o limit = .ok (v, rest, d) → d = base ∧ rest.length < left
  error : ∀ ⦃limit failure d⦄, depth ≤ limit → o limit = .error (failure, d) →
    base ≤ d ∧ d ≤ limit + 1

theorem unlimited_ok (r : α × List Token × Nat) : Unlimited (.ok r) := by
  intro failure d h
  cases h

theorem unlimited_error {failure : Failure} {d d' : Nat}
    (h : Unlimited (.error (failure, d) : Outcome α)) :
    Unlimited (.error (failure, d') : Outcome β) := by
  rintro _ _ ⟨⟩
  exact h failure d rfl

/-- What passes failures for depth on settles as its argument does. -/
theorem Settles.through {limit n : Nat} {o r : Outcome α} (h : Settles limit n o r)
    (f : Outcome α → Outcome β)
    (passes : ∀ d, ∃ d', f (.error (.tooDeep limit, d)) = .error (.tooDeep limit, d')) :
    Settles limit n (f o) (f r) := by
  refine ⟨fun hn => by rw [h.1 hn], fun hl => ?_⟩
  obtain ⟨d, hd⟩ := h.2 hl
  rw [hd]
  exact passes d

namespace Steady

theorem of_ok {rest : List Token} (hr : rest.length < left) (v : α) :
    Steady base depth left bound fun _ => .ok (v, rest, base) where
  cut := ⟨0, _, Nat.zero_le _, unlimited_ok _, fun _ => .of_eq (Nat.zero_le _) rfl⟩
  ok := by
    rintro _ _ _ _ ⟨⟩
    exact ⟨rfl, hr⟩
  error := by
    rintro _ _ _ _ ⟨⟩

theorem of_fault {fault : ParseFault} (h : fault.isWithin) :
    Steady depth depth left bound fun _ => (.error (.parse fault, depth) : Outcome α) where
  cut := by
    refine ⟨0, _, Nat.zero_le _, ?_, fun _ => .of_eq (Nat.zero_le _) rfl⟩
    rintro _ _ ⟨⟩
    exact ⟨fault, h, rfl⟩
  ok := by
    rintro _ _ _ _ ⟨⟩
  error := by
    rintro limit _ _ hl ⟨⟩
    omega

theorem of_eq {o' : Nat → Outcome α} (h : ∀ limit, o limit = o' limit)
    (hs : Steady base depth left bound o') : Steady base depth left bound o :=
  (funext h : o = o') ▸ hs

theorem mono (h : Steady base depth left bound o) (hl : left ≤ left') (hb : bound ≤ bound') :
    Steady base depth left' bound' o where
  cut := by
    obtain ⟨n, r, hn, hr⟩ := h.cut
    exact ⟨n, r, Nat.le_trans hn hb, hr⟩
  ok := fun _ _ _ _ ho => ⟨(h.ok ho).1, Nat.lt_of_lt_of_le (h.ok ho).2 hl⟩
  error := h.error

theorem descend (h : Steady base (depth + 1) left bound o) (hbase : base ≤ depth + 1)
    (hb : depth + 1 ≤ bound) :
    Steady base depth left bound fun limit => Outcome.descend limit depth (o limit) where
  cut := by
    obtain ⟨n, r, hn, hr, hs⟩ := h.cut
    refine ⟨max n (depth + 1), r, by omega, hr, fun limit => ?_⟩
    refine .descend (Nat.le_max_right ..) fun hd => ?_
    exact (hs limit).trans fun _ => .of_eq hd rfl
  ok := fun _ _ _ _ ho => h.ok (descend_eq_ok.1 ho).2
  error := by
    intro limit failure d hl ho
    by_cases hd : depth < limit
    · rw [descend_of_lt hd] at ho
      exact h.error hd ho
    · rw [descend_of_le (by omega)] at ho
      cases ho
      omega

theorem leave (h : Steady (base + 1) depth left bound o) :
    Steady base depth left bound fun limit => (o limit).leave where
  cut := by
    obtain ⟨n, r, hn, hr, hs⟩ := h.cut
    refine ⟨n, r.leave, hn, ?_, fun limit => (hs limit).through _ fun d => ⟨d - 1, rfl⟩⟩
    rcases r with ⟨failure, d⟩ | ⟨v, rest, d⟩
    · exact unlimited_error hr
    · exact unlimited_ok _
  ok := by
    intro limit v rest d ho
    obtain ⟨d', hd', rfl⟩ := leave_eq_ok.1 ho
    obtain ⟨rfl, hr⟩ := h.ok hd'
    exact ⟨rfl, hr⟩
  error := by
    intro limit failure d hl ho
    rcases hr : o limit with ⟨failure', d'⟩ | ⟨v, rest, d'⟩
    · rw [hr, leave_error] at ho
      cases ho
      have := h.error hl hr
      omega
    · rw [hr, leave_ok] at ho
      cases ho

theorem map (h : Steady base depth left bound o) (f : α → β) :
    Steady base depth left bound fun limit => (o limit).map f where
  cut := by
    obtain ⟨n, r, hn, hr, hs⟩ := h.cut
    refine ⟨n, r.map f, hn, ?_, fun limit => (hs limit).through _ fun d => ⟨d, rfl⟩⟩
    rcases r with ⟨failure, d⟩ | ⟨v, rest, d⟩
    · exact unlimited_error hr
    · exact unlimited_ok _
  ok := by
    intro limit v rest d ho
    obtain ⟨u, ho, -⟩ := map_eq_ok.1 ho
    exact h.ok ho
  error := by
    intro limit failure d hl ho
    rcases hr : o limit with ⟨failure', d'⟩ | ⟨v, rest, d'⟩
    · rw [hr, map_error] at ho
      cases ho
      exact h.error hl hr
    · rw [hr, map_ok] at ho
      cases ho

/-- After a success the limit is looked at by what comes next, from the count `base` on. -/
theorem andThen {f : Nat → α → List Token → Nat → Outcome β} (h : Steady base depth left bound o)
    (hd : base ≤ depth) (hbase : base' ≤ base)
    (hf : ∀ v rest, rest.length < left →
      Steady base' base left' bound fun limit => f limit v rest base) :
    Steady base' depth left' bound fun limit => (o limit).andThen (f limit) where
  cut := by
    obtain ⟨n, r, hn, hr, hs⟩ := h.cut
    have first : ∀ limit, Settles limit n ((o limit).andThen (f limit)) (r.andThen (f limit)) :=
      fun limit => (hs limit).through (Outcome.andThen · (f limit)) fun d => ⟨d, rfl⟩
    rcases r with ⟨failure, d⟩ | ⟨v, rest, d⟩
    · exact ⟨n, .error (failure, d), hn, unlimited_error hr, first⟩
    · obtain ⟨rfl, hrest⟩ := h.ok ((hs n).1 (Nat.le_refl n))
      obtain ⟨m, r', hm, hr', hs'⟩ := (hf v rest hrest).cut
      exact ⟨max n m, r', Nat.max_le.2 ⟨hn, hm⟩, hr',
        fun limit => (first limit).trans fun _ => hs' limit⟩
  ok := by
    intro limit v rest d ho
    obtain ⟨u, rest', d', hu, ho⟩ := andThen_eq_ok.1 ho
    obtain ⟨rfl, hrest⟩ := h.ok hu
    exact (hf u rest' hrest).ok ho
  error := by
    intro limit failure d hl ho
    rcases hr : o limit with ⟨failure', d'⟩ | ⟨v, rest, d'⟩
    · rw [hr, andThen_error] at ho
      cases ho
      have := h.error hl hr
      omega
    · rw [hr, andThen_ok] at ho
      obtain ⟨rfl, hrest⟩ := h.ok hr
      exact (hf v rest hrest).error (Nat.le_trans hd hl) ho

/-- The next symbol does not depend on the limit. -/
theorem expect {s : Symbol} {ts : List Token} {found : Nat → List Token → Outcome α}
    {missing : Nat → Outcome α}
    (hf : ∀ rest, ts.length = rest.length + 1 →
      Steady base depth left bound fun limit => found limit rest)
    (hm : Steady base depth left bound missing) :
    Steady base depth left bound fun limit =>
      Outcome.expect s ts (found limit) (missing limit) := by
  cases ha : after? s ts with
  | none => simpa only [Outcome.expect, ha] using hm
  | some rest => simpa only [Outcome.expect, ha] using hf rest (length_of_after? ha)

end Steady

end Steady

/-! ## The procedures

Each procedure is steady if the tighter ones are on the same tokens and all of them are on fewer
tokens. Every level takes a token, but for the level of an expression. -/

/-- What is read from the tokens `ts` is steady, with `extra` levels more than tokens. -/
def SteadyFrom {α : Type} (extra : Nat) (ts : List Token) (read : Nat → Nat → Outcome α) : Prop :=
  ∀ depth, Steady depth depth ts.length (depth + ts.length + extra) fun limit => read limit depth

/-- The procedures are steady on any list of fewer than `n` tokens. -/
structure SteadyBelow (n : Nat) : Prop where
  expression : ∀ ⦃ts⦄, ts.length < n →
    SteadyFrom 1 ts fun limit depth => (expression limit ts depth).outcome
  operand : ∀ level ⦃ts⦄, ts.length < n →
    SteadyFrom 0 ts fun limit depth => (operand limit level ts depth).outcome
  power : ∀ ⦃ts⦄, ts.length < n →
    SteadyFrom 0 ts fun limit depth => (power limit ts depth).outcome
  signed : ∀ ⦃ts⦄, ts.length < n →
    SteadyFrom 0 ts fun limit depth => (signed limit ts depth).outcome
  primary : ∀ ⦃ts⦄, ts.length < n →
    SteadyFrom 0 ts fun limit depth => (primary limit ts depth).outcome
  arguments : ∀ ⦃ts⦄, ts.length < n →
    SteadyFrom 1 ts fun limit depth => (arguments limit ts depth).outcome
  rows : ∀ ⦃ts⦄, ts.length < n →
    SteadyFrom 1 ts fun limit depth => (rows limit ts depth).outcome

theorem steady_close {α : Type} {v : α} {ts : List Token} {depth left bound : Nat}
    (hl : ts.length ≤ left) :
    Steady depth depth left bound fun _ => (close .rightParen v ts depth).outcome := by
  refine .of_eq (fun _ => outcome_close ..) ?_
  exact .expect (fun rest hrest => .of_ok (by omega) v) (.of_fault rfl)

theorem steady_call {ts : List Token}
    (ha : SteadyFrom 1 ts fun limit depth => (arguments limit ts depth).outcome) :
    SteadyFrom 1 ts fun limit depth => (call limit ts depth).outcome := by
  intro depth
  refine .of_eq (fun limit => outcome_call limit ts depth) ?_
  exact .expect (fun rest hrest => .of_ok (by omega) _) (ha depth)

theorem steady_array {ts : List Token}
    (hr : SteadyFrom 1 ts fun limit depth => (rows limit ts depth).outcome) :
    SteadyFrom 1 ts fun limit depth => (array limit ts depth).outcome := by
  intro depth
  refine .of_eq (fun limit => outcome_array limit ts depth) ?_
  exact .expect (fun rest hrest => .of_ok (by omega) _) (hr depth)

theorem steady_primary {ts : List Token} (below : SteadyBelow ts.length) :
    SteadyFrom 0 ts fun limit depth => (primary limit ts depth).outcome := by
  intro depth
  match ts with
  | [] =>
    simp only [primary]
    exact .of_fault rfl
  | .number _ :: ts | .string _ :: ts | .error _ :: ts | .reference _ :: ts =>
    simp only [primary]
    exact .of_ok (Nat.lt_succ_self _) _
  | .identifier label :: ts =>
    refine .of_eq (fun limit => outcome_primary_identifier limit label ts depth) ?_
    refine .expect (fun rest hrest => ?_) (.of_ok (Nat.lt_succ_self _) _)
    have shorter : rest.length < (Token.identifier label :: ts).length := by
      rw [List.length_cons]
      omega
    exact ((steady_call (below.arguments shorter) depth).map _).mono (Nat.le_of_lt shorter)
      (by omega)
  | .symbol s :: ts =>
    have shorter : ts.length < (Token.symbol s :: ts).length := Nat.lt_succ_self _
    by_cases hp : s = .leftParen
    · subst hp
      refine .of_eq (fun limit => outcome_primary_leftParen limit ts depth) ?_
      exact (below.expression shorter depth).andThen (Nat.le_refl _) (Nat.le_refl _)
        fun v rest hrest => steady_close (Nat.le_of_lt (Nat.lt_trans hrest shorter))
    · by_cases hb : s = .leftBrace
      · subst hb
        refine .of_eq (fun limit => outcome_primary_leftBrace limit ts depth) ?_
        exact ((steady_array (below.rows shorter) depth).map _).mono (Nat.le_of_lt shorter)
          (by rw [List.length_cons]; omega)
      · exact .of_eq (fun limit => outcome_primary_symbol limit ts depth hp hb) (.of_fault rfl)

theorem steady_range {ts : List Token} (below : SteadyBelow ts.length) :
    SteadyFrom 0 ts fun limit depth => (range limit ts depth).outcome := by
  intro depth
  refine .of_eq (fun limit => outcome_range limit ts depth) ?_
  refine (steady_primary below depth).andThen (Nat.le_refl _) (Nat.le_refl _) fun left rest hr => ?_
  refine .expect (fun rest' hr' => ?_) (.of_ok hr _)
  have shorter : rest'.length < ts.length := by omega
  exact ((below.primary shorter depth).map _).mono (Nat.le_of_lt shorter) (by omega)

theorem steady_percents (base : Nat) (operand : Expr) (ts : List Token) {left depth : Nat}
    (hl : ts.length < left) (hd : base ≤ depth) :
    Steady base depth left (depth + ts.length) fun limit =>
      (percents limit base operand ts depth).outcome := by
  induction ts generalizing operand depth with
  | nil =>
    simp only [percents]
    exact .of_ok hl operand
  | cons t ts ih =>
    by_cases ht : t = .symbol .percent
    · subst ht
      refine .of_eq (fun limit => outcome_percents_percent limit base operand ts depth) ?_
      rw [List.length_cons] at hl ⊢
      refine .descend ?_ (by omega) (by omega)
      exact (ih (.unary .percent operand) (by omega) (by omega)).mono (Nat.le_refl _) (by omega)
    · have none : (t :: ts).head? ≠ some (.symbol .percent) := by simpa using ht
      exact .of_eq (fun limit => outcome_percents_none limit base operand depth none)
        (.of_ok hl operand)

theorem steady_percentage {ts : List Token} (below : SteadyBelow ts.length) :
    SteadyFrom 0 ts fun limit depth => (percentage limit ts depth).outcome := by
  intro depth
  refine .of_eq (fun limit => outcome_percentage limit ts depth) ?_
  refine (steady_range below depth).andThen (Nat.le_refl _) (Nat.le_refl _) ?_
  intro operand rest hr
  exact (steady_percents depth operand rest hr (Nat.le_refl _)).mono (Nat.le_refl _) (by omega)

theorem steady_signed {ts : List Token} (below : SteadyBelow ts.length) :
    SteadyFrom 0 ts fun limit depth => (signed limit ts depth).outcome := by
  intro depth
  cases hs : ts.head?.bind sign? with
  | none =>
    exact .of_eq (fun limit => outcome_signed_none limit depth (by simpa using hs))
      (steady_percentage below depth)
  | some op =>
    obtain ⟨t, ht, hop⟩ := Option.bind_eq_some_iff.1 hs
    obtain ⟨ts, rfl⟩ := List.head?_eq_some_iff.1 ht
    have operand :=
      (below.signed (Nat.lt_succ_self ts.length) (depth + 1)).leave.map (Expr.unary op)
    refine .of_eq (fun limit => outcome_signed_some limit ts depth hop) ?_
    rw [List.length_cons]
    exact .descend (operand.mono (Nat.le_succ _) (by omega)) (by omega) (by omega)

theorem steady_power {ts : List Token} (below : SteadyBelow ts.length) :
    SteadyFrom 0 ts fun limit depth => (power limit ts depth).outcome := by
  intro depth
  refine .of_eq (fun limit => outcome_power limit ts depth) ?_
  refine (steady_signed below depth).andThen (Nat.le_refl _) (Nat.le_refl _) fun left rest hr => ?_
  refine .expect (fun rest' hr' => ?_) (.of_ok hr _)
  have shorter : rest'.length < ts.length := by omega
  have exponent := (below.power shorter (depth + 1)).leave.map (Expr.binary .power left)
  exact .descend (exponent.mono (Nat.le_of_lt shorter) (by omega)) (by omega) (by omega)

theorem steady_chainRest {n : Nat} (below : SteadyBelow n) (level : Level) (base : Nat)
    (operand : Expr) {ts : List Token} (hts : ts.length ≤ n) {left depth : Nat}
    (hl : ts.length < left) (hd : base ≤ depth) :
    Steady base depth left (depth + ts.length) fun limit =>
      (chainRest limit level base operand ts depth).outcome := by
  obtain ⟨m, hn⟩ : ∃ m, ts.length = m := ⟨_, rfl⟩
  induction m using Nat.strongRecOn generalizing operand ts depth with
  | ind m ih =>
    cases ho : ts.head?.bind level.operator? with
    | none =>
      have noOperator : ∀ t ∈ ts.head?, level.operator? t = none := by simpa using ho
      exact .of_eq (fun limit => outcome_chainRest_none limit base operand depth noOperator)
        (.of_ok hl operand)
    | some op =>
      obtain ⟨t, ht, hop⟩ := Option.bind_eq_some_iff.1 ho
      obtain ⟨ts, rfl⟩ := List.head?_eq_some_iff.1 ht
      refine .of_eq (fun limit => outcome_chainRest_some limit base operand ts depth hop) ?_
      rw [List.length_cons] at hts hl hn ⊢
      refine .descend ?_ (by omega) (by omega)
      have right := below.operand level hts (depth + 1)
      refine (right.mono (Nat.le_refl _) (by omega)).andThen (Nat.le_refl _)
        (Nat.le_succ_of_le hd) fun v rest hr => ?_
      have next := ih rest.length (by omega) (.binary op operand v) (show rest.length ≤ n by omega)
        (by omega) (Nat.le_succ_of_le hd) rfl
      exact next.mono (Nat.le_refl _) (by omega)

theorem steady_chain {level : Level} {ts : List Token} (below : SteadyBelow ts.length)
    (ho : SteadyFrom 0 ts fun limit depth => (operand limit level ts depth).outcome) :
    SteadyFrom 0 ts fun limit depth => (chain limit level ts depth).outcome := by
  intro depth
  refine .of_eq (fun limit => outcome_chain limit level ts depth) ?_
  refine (ho depth).andThen (Nat.le_refl _) (Nat.le_refl _) fun left rest hr => ?_
  exact (steady_chainRest below level depth left (Nat.le_of_lt hr) hr (Nat.le_refl _)).mono
    (Nat.le_refl _) (by omega)

theorem steady_operand {ts : List Token} (below : SteadyBelow ts.length) (level : Level) :
    SteadyFrom 0 ts fun limit depth => (operand limit level ts depth).outcome := by
  have hproduct : SteadyFrom 0 ts fun limit depth => (operand limit .product ts depth).outcome := by
    simp only [operand]
    exact steady_power below
  have hsum : SteadyFrom 0 ts fun limit depth => (operand limit .sum ts depth).outcome := by
    simp only [operand]
    exact steady_chain below hproduct
  have hconcat : SteadyFrom 0 ts fun limit depth => (operand limit .concat ts depth).outcome := by
    simp only [operand]
    exact steady_chain below hsum
  cases level with
  | product => exact hproduct
  | sum => exact hsum
  | concat => exact hconcat
  | comparison =>
    simp only [operand]
    exact steady_chain below hconcat

theorem steady_expression {ts : List Token} (below : SteadyBelow ts.length) :
    SteadyFrom 1 ts fun limit depth => (expression limit ts depth).outcome := by
  intro depth
  have chained := (steady_chain below (steady_operand below .comparison) (depth + 1)).leave
  refine .of_eq (fun limit => outcome_expression limit ts depth) ?_
  exact .descend (chained.mono (Nat.le_refl _) (by omega)) (by omega) (by omega)

theorem steady_arguments {ts : List Token} (below : SteadyBelow ts.length) :
    SteadyFrom 1 ts fun limit depth => (arguments limit ts depth).outcome := by
  intro depth
  refine .of_eq (fun limit => outcome_arguments limit ts depth) ?_
  refine (steady_expression below depth).andThen (Nat.le_refl _) (Nat.le_refl _)
    fun arg rest hr => ?_
  refine .expect (fun rest' hr' => ?_) (steady_close (Nat.le_of_lt hr))
  have shorter : rest'.length < ts.length := by omega
  exact ((below.arguments shorter depth).map _).mono (Nat.le_of_lt shorter) (by omega)

theorem steady_rows {ts : List Token} (below : SteadyBelow ts.length) :
    SteadyFrom 1 ts fun limit depth => (rows limit ts depth).outcome := by
  intro depth
  refine .of_eq (fun limit => outcome_rows limit ts depth) ?_
  refine (steady_expression below depth).andThen (Nat.le_refl _) (Nat.le_refl _)
    fun cell rest hr => ?_
  refine .expect (fun rest' hr' => ?_) (.expect (fun rest' hr' => ?_) (.expect ?_ (.of_fault rfl)))
  · have shorter : rest'.length < ts.length := by omega
    exact ((below.rows shorter depth).map _).mono (Nat.le_of_lt shorter) (by omega)
  · have shorter : rest'.length < ts.length := by omega
    exact ((below.rows shorter depth).map _).mono (Nat.le_of_lt shorter) (by omega)
  · exact fun rest' hr' => .of_ok (by omega) _

/-- The procedures are steady, on any list of tokens. -/
theorem steadyBelow (n : Nat) : SteadyBelow n := by
  induction n using Nat.strongRecOn with
  | ind n ih =>
    exact {
      expression := fun ts h => steady_expression (ih ts.length h)
      operand := fun level ts h => steady_operand (ih ts.length h) level
      power := fun ts h => steady_power (ih ts.length h)
      signed := fun ts h => steady_signed (ih ts.length h)
      primary := fun ts h => steady_primary (ih ts.length h)
      arguments := fun ts h => steady_arguments (ih ts.length h)
      rows := fun ts h => steady_rows (ih ts.length h) }

/-! ## Expressions and formulas -/

/-- An outcome of reading an expression, where all tokens have to be read. -/
def whole : Outcome Expr → Except Failure Expr
  | .ok (e, [], _) => .ok e
  | .ok (_, t :: _, _) => .error (.parse (.trailingToken t))
  | .error (failure, _) => .error failure

theorem ofTokens_eq_whole (limit : Nat) (ts : List Token) :
    Expr.ofTokens limit ts = whole (expression limit ts 0).outcome := by
  rw [Expr.ofTokens]
  rcases expression limit ts 0 with ⟨v, _ | _, d, h⟩ | ⟨failure, d⟩ <;> rfl

/-- A list of tokens is decided from some limit on, and fails for depth under lower limits. -/
theorem exists_threshold (ts : List Token) :
    ∃ n r, n ≤ ts.length + 1 ∧ (∀ failure, r = .error failure → ∃ fault, failure = .parse fault) ∧
      ∀ limit, Expr.ofTokens limit ts = if limit < n then .error (.tooDeep limit) else r := by
  obtain ⟨n, r, hn, hr, settles⟩ := ((steadyBelow _).expression (Nat.lt_succ_self ts.length) 0).cut
  simp only at settles
  refine ⟨n, whole r, by omega, fun failure h => ?_, fun limit => ?_⟩
  · rcases r with ⟨failure', d⟩ | ⟨e, _ | ⟨t, rest⟩, d⟩
    · cases h
      obtain ⟨fault, -, rfl⟩ := hr failure d rfl
      exact ⟨fault, rfl⟩
    · cases h
    · cases h
      exact ⟨_, rfl⟩
  · rw [ofTokens_eq_whole]
    split
    · obtain ⟨d, hd⟩ := (settles limit).2 ‹_›
      rw [hd]
      rfl
    · rw [(settles limit).1 (Nat.le_of_not_lt ‹_›)]

end Grammar

namespace Formula

/-- A formula is decided from some limit on, at most one above the number of its tokens: by a fault
in its tokens at once, and else as `r` says. Under a lower limit it fails for depth. -/
theorem exists_parse_eq (options : Options) (text : String) :
    ∃ n r, (∀ ts, Token.ofText (body options text) = .ok ts → n ≤ ts.length + 1) ∧
      (∀ failure, Token.ofText (body options text) = .error failure →
        n = 0 ∧ r = .error failure) ∧
      (∀ failure, r = .error failure →
        (∃ offset fault, failure = .lex offset fault) ∨ ∃ fault, failure = .parse fault) ∧
      ∀ limit library, parse { options with maxDepth := limit, libraryFunctions := library } text =
        if limit < n then .error (.tooDeep limit) else r := by
  have whole : ∀ limit library,
      body { options with maxDepth := limit, libraryFunctions := library } text =
        body options text := fun _ _ => rfl
  cases read : Token.ofText (body options text) with
  | error failure =>
    refine ⟨0, .error failure, ?_, ?_, ?_, fun limit library => ?_⟩
    · rintro _ ⟨⟩
    · rintro _ ⟨⟩
      exact ⟨rfl, rfl⟩
    · rintro _ ⟨⟩
      rw [Token.ofText] at read
      split at read
      · cases read
      · cases read
        exact .inl ⟨_, _, rfl⟩
    · rw [parse, whole, read]
      rfl
  | ok ts =>
    by_cases empty : ts = []
    · subst empty
      refine ⟨0, .error (.parse .emptyFormula), ?_, ?_, ?_, fun limit library => ?_⟩
      · rintro _ ⟨⟩
        exact Nat.zero_le _
      · rintro _ ⟨⟩
      · rintro _ ⟨⟩
        exact .inr ⟨_, rfl⟩
      · rw [parse, whole, read]
        rfl
    · obtain ⟨n, r, hn, hr, decided⟩ := Grammar.exists_threshold ts
      refine ⟨n, r, ?_, ?_, fun failure h => .inr (hr failure h), fun limit library => ?_⟩
      · rintro _ ⟨⟩
        exact hn
      · rintro _ ⟨⟩
      · have tokens := (congrArg Token.ofText (whole limit library)).trans read
        rw [Grammar.parse_of_ofText tokens empty, decided]

/-- The limit is a threshold: for every formula there is a limit, at most one above the number of
its tokens, such that under all lower limits it fails for depth, and under all others it has one and
the same result, which is no failure for depth. So what is decided under a limit stays the same
under every higher one. -/
theorem parse_threshold (options : Options) (text : String) :
    ∃ t r, (∀ ts, Token.ofText (body options text) = .ok ts → t ≤ ts.length + 1) ∧
      (∀ failure, Token.ofText (body options text) = .error failure → t = 0) ∧
      (∀ limit, r ≠ .error (.tooDeep limit)) ∧
      (∀ limit library,
        parse { options with maxDepth := limit, libraryFunctions := library } text =
          if limit < t then .error (.tooDeep limit) else r) ∧
      ∀ low high, low ≤ high →
        parse { options with maxDepth := low } text ≠ .error (.tooDeep low) →
        parse { options with maxDepth := high } text =
          parse { options with maxDepth := low } text := by
  obtain ⟨t, r, hts, hlex, hr, decided⟩ := exists_parse_eq options text
  have undeep : ∀ limit, r ≠ .error (.tooDeep limit) := by
    rintro limit rfl
    rcases hr _ rfl with ⟨_, _, h⟩ | ⟨_, h⟩ <;> cases h
  refine ⟨t, r, hts, fun failure h => (hlex failure h).1, undeep, decided, fun low high hle h => ?_⟩
  have atLow := decided low options.libraryFunctions
  have reached : t ≤ low := Nat.le_of_not_lt fun below => h (atLow.trans (if_pos below))
  rw [if_neg (Nat.not_lt.2 reached)] at atLow
  have atHigh := decided high options.libraryFunctions
  rw [if_neg (Nat.not_lt.2 (Nat.le_trans reached hle))] at atHigh
  exact atHigh.trans atLow.symm

end Formula

end SheetFormula
