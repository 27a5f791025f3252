import SheetFormula.Expr.Parser

/-!
# What the parser gives, procedure by procedure

A `Reply` carries the proof that tokens were used up, which is what lets the descent end but is in
the way of equations. `Reply.outcome` forgets it. In outcomes each procedure of the parser is one
equation (`outcome_expression` to `outcome_rows`) over four operations: `Outcome.descend` checks the
count of levels, `Outcome.leave` goes back a level, `Outcome.andThen` goes on after a success, and
`Outcome.expect` looks at the next symbol. The `_eq_ok` lemmas take successes apart.
-/

namespace SheetFormula.Expr.Parser

/-- A value with the tokens left, or a failure, and the count of nesting levels in either case. -/
abbrev Outcome (α : Type) := Except (Failure × Nat) (α × List Token × Nat)

namespace Outcome

variable {α β γ : Type}

/-- An outcome with its value changed. -/
def map (f : α → β) : Outcome α → Outcome β
  | .ok (value, rest, depth) => .ok (f value, rest, depth)
  | .error e => .error e

/-- An outcome that leaves one level of nesting. -/
def leave : Outcome α → Outcome α
  | .ok (value, rest, depth) => .ok (value, rest, depth - 1)
  | .error (failure, depth) => .error (failure, depth - 1)

/-- An outcome, and what comes after it if it is a success. -/
def andThen (o : Outcome α) (f : α → List Token → Nat → Outcome β) : Outcome β :=
  match o with
  | .ok (value, rest, depth) => f value rest depth
  | .error e => .error e

/-- An outcome that is one level deeper than `depth`, if the limit allows that level. -/
def descend (limit depth : Nat) (o : Outcome α) : Outcome α :=
  if limit < depth + 1 then .error (.tooDeep limit, depth + 1) else o

/-- What comes after a symbol in front, or the outcome where it is missing. -/
def expect (s : Symbol) (ts : List Token) (found : List Token → Outcome α) (missing : Outcome α) :
    Outcome α :=
  match after? s ts with
  | some rest => found rest
  | none => missing

@[simp] theorem map_ok (f : α → β) (value : α) (rest : List Token) (depth : Nat) :
    map f (.ok (value, rest, depth)) = .ok (f value, rest, depth) := rfl

@[simp] theorem map_error (f : α → β) (e : Failure × Nat) : map f (.error e) = .error e := rfl

@[simp] theorem leave_ok (value : α) (rest : List Token) (depth : Nat) :
    leave (.ok (value, rest, depth)) = .ok (value, rest, depth - 1) := rfl

@[simp] theorem leave_error (failure : Failure) (depth : Nat) :
    leave (α := α) (.error (failure, depth)) = .error (failure, depth - 1) := rfl

@[simp] theorem andThen_ok (value : α) (rest : List Token) (depth : Nat)
    (f : α → List Token → Nat → Outcome β) :
    andThen (.ok (value, rest, depth)) f = f value rest depth := rfl

@[simp] theorem andThen_error (e : Failure × Nat) (f : α → List Token → Nat → Outcome β) :
    andThen (.error e) f = .error e := rfl

@[simp] theorem expect_cons_self (s : Symbol) (ts : List Token) (found : List Token → Outcome α)
    (missing : Outcome α) : expect s (.symbol s :: ts) found missing = found ts := by
  simp [expect, after?]

theorem expect_of_none {s : Symbol} {ts : List Token} (h : after? s ts = none)
    (found : List Token → Outcome α) (missing : Outcome α) :
    expect s ts found missing = missing := by
  rw [expect, h]

theorem descend_of_lt {limit depth : Nat} (h : depth < limit) (o : Outcome α) :
    descend limit depth o = o :=
  if_neg (by omega)

theorem descend_of_le {limit depth : Nat} (h : limit ≤ depth) (o : Outcome α) :
    descend limit depth o = .error (.tooDeep limit, depth + 1) :=
  if_pos (by omega)

theorem map_id (o : Outcome α) : o.map (fun value => value) = o := by
  rcases o with _ | ⟨_, _, _⟩ <;> rfl

theorem map_map (o : Outcome α) (f : α → β) (g : β → γ) : (o.map f).map g = o.map (g ∘ f) := by
  rcases o with _ | ⟨_, _, _⟩ <;> rfl

theorem map_andThen (o : Outcome α) (f : α → List Token → Nat → Outcome β) (g : β → γ) :
    (o.andThen f).map g = o.andThen fun value rest depth => (f value rest depth).map g := by
  rcases o with _ | ⟨_, _, _⟩ <;> rfl

theorem map_expect (s : Symbol) (ts : List Token) (found : List Token → Outcome α)
    (missing : Outcome α) (f : α → β) :
    (expect s ts found missing).map f =
      expect s ts (fun rest => (found rest).map f) (missing.map f) := by
  unfold expect
  split <;> rfl

theorem map_eq_ok {f : α → β} {o : Outcome α} {y : β} {rest : List Token} {depth : Nat} :
    o.map f = .ok (y, rest, depth) ↔ ∃ x, o = .ok (x, rest, depth) ∧ f x = y := by
  rcases o with e | ⟨x, rest', d⟩
  · simp
  · simp only [map_ok, Except.ok.injEq, Prod.mk.injEq]
    grind

theorem leave_eq_ok {o : Outcome α} {x : α} {rest : List Token} {depth : Nat} :
    o.leave = .ok (x, rest, depth) ↔ ∃ d, o = .ok (x, rest, d) ∧ depth = d - 1 := by
  rcases o with ⟨f, d⟩ | ⟨x', rest', d⟩
  · simp
  · simp only [leave_ok, Except.ok.injEq, Prod.mk.injEq]
    grind

theorem andThen_eq_ok {o : Outcome α} {f : α → List Token → Nat → Outcome β}
    {r : β × List Token × Nat} :
    o.andThen f = .ok r ↔ ∃ x rest depth, o = .ok (x, rest, depth) ∧ f x rest depth = .ok r := by
  rcases o with e | ⟨x, rest, d⟩
  · simp
  · simp only [andThen_ok, Except.ok.injEq, Prod.mk.injEq]
    grind

theorem descend_eq_ok {limit depth : Nat} {o : Outcome α} {r : α × List Token × Nat} :
    descend limit depth o = .ok r ↔ depth < limit ∧ o = .ok r := by
  unfold descend
  split
  · simp only [reduceCtorEq, false_iff, not_and]
    omega
  · exact ⟨fun h => ⟨by omega, h⟩, And.right⟩

/-- A success after looking for a symbol: the symbol is there, or it is not and that is a success
too. -/
theorem expect_eq_ok {s : Symbol} {ts : List Token} {found : List Token → Outcome α}
    {missing : Outcome α} {r : α × List Token × Nat} (h : expect s ts found missing = .ok r) :
    (∃ rest, ts = .symbol s :: rest ∧ found rest = .ok r) ∨ missing = .ok r := by
  unfold expect at h
  split at h
  · rename_i rest ha
    exact .inl ⟨rest, after?_eq_some.1 ha, h⟩
  · exact .inr h

end Outcome

/-- A reply without the bound on the tokens left. -/
def Reply.outcome {n : Nat} {α : Type} : Reply n α → Outcome α
  | .ok value rest depth _ => .ok (value, rest, depth)
  | .fail failure depth => .error (failure, depth)

namespace Reply

variable {n m : Nat} {α β : Type}

@[simp] theorem outcome_ok (value : α) (rest : List Token) (depth : Nat) (h : rest.length < n) :
    (Reply.ok value rest depth h).outcome = .ok (value, rest, depth) := rfl

@[simp] theorem outcome_fail (failure : Failure) (depth : Nat) :
    (Reply.fail failure depth : Reply n α).outcome = .error (failure, depth) := rfl

@[simp] theorem outcome_map (f : α → β) (r : Reply n α) :
    (r.map f).outcome = r.outcome.map f := by
  cases r <;> rfl

@[simp] theorem outcome_leave (r : Reply n α) : r.leave.outcome = r.outcome.leave := by
  cases r <;> rfl

@[simp] theorem outcome_widen (h : n ≤ m) (r : Reply n α) :
    (r.widen h).outcome = r.outcome := by
  cases r <;> rfl

theorem length_of_outcome {r : Reply n α} {value : α} {rest : List Token} {depth : Nat}
    (h : r.outcome = .ok (value, rest, depth)) : rest.length < n := by
  cases r with
  | ok value' rest' depth' shorter =>
    simp only [outcome_ok, Except.ok.injEq, Prod.mk.injEq] at h
    obtain ⟨-, rfl, -⟩ := h
    exact shorter
  | fail => cases h

end Reply

open Outcome

/-! ## The equations -/

section
variable (limit : Nat)

theorem outcome_close {α : Type} (s : Symbol) (value : α) (ts : List Token) (depth : Nat) :
    (close s value ts depth).outcome =
      expect s ts (fun rest => .ok (value, rest, depth))
        (.error (.parse (.expected s ts.head?), depth)) := by
  unfold close expect
  split <;> rename_i h <;> simp [h]

theorem outcome_percents_percent (base : Nat) (operand : Expr) (ts : List Token) (depth : Nat) :
    (percents limit base operand (.symbol .percent :: ts) depth).outcome =
      descend limit depth
        (percents limit base (.unary .percent operand) ts (depth + 1)).outcome := by
  rw [percents, descend, if_pos rfl]
  split <;> simp

theorem outcome_percents_none (base : Nat) (operand : Expr) {ts : List Token} (depth : Nat)
    (h : ts.head? ≠ some (.symbol .percent)) :
    (percents limit base operand ts depth).outcome = .ok (operand, ts, base) := by
  cases ts with
  | nil => rfl
  | cons t ts =>
    rw [percents, if_neg (fun ht => h (by rw [ht, List.head?_cons]))]
    rfl

theorem outcome_expression (ts : List Token) (depth : Nat) :
    (expression limit ts depth).outcome =
      descend limit depth (chain limit .comparison ts (depth + 1)).outcome.leave := by
  rw [expression, descend]
  split <;> simp

theorem outcome_chain (level : Level) (ts : List Token) (depth : Nat) :
    (chain limit level ts depth).outcome = (operand limit level ts depth).outcome.andThen
      fun left rest d => (chainRest limit level d left rest d).outcome := by
  rw [chain]
  cases operand limit level ts depth with
  | fail failure depth => rfl
  | ok left rest depth shorter => simp

theorem outcome_chainRest_none {level : Level} (base : Nat) (left : Expr) {ts : List Token}
    (depth : Nat) (h : ∀ t ∈ ts.head?, level.operator? t = none) :
    (chainRest limit level base left ts depth).outcome = .ok (left, ts, base) := by
  rw [chainRest.eq_def]
  cases ts with
  | nil => rfl
  | cons t ts =>
    simp only [h t rfl]
    rfl

theorem outcome_chainRest_some {level : Level} (base : Nat) (left : Expr) {t : Token}
    {op : BinaryOp} (ts : List Token) (depth : Nat) (h : level.operator? t = some op) :
    (chainRest limit level base left (t :: ts) depth).outcome =
      descend limit depth ((operand limit level ts (depth + 1)).outcome.andThen
        fun right rest d =>
          (chainRest limit level base (.binary op left right) rest d).outcome) := by
  rw [chainRest, descend]
  simp only [h]
  split
  · rfl
  · cases operand limit level ts (depth + 1) with
    | fail failure depth => rfl
    | ok right rest depth shorter => simp

theorem outcome_power (ts : List Token) (depth : Nat) :
    (power limit ts depth).outcome = (signed limit ts depth).outcome.andThen fun left rest d =>
      expect .caret rest
        (fun rest' => descend limit d
          ((power limit rest' (d + 1)).outcome.leave.map (.binary .power left)))
        (.ok (left, rest, d)) := by
  rw [power]
  cases signed limit ts depth with
  | fail failure depth => rfl
  | ok left rest d shorter =>
    simp only [Reply.outcome_ok, andThen_ok, expect, descend]
    split
    · rename_i h
      rw [h]
      rfl
    · rename_i rest' h
      simp only [h]
      split <;> simp

theorem outcome_signed_none {ts : List Token} (depth : Nat)
    (h : ∀ t ∈ ts.head?, sign? t = none) :
    (signed limit ts depth).outcome = (percentage limit ts depth).outcome := by
  rw [signed.eq_def]
  cases ts with
  | nil => rfl
  | cons t ts => simp only [h t rfl]

theorem outcome_signed_some {t : Token} {op : UnaryOp} (ts : List Token) (depth : Nat)
    (h : sign? t = some op) :
    (signed limit (t :: ts) depth).outcome =
      descend limit depth ((signed limit ts (depth + 1)).outcome.leave.map (.unary op)) := by
  rw [signed, descend]
  simp only [h]
  split <;> simp

theorem outcome_percentage (ts : List Token) (depth : Nat) :
    (percentage limit ts depth).outcome = (range limit ts depth).outcome.andThen
      fun operand rest d => (percents limit d operand rest d).outcome := by
  rw [percentage]
  cases range limit ts depth with
  | fail failure depth => rfl
  | ok operand rest depth shorter => simp

theorem outcome_range (ts : List Token) (depth : Nat) :
    (range limit ts depth).outcome = (primary limit ts depth).outcome.andThen fun left rest d =>
      expect .colon rest (fun rest' => (primary limit rest' d).outcome.map left.joinRange)
        (.ok (left, rest, d)) := by
  rw [range]
  cases primary limit ts depth with
  | fail failure depth => rfl
  | ok left rest d shorter =>
    simp only [Reply.outcome_ok, andThen_ok, expect]
    split
    · rename_i h
      rw [h]
      rfl
    · rename_i rest' h
      simp [h]

theorem outcome_primary_identifier (label : String) (ts : List Token) (depth : Nat) :
    (primary limit (.identifier label :: ts) depth).outcome =
      expect .leftParen ts
        (fun rest => (call limit rest depth).outcome.map (.call (Text.upper label)))
        (.ok (.name label, ts, depth)) := by
  rw [primary, expect]
  split
  · rename_i h
    rw [h]
    rfl
  · rename_i rest h
    simp [h]

theorem outcome_primary_leftParen (ts : List Token) (depth : Nat) :
    (primary limit (.symbol .leftParen :: ts) depth).outcome =
      (expression limit ts depth).outcome.andThen fun inner rest d =>
        (close .rightParen inner rest d).outcome := by
  rw [primary]
  cases expression limit ts depth with
  | fail failure depth => rfl
  | ok inner rest depth shorter => simp

theorem outcome_primary_leftBrace (ts : List Token) (depth : Nat) :
    (primary limit (.symbol .leftBrace :: ts) depth).outcome =
      (array limit ts depth).outcome.map .array := by
  rw [primary]
  simp

theorem outcome_primary_symbol {s : Symbol} (ts : List Token) (depth : Nat)
    (hp : s ≠ .leftParen) (hb : s ≠ .leftBrace) :
    (primary limit (.symbol s :: ts) depth).outcome =
      .error (.parse (.unexpectedToken (.symbol s)), depth) := by
  rw [primary, if_neg hp, if_neg hb]
  rfl

theorem outcome_call (ts : List Token) (depth : Nat) :
    (call limit ts depth).outcome =
      expect .rightParen ts (fun rest => .ok ([], rest, depth))
        (arguments limit ts depth).outcome := by
  rw [call, expect]
  split <;> rename_i h <;> simp [h]

theorem outcome_arguments (ts : List Token) (depth : Nat) :
    (arguments limit ts depth).outcome = (expression limit ts depth).outcome.andThen
      fun arg rest d => expect .comma rest
        (fun rest' => (arguments limit rest' d).outcome.map (arg :: ·))
        (close .rightParen [arg] rest d).outcome := by
  rw [arguments]
  cases expression limit ts depth with
  | fail failure depth => rfl
  | ok arg rest d shorter =>
    simp only [Reply.outcome_ok, andThen_ok, expect]
    split
    · rename_i h
      simp [h]
    · rename_i rest' h
      simp [h]

theorem outcome_array (ts : List Token) (depth : Nat) :
    (array limit ts depth).outcome =
      expect .rightBrace ts (fun rest => .ok ([], rest, depth)) (rows limit ts depth).outcome := by
  rw [array, expect]
  split <;> rename_i h <;> simp [h]

theorem outcome_rows (ts : List Token) (depth : Nat) :
    (rows limit ts depth).outcome = (expression limit ts depth).outcome.andThen
      fun cell rest d => expect .comma rest
        (fun rest' => (rows limit rest' d).outcome.map (consCell cell))
        (expect .semicolon rest (fun rest' => (rows limit rest' d).outcome.map ([cell] :: ·))
          (expect .rightBrace rest (fun rest' => .ok ([[cell]], rest', d))
            (.error (.parse .expectedArraySeparator, d)))) := by
  rw [rows]
  cases expression limit ts depth with
  | fail failure depth => rfl
  | ok cell rest d shorter =>
    simp only [Reply.outcome_ok, andThen_ok, expect]
    split
    · rename_i rest' h
      simp [h]
    · rename_i h
      simp only [h]
      split
      · rename_i rest' h'
        simp [h']
      · rename_i h'
        simp only [h']
        split <;> rename_i h'' <;> simp [h'']

end

end SheetFormula.Expr.Parser
