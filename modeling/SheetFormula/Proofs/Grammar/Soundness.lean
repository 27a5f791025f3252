import SheetFormula.Proofs.Grammar
import SheetFormula.Proofs.Grammar.Outcome

/-!
# What the parser reads is a phrase

`Reads c closing ts depth o`: if the outcome `o` of reading `ts` is a success, the count of levels
is back at `depth`, and what was read is a phrase of the stratum `c` with the tokens `closing` after
it.
The procedures of the parser are shown to read phrases of their strata together (`readsBelow`), by
induction on the number of tokens: each procedure (`reads_expression` to `reads_rows`) calls itself
or a looser one only on fewer tokens. A loop continues a phrase: `reads_chainRest` and
`reads_percents` start from the phrase that the operand so far is.
-/

namespace SheetFormula.Grammar

open Expr.Parser Outcome

/-- A successful outcome is a phrase of a stratum with some tokens after it. -/
def Reads (c : Stratum) (closing ts : List Token) (depth : Nat) (o : Outcome c.Meaning) : Prop :=
  ∀ ⦃v rest d⦄, o = .ok (v, rest, d) →
    d = depth ∧ ∃ p : Phrase c, ts = p.tokens ++ (closing ++ rest) ∧ p.tree = v

/-! ## Operators -/

/-- The operators that the parser knows are those of the grammar. -/
theorem ofSymbol?_eq_some {level : Level} {s : Symbol} {op : BinaryOp} :
    level.ofSymbol? s = some op ↔ (s, op) ∈ operators level := by
  cases level <;> cases s <;> simp [Level.ofSymbol?, operators, eq_comm]

theorem operator?_eq_some {level : Level} {t : Token} {op : BinaryOp} :
    level.operator? t = some op ↔ ∃ s, t = .symbol s ∧ (s, op) ∈ operators level := by
  cases t <;> simp [Level.operator?, ofSymbol?_eq_some]

/-- The signs that the parser knows are those of the grammar. -/
theorem sign?_eq_some {t : Token} {op : UnaryOp} :
    sign? t = some op ↔ ∃ s, t = .symbol s ∧ (s, op) ∈ signs := by
  cases t with
  | symbol s => cases s <;> simp [sign?, signs, eq_comm]
  | _ => simp [sign?]

/-! ## Rows -/

/-- A cell in front of the first row. -/
def Phrase.consCell (cell : Phrase .expression) : Phrase .rows → Phrase .rows
  | .lastRow cells => .lastRow (.cell cell cells)
  | .row cells rows => .row (.cell cell cells) rows

theorem Phrase.tokens_consCell (cell : Phrase .expression) (rows : Phrase .rows) :
    (cell.consCell rows).tokens = cell.tokens ++ .symbol .comma :: rows.tokens := by
  cases rows <;> simp [Phrase.consCell, Phrase.tokens]

theorem Phrase.tree_consCell (cell : Phrase .expression) (rows : Phrase .rows) :
    (cell.consCell rows).tree = Expr.Parser.consCell cell.tree rows.tree := by
  cases rows <;> rfl

/-! ## The procedures

Each procedure reads a phrase if the tighter ones do on the same tokens and all of them do on fewer
tokens. -/

/-- The procedures read phrases from any list of fewer than `n` tokens. -/
structure ReadsBelow (limit n : Nat) : Prop where
  expression : ∀ ⦃ts⦄, ts.length < n → ∀ depth,
    Reads .expression [] ts depth (expression limit ts depth).outcome
  operand : ∀ level ⦃ts⦄, ts.length < n → ∀ depth,
    Reads (.operand level) [] ts depth (operand limit level ts depth).outcome
  power : ∀ ⦃ts⦄, ts.length < n → ∀ depth,
    Reads .power [] ts depth (power limit ts depth).outcome
  signed : ∀ ⦃ts⦄, ts.length < n → ∀ depth,
    Reads .signed [] ts depth (signed limit ts depth).outcome
  primary : ∀ ⦃ts⦄, ts.length < n → ∀ depth,
    Reads .primary [] ts depth (primary limit ts depth).outcome
  arguments : ∀ ⦃ts⦄, ts.length < n → ∀ depth,
    Reads .arguments [.symbol .rightParen] ts depth (arguments limit ts depth).outcome
  rows : ∀ ⦃ts⦄, ts.length < n → ∀ depth,
    Reads .rows [.symbol .rightBrace] ts depth (rows limit ts depth).outcome

section
variable {limit : Nat}

/-- No arguments, or a phrase of arguments. -/
theorem reads_call {ts : List Token}
    (ha : ∀ depth, Reads .arguments [.symbol .rightParen] ts depth
      (arguments limit ts depth).outcome)
    {depth : Nat} {v : List Expr} {rest : List Token} {d : Nat}
    (h : (call limit ts depth).outcome = .ok (v, rest, d)) :
    d = depth ∧ (ts = .symbol .rightParen :: rest ∧ v = [] ∨
      ∃ p : Phrase .arguments, ts = p.tokens ++ .symbol .rightParen :: rest ∧ p.tree = v) := by
  rw [outcome_call] at h
  rcases expect_eq_ok h with ⟨rest', rfl, h⟩ | h
  · cases h
    exact ⟨rfl, .inl ⟨rfl, rfl⟩⟩
  · obtain ⟨rfl, p, hp, rfl⟩ := ha depth h
    exact ⟨rfl, .inr ⟨p, hp, rfl⟩⟩

/-- No rows, or a phrase of rows. -/
theorem reads_array {ts : List Token}
    (hr : ∀ depth, Reads .rows [.symbol .rightBrace] ts depth (rows limit ts depth).outcome)
    {depth : Nat} {v : List (List Expr)} {rest : List Token} {d : Nat}
    (h : (array limit ts depth).outcome = .ok (v, rest, d)) :
    d = depth ∧ (ts = .symbol .rightBrace :: rest ∧ v = [] ∨
      ∃ p : Phrase .rows, ts = p.tokens ++ .symbol .rightBrace :: rest ∧ p.tree = v) := by
  rw [outcome_array] at h
  rcases expect_eq_ok h with ⟨rest', rfl, h⟩ | h
  · cases h
    exact ⟨rfl, .inl ⟨rfl, rfl⟩⟩
  · obtain ⟨rfl, p, hp, rfl⟩ := hr depth h
    exact ⟨rfl, .inr ⟨p, hp, rfl⟩⟩

theorem reads_primary {ts : List Token} (below : ReadsBelow limit ts.length) (depth : Nat) :
    Reads .primary [] ts depth (primary limit ts depth).outcome := by
  intro v rest d h
  match ts with
  | [] =>
    rw [primary] at h
    cases h
  | .number n :: ts =>
    rw [primary] at h
    cases h
    exact ⟨rfl, .number n, rfl, rfl⟩
  | .string s :: ts =>
    rw [primary] at h
    cases h
    exact ⟨rfl, .string s, rfl, rfl⟩
  | .error code :: ts =>
    rw [primary] at h
    cases h
    exact ⟨rfl, .error code, rfl, rfl⟩
  | .reference ref :: ts =>
    rw [primary] at h
    cases h
    exact ⟨rfl, .reference ref, rfl, rfl⟩
  | .identifier label :: ts =>
    rw [outcome_primary_identifier] at h
    rcases expect_eq_ok h with ⟨rest', rfl, h⟩ | h
    · obtain ⟨args, hm, rfl⟩ := map_eq_ok.1 h
      have shorter : rest'.length < rest'.length + 1 + 1 := by omega
      obtain ⟨rfl, ⟨rfl, rfl⟩ | ⟨p, rfl, rfl⟩⟩ := reads_call (below.arguments shorter) hm
      · exact ⟨rfl, .emptyCall label, rfl, rfl⟩
      · exact ⟨rfl, .call label p, by simp [Phrase.tokens], rfl⟩
    · cases h
      exact ⟨rfl, .name label, rfl, rfl⟩
  | .symbol s :: ts =>
    have shorter : ts.length < (Token.symbol s :: ts).length := Nat.lt_succ_self _
    by_cases hp : s = .leftParen
    · subst hp
      rw [outcome_primary_leftParen] at h
      obtain ⟨inner, rest', d', hi, h⟩ := andThen_eq_ok.1 h
      obtain ⟨rfl, p, rfl, rfl⟩ := below.expression shorter depth hi
      rw [outcome_close] at h
      rcases expect_eq_ok h with ⟨rest'', rfl, h⟩ | h
      · cases h
        exact ⟨rfl, .parens p, by simp [Phrase.tokens], rfl⟩
      · cases h
    · by_cases hb : s = .leftBrace
      · subst hb
        rw [outcome_primary_leftBrace] at h
        obtain ⟨rows, hm, rfl⟩ := map_eq_ok.1 h
        obtain ⟨rfl, ⟨rfl, rfl⟩ | ⟨p, rfl, rfl⟩⟩ := reads_array (below.rows shorter) hm
        · exact ⟨rfl, .emptyArray, rfl, rfl⟩
        · exact ⟨rfl, .array p, by simp [Phrase.tokens], rfl⟩
      · rw [outcome_primary_symbol limit ts depth hp hb] at h
        cases h

theorem reads_range {ts : List Token} (below : ReadsBelow limit ts.length) (depth : Nat) :
    Reads .range [] ts depth (range limit ts depth).outcome := by
  intro v rest d h
  rw [outcome_range] at h
  obtain ⟨left, rest', d', hl, h⟩ := andThen_eq_ok.1 h
  have shorter := Reply.length_of_outcome hl
  obtain ⟨rfl, l, rfl, rfl⟩ := reads_primary below depth hl
  rcases expect_eq_ok h with ⟨rest'', rfl, h⟩ | h
  · obtain ⟨right, hm, rfl⟩ := map_eq_ok.1 h
    obtain ⟨rfl, r, rfl, rfl⟩ := below.primary (Nat.lt_of_succ_lt shorter) d' hm
    exact ⟨rfl, .colon l r, by simp [Phrase.tokens], rfl⟩
  · cases h
    exact ⟨rfl, .single l, rfl, rfl⟩

/-- The percentage read so far is `l`. -/
theorem reads_percents (base : Nat) (ts : List Token) (depth : Nat) (l : Phrase .percentage)
    {v : Expr} {rest : List Token} {d : Nat}
    (h : (percents limit base l.tree ts depth).outcome = .ok (v, rest, d)) :
    d = base ∧ ∃ p : Phrase .percentage, l.tokens ++ ts = p.tokens ++ rest ∧ p.tree = v := by
  induction ts generalizing depth l with
  | nil =>
    cases h
    exact ⟨rfl, l, rfl, rfl⟩
  | cons t ts ih =>
    by_cases ht : t = .symbol .percent
    · subst ht
      rw [outcome_percents_percent] at h
      obtain ⟨-, h⟩ := descend_eq_ok.1 h
      obtain ⟨rfl, p, hp, rfl⟩ := ih (depth + 1) (.percent l) h
      refine ⟨rfl, p, ?_, rfl⟩
      rw [← hp, Phrase.tokens, List.append_assoc, List.singleton_append]
    · rw [outcome_percents_none limit base l.tree depth (by simpa using ht)] at h
      cases h
      exact ⟨rfl, l, rfl, rfl⟩

theorem reads_percentage {ts : List Token} (below : ReadsBelow limit ts.length) (depth : Nat) :
    Reads .percentage [] ts depth (percentage limit ts depth).outcome := by
  intro v rest d h
  rw [outcome_percentage] at h
  obtain ⟨operand, rest', d', ho, h⟩ := andThen_eq_ok.1 h
  obtain ⟨rfl, p, rfl, rfl⟩ := reads_range below depth ho
  exact reads_percents d' rest' d' (.whole p) h

theorem reads_signed {ts : List Token} (below : ReadsBelow limit ts.length) (depth : Nat) :
    Reads .signed [] ts depth (signed limit ts depth).outcome := by
  intro v rest d h
  cases hs : ts.head?.bind sign? with
  | none =>
    rw [outcome_signed_none limit depth (by simpa using hs)] at h
    obtain ⟨rfl, p, hp, rfl⟩ := reads_percentage below depth h
    exact ⟨rfl, .unsigned p, hp, rfl⟩
  | some op =>
    obtain ⟨t, ht, hop⟩ := Option.bind_eq_some_iff.1 hs
    obtain ⟨ts, rfl⟩ := List.head?_eq_some_iff.1 ht
    obtain ⟨s, rfl, mem⟩ := sign?_eq_some.1 hop
    rw [outcome_signed_some limit ts depth hop] at h
    obtain ⟨-, h⟩ := descend_eq_ok.1 h
    obtain ⟨operand, hm, rfl⟩ := map_eq_ok.1 h
    obtain ⟨d', he, rfl⟩ := leave_eq_ok.1 hm
    obtain ⟨rfl, p, rfl, rfl⟩ := below.signed (Nat.lt_succ_self _) (depth + 1) he
    exact ⟨rfl, .sign s op mem p, rfl, rfl⟩

theorem reads_power {ts : List Token} (below : ReadsBelow limit ts.length) (depth : Nat) :
    Reads .power [] ts depth (power limit ts depth).outcome := by
  intro v rest d h
  rw [outcome_power] at h
  obtain ⟨left, rest', d', hl, h⟩ := andThen_eq_ok.1 h
  have shorter := Reply.length_of_outcome hl
  obtain ⟨rfl, l, rfl, rfl⟩ := reads_signed below depth hl
  rcases expect_eq_ok h with ⟨rest'', rfl, h⟩ | h
  · obtain ⟨-, h⟩ := descend_eq_ok.1 h
    obtain ⟨right, hm, rfl⟩ := map_eq_ok.1 h
    obtain ⟨d'', he, rfl⟩ := leave_eq_ok.1 hm
    obtain ⟨rfl, r, rfl, rfl⟩ := below.power (Nat.lt_of_succ_lt shorter) (d' + 1) he
    exact ⟨rfl, .power l r, by simp [Phrase.tokens], rfl⟩
  · cases h
    exact ⟨rfl, .base l, rfl, rfl⟩

/-- The chain read so far is `l`. -/
theorem reads_chainRest {n : Nat} (below : ReadsBelow limit n) (level : Level) (base : Nat)
    {ts : List Token} (hts : ts.length ≤ n) (depth : Nat) (l : Phrase (.chain level))
    {v : Expr} {rest : List Token} {d : Nat}
    (h : (chainRest limit level base l.tree ts depth).outcome = .ok (v, rest, d)) :
    d = base ∧ ∃ p : Phrase (.chain level), l.tokens ++ ts = p.tokens ++ rest ∧ p.tree = v := by
  induction hn : ts.length using Nat.strongRecOn generalizing ts depth l with
  | ind m ih =>
    cases ho : ts.head?.bind level.operator? with
    | none =>
      rw [outcome_chainRest_none limit base l.tree depth (by simpa using ho)] at h
      cases h
      exact ⟨rfl, l, rfl, rfl⟩
    | some op =>
      obtain ⟨t, ht, hop⟩ := Option.bind_eq_some_iff.1 ho
      obtain ⟨ts, rfl⟩ := List.head?_eq_some_iff.1 ht
      obtain ⟨s, rfl, mem⟩ := operator?_eq_some.1 hop
      rw [outcome_chainRest_some limit base l.tree ts depth hop] at h
      obtain ⟨-, h⟩ := descend_eq_ok.1 h
      obtain ⟨right, rest', d', hr, h⟩ := andThen_eq_ok.1 h
      have shorter := Reply.length_of_outcome hr
      rw [List.length_cons] at hts hn
      obtain ⟨rfl, r, rfl, rfl⟩ := below.operand level hts (depth + 1) hr
      obtain ⟨rfl, p, hp, rfl⟩ :=
        ih rest'.length (by omega) (by omega) (depth + 1) (.binary l s op mem r) h rfl
      refine ⟨rfl, p, ?_, rfl⟩
      rw [← hp, Phrase.tokens, List.append_assoc, List.cons_append, List.nil_append]

theorem reads_chain {level : Level} {ts : List Token} (below : ReadsBelow limit ts.length)
    (ho : ∀ depth, Reads (.operand level) [] ts depth (operand limit level ts depth).outcome)
    (depth : Nat) : Reads (.chain level) [] ts depth (chain limit level ts depth).outcome := by
  intro v rest d h
  rw [outcome_chain] at h
  obtain ⟨left, rest', d', hl, h⟩ := andThen_eq_ok.1 h
  have shorter := Reply.length_of_outcome hl
  obtain ⟨rfl, l, rfl, rfl⟩ := ho depth hl
  exact reads_chainRest below level d' (Nat.le_of_lt shorter) d' (.first l) h

theorem reads_operand {ts : List Token} (below : ReadsBelow limit ts.length) (level : Level)
    (depth : Nat) :
    Reads (.operand level) [] ts depth (operand limit level ts depth).outcome := by
  have hproduct : ∀ depth, Reads (.operand .product) [] ts depth
      (operand limit .product ts depth).outcome := by
    intro depth v rest d h
    rw [operand] at h
    obtain ⟨rfl, p, hp, rfl⟩ := reads_power below depth h
    exact ⟨rfl, .factor p, hp, rfl⟩
  have hsum : ∀ depth, Reads (.operand .sum) [] ts depth
      (operand limit .sum ts depth).outcome := by
    intro depth v rest d h
    rw [operand] at h
    obtain ⟨rfl, p, hp, rfl⟩ := reads_chain below hproduct depth h
    exact ⟨rfl, .product p, hp, rfl⟩
  have hconcat : ∀ depth, Reads (.operand .concat) [] ts depth
      (operand limit .concat ts depth).outcome := by
    intro depth v rest d h
    rw [operand] at h
    obtain ⟨rfl, p, hp, rfl⟩ := reads_chain below hsum depth h
    exact ⟨rfl, .sum p, hp, rfl⟩
  cases level with
  | product => exact hproduct depth
  | sum => exact hsum depth
  | concat => exact hconcat depth
  | comparison =>
    intro v rest d h
    rw [operand] at h
    obtain ⟨rfl, p, hp, rfl⟩ := reads_chain below hconcat depth h
    exact ⟨rfl, .concat p, hp, rfl⟩

theorem reads_expression {ts : List Token} (below : ReadsBelow limit ts.length) (depth : Nat) :
    Reads .expression [] ts depth (expression limit ts depth).outcome := by
  intro v rest d h
  rw [outcome_expression] at h
  obtain ⟨-, h⟩ := descend_eq_ok.1 h
  obtain ⟨d', he, rfl⟩ := leave_eq_ok.1 h
  obtain ⟨rfl, p, hp, rfl⟩ :=
    reads_chain below (reads_operand below .comparison) (depth + 1) he
  exact ⟨rfl, .expression p, hp, rfl⟩

theorem reads_arguments {ts : List Token} (below : ReadsBelow limit ts.length) (depth : Nat) :
    Reads .arguments [.symbol .rightParen] ts depth (arguments limit ts depth).outcome := by
  intro v rest d h
  rw [outcome_arguments] at h
  obtain ⟨arg, rest', d', ha, h⟩ := andThen_eq_ok.1 h
  have shorter := Reply.length_of_outcome ha
  obtain ⟨rfl, p, rfl, rfl⟩ := reads_expression below depth ha
  rcases expect_eq_ok h with ⟨rest'', rfl, h⟩ | h
  · obtain ⟨args, hm, rfl⟩ := map_eq_ok.1 h
    obtain ⟨rfl, ps, rfl, rfl⟩ := below.arguments (Nat.lt_of_succ_lt shorter) d' hm
    exact ⟨rfl, .argument p ps, by simp [Phrase.tokens], rfl⟩
  · rw [outcome_close] at h
    rcases expect_eq_ok h with ⟨rest'', rfl, h⟩ | h
    · cases h
      exact ⟨rfl, .lastArgument p, rfl, rfl⟩
    · cases h

theorem reads_rows {ts : List Token} (below : ReadsBelow limit ts.length) (depth : Nat) :
    Reads .rows [.symbol .rightBrace] ts depth (rows limit ts depth).outcome := by
  intro v rest d h
  rw [outcome_rows] at h
  obtain ⟨cell, rest', d', hc, h⟩ := andThen_eq_ok.1 h
  have shorter := Reply.length_of_outcome hc
  obtain ⟨rfl, p, rfl, rfl⟩ := reads_expression below depth hc
  rcases expect_eq_ok h with ⟨rest'', rfl, h⟩ | h
  · obtain ⟨rows, hm, rfl⟩ := map_eq_ok.1 h
    obtain ⟨rfl, ps, rfl, rfl⟩ := below.rows (Nat.lt_of_succ_lt shorter) d' hm
    exact ⟨rfl, p.consCell ps, by simp [Phrase.tokens_consCell], p.tree_consCell ps⟩
  · rcases expect_eq_ok h with ⟨rest'', rfl, h⟩ | h
    · obtain ⟨rows, hm, rfl⟩ := map_eq_ok.1 h
      obtain ⟨rfl, ps, rfl, rfl⟩ := below.rows (Nat.lt_of_succ_lt shorter) d' hm
      exact ⟨rfl, .row (.lastCell p) ps, by simp [Phrase.tokens], rfl⟩
    · rcases expect_eq_ok h with ⟨rest'', rfl, h⟩ | h
      · cases h
        exact ⟨rfl, .lastRow (.lastCell p), rfl, rfl⟩
      · cases h

end

/-- The procedures read phrases, from any list of tokens. -/
theorem readsBelow (limit n : Nat) : ReadsBelow limit n := by
  induction n using Nat.strongRecOn with
  | ind n ih =>
    exact {
      expression := fun ts h => reads_expression (ih ts.length h)
      operand := fun level ts h => reads_operand (ih ts.length h) level
      power := fun ts h => reads_power (ih ts.length h)
      signed := fun ts h => reads_signed (ih ts.length h)
      primary := fun ts h => reads_primary (ih ts.length h)
      arguments := fun ts h => reads_arguments (ih ts.length h)
      rows := fun ts h => reads_rows (ih ts.length h) }

end SheetFormula.Grammar
