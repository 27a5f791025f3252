import SheetFormula.Proofs.Grammar.Soundness

/-!
# A phrase is read if its levels fit under the limit

`Settles limit n o r`: the outcome `o` is `r` if `n` levels fit under the limit, and fails for depth
if they do not. Every phrase settles (`settled`), by one lemma for each production: in front of
tokens that do not continue it (`Stops`), it is read as its tree if the levels it takes fit. A chain
settles to the state of the loop that reads it, so that one more operator is one more step.
-/

namespace SheetFormula.Grammar

open Expr.Parser Outcome

/-! ## Outcomes under a limit -/

/-- The outcome `r` if `n` levels fit under the limit, and a failure if they do not. -/
def Settles {α : Type} (limit n : Nat) (o r : Outcome α) : Prop :=
  (n ≤ limit → o = r) ∧ (limit < n → ∃ d, o = .error (.tooDeep limit, d))

namespace Settles

variable {α β : Type} {limit n m : Nat}

theorem of_eq {o r : Outcome α} (hn : n ≤ limit) (h : o = r) : Settles limit n o r :=
  ⟨fun _ => h, fun hl => absurd hn (by omega)⟩

theorem trans {o r r' : Outcome α} (h : Settles limit n o r)
    (h' : n ≤ limit → Settles limit m r r') : Settles limit (max n m) o r' := by
  refine ⟨fun hl => ?_, fun hl => ?_⟩
  · rw [h.1 (by omega)]
    exact (h' (by omega)).1 (by omega)
  · by_cases hn : n ≤ limit
    · rw [h.1 hn]
      exact (h' hn).2 (by omega)
    · exact h.2 (by omega)

theorem descend {depth : Nat} {o r : Outcome α} (hd : depth + 1 ≤ n)
    (h : depth < limit → Settles limit n o r) : Settles limit n (descend limit depth o) r := by
  by_cases hl : depth < limit
  · rw [descend_of_lt hl]
    exact h hl
  · rw [descend_of_le (by omega)]
    exact ⟨fun hn => absurd hn (by omega), fun _ => ⟨_, rfl⟩⟩

theorem andThen {o : Outcome α} {v : α} {rest : List Token} {d : Nat}
    (h : Settles limit n o (.ok (v, rest, d))) (f : α → List Token → Nat → Outcome β) :
    Settles limit n (o.andThen f) (f v rest d) := by
  refine ⟨fun hn => by rw [h.1 hn]; rfl, fun hl => ?_⟩
  obtain ⟨d', hd'⟩ := h.2 hl
  exact ⟨d', by rw [hd']; rfl⟩

theorem map {o : Outcome α} {v : α} {rest : List Token} {d : Nat}
    (h : Settles limit n o (.ok (v, rest, d))) (f : α → β) :
    Settles limit n (o.map f) (.ok (f v, rest, d)) := by
  refine ⟨fun hn => by rw [h.1 hn]; rfl, fun hl => ?_⟩
  obtain ⟨d', hd'⟩ := h.2 hl
  exact ⟨d', by rw [hd']; rfl⟩

theorem leave {o : Outcome α} {v : α} {rest : List Token} {d : Nat}
    (h : Settles limit n o (.ok (v, rest, d + 1))) :
    Settles limit n o.leave (.ok (v, rest, d)) := by
  refine ⟨fun hn => by rw [h.1 hn]; rfl, fun hl => ?_⟩
  obtain ⟨d', hd'⟩ := h.2 hl
  exact ⟨d' - 1, by rw [hd']; rfl⟩

end Settles

/-! ## Where phrases stop -/

/-- How loosely a symbol continues the phrase in front of it. -/
def looseness : Symbol → Nat
  | .leftParen => 1
  | .colon => 2
  | .percent => 3
  | .caret => 4
  | .star | .slash => 5
  | .plus | .minus => 6
  | .ampersand => 7
  | .equal | .notEqual | .lessThan | .lessEqual | .greaterThan | .greaterEqual => 8
  | .comma | .semicolon | .rightParen | .leftBrace | .rightBrace => 9

/-- How loosely the operators of a level continue a phrase. -/
def levelLooseness : Level → Nat
  | .product => 5
  | .sum => 6
  | .concat => 7
  | .comparison => 8

/-- Tokens in front of which a phrase ends that only symbols of looseness up to `k` continue. -/
def Stops (k : Nat) (ts : List Token) : Prop :=
  ∀ s, ts.head? = some (.symbol s) → k < looseness s

theorem looseness_of_mem {level : Level} {s : Symbol} {op : BinaryOp}
    (h : (s, op) ∈ operators level) : looseness s = levelLooseness level := by
  cases level <;> simp only [operators, List.mem_cons, List.not_mem_nil, Prod.mk.injEq] at h <;>
    rcases h with h | h | h | h | h | h | h <;> simp_all [looseness, levelLooseness]

theorem stops_nil (k : Nat) : Stops k [] := by
  intro s h
  cases h

theorem stops_symbol {k : Nat} {s : Symbol} (h : k < looseness s) (ts : List Token) :
    Stops k (.symbol s :: ts) := by
  intro s' hs
  cases hs
  exact h

theorem Stops.mono {k k' : Nat} {ts : List Token} (h : Stops k ts) (hk : k' ≤ k) : Stops k' ts :=
  fun s hs => Nat.lt_of_le_of_lt hk (h s hs)

theorem Stops.after? {k : Nat} {ts : List Token} (h : Stops k ts) {s : Symbol}
    (hs : looseness s ≤ k) : after? s ts = none := by
  cases ha : Expr.Parser.after? s ts with
  | none => rfl
  | some rest =>
    rw [after?_eq_some] at ha
    have := h s (by rw [ha, List.head?_cons])
    omega

theorem Stops.operator? {level : Level} {ts : List Token} (h : Stops (levelLooseness level) ts) :
    ∀ t ∈ ts.head?, level.operator? t = none := by
  intro t ht
  cases ho : level.operator? t with
  | none => rfl
  | some op =>
    obtain ⟨s, rfl, mem⟩ := operator?_eq_some.1 ho
    have := h s ht
    have := looseness_of_mem mem
    omega

theorem Stops.percent {k : Nat} {ts : List Token} (h : Stops k ts) (hk : 3 ≤ k) :
    ts.head? ≠ some (.symbol .percent) := by
  intro ht
  have := h .percent ht
  simp only [looseness] at this
  omega

/-! ## Where phrases start -/

/-- Whether the phrases of a stratum start with no sign. -/
def Stratum.isUnsigned : Stratum → Bool
  | .percentage | .range | .primary => true
  | _ => false

/-- Whether a token may stand at the start of a phrase. -/
def startsPhrase : Token → Bool
  | .symbol s => s ∈ [Symbol.plus, .minus, .leftParen, .leftBrace]
  | _ => true

/-- The first token of a phrase is no operator or closing symbol, and no sign in the tightest
strata. -/
theorem Phrase.tokens_eq_cons {c : Stratum} (p : Phrase c) :
    ∃ t ts, p.tokens = t :: ts ∧ startsPhrase t = true ∧
      (c.isUnsigned = true → sign? t = none) := by
  induction p with
  | expression p ih | first p ih | concat p ih | sum p ih | product p ih | factor p ih | base p ih
  | unsigned p ih | lastArgument p ih | lastCell p ih | lastRow p ih =>
    obtain ⟨t, ts, h, starts, -⟩ := ih
    exact ⟨t, ts, h, starts, by simp [Stratum.isUnsigned]⟩
  | whole p ih | single p ih =>
    obtain ⟨t, ts, h, starts, hs⟩ := ih
    exact ⟨t, ts, h, starts, fun _ => hs rfl⟩
  | binary l s op mem r ihl _ | power l r ihl _ | argument l r ihl _ | cell l r ihl _
  | row l r ihl _ =>
    obtain ⟨t, ts, h, starts, -⟩ := ihl
    exact ⟨t, ts ++ _, by rw [tokens, h, List.cons_append], starts, by simp [Stratum.isUnsigned]⟩
  | percent p ih =>
    obtain ⟨t, ts, h, starts, hs⟩ := ih
    exact ⟨t, ts ++ _, by rw [tokens, h, List.cons_append], starts, fun _ => hs rfl⟩
  | colon l r ihl _ =>
    obtain ⟨t, ts, h, starts, hs⟩ := ihl
    exact ⟨t, ts ++ _, by rw [tokens, h, List.cons_append], starts, fun _ => hs rfl⟩
  | sign s op mem p _ =>
    refine ⟨.symbol s, p.tokens, rfl, ?_, by simp [Stratum.isUnsigned]⟩
    simp only [signs, List.mem_cons, Prod.mk.injEq, List.not_mem_nil, or_false] at mem
    rcases mem with ⟨rfl, -⟩ | ⟨rfl, -⟩ <;> rfl
  | number | string | error | reference | name | emptyCall | parens | emptyArray | array | call =>
    exact ⟨_, _, rfl, rfl, fun _ => rfl⟩

theorem Phrase.head?_tokens_ne {c : Stratum} (p : Phrase c) {t : Token}
    (h : startsPhrase t = false) : p.tokens.head? ≠ some t := by
  obtain ⟨u, ts, hp, starts, -⟩ := p.tokens_eq_cons
  rw [hp, List.head?_cons]
  rintro ⟨⟩
  rw [h] at starts
  cases starts

theorem Phrase.after?_tokens {c : Stratum} (p : Phrase c) {s : Symbol}
    (hs : startsPhrase (.symbol s) = false) (rest : List Token) :
    after? s (p.tokens ++ rest) = none := by
  cases ha : after? s (p.tokens ++ rest) with
  | none => rfl
  | some rest' =>
    rw [after?_eq_some] at ha
    obtain ⟨u, ts, hp, -⟩ := p.tokens_eq_cons
    rw [hp, List.cons_append] at ha
    refine absurd ?_ (p.head?_tokens_ne hs)
    rw [hp, List.head?_cons, (List.cons.inj ha).1]

/-! ## One lemma for each production -/

/-- What it is for a phrase to settle. -/
def Settled (limit : Nat) : {c : Stratum} → Phrase c → Prop
  | .expression, p => ∀ rest depth, Stops 8 rest → depth ≤ limit →
      Settles limit (depth + p.levels) (expression limit (p.tokens ++ rest) depth).outcome
        (.ok (p.tree, rest, depth))
  | .chain level, p => ∀ rest depth, Stops (levelLooseness level - 1) rest → depth ≤ limit →
      Settles limit (depth + p.levels) (chain limit level (p.tokens ++ rest) depth).outcome
        (chainRest limit level depth p.tree rest (depth + p.links)).outcome
  | .operand level, p => ∀ rest depth, Stops (levelLooseness level - 1) rest → depth ≤ limit →
      Settles limit (depth + p.levels) (operand limit level (p.tokens ++ rest) depth).outcome
        (.ok (p.tree, rest, depth))
  | .power, p => ∀ rest depth, Stops 4 rest → depth ≤ limit →
      Settles limit (depth + p.levels) (power limit (p.tokens ++ rest) depth).outcome
        (.ok (p.tree, rest, depth))
  | .signed, p => ∀ rest depth, Stops 3 rest → depth ≤ limit →
      Settles limit (depth + p.levels) (signed limit (p.tokens ++ rest) depth).outcome
        (.ok (p.tree, rest, depth))
  | .percentage, p => ∀ rest depth, Stops 2 rest → depth ≤ limit →
      Settles limit (depth + p.levels) (percentage limit (p.tokens ++ rest) depth).outcome
        (percents limit depth p.tree rest (depth + p.links)).outcome
  | .range, p => ∀ rest depth, Stops 2 rest → depth ≤ limit →
      Settles limit (depth + p.levels) (range limit (p.tokens ++ rest) depth).outcome
        (.ok (p.tree, rest, depth))
  | .primary, p => ∀ rest depth, Stops 1 rest → depth ≤ limit →
      Settles limit (depth + p.levels) (primary limit (p.tokens ++ rest) depth).outcome
        (.ok (p.tree, rest, depth))
  | .arguments, p => ∀ rest depth, depth ≤ limit →
      Settles limit (depth + p.levels)
        (arguments limit (p.tokens ++ .symbol .rightParen :: rest) depth).outcome
        (.ok (p.tree, rest, depth))
  | .row, p => ∀ depth, depth ≤ limit →
      (∀ rest, Settles limit (depth + p.levels)
        (rows limit (p.tokens ++ .symbol .rightBrace :: rest) depth).outcome
        (.ok ([p.tree], rest, depth))) ∧
      ∀ n ts vs rest, Settles limit n (rows limit ts depth).outcome (.ok (vs, rest, depth)) →
        Settles limit (max (depth + p.levels) n)
          (rows limit (p.tokens ++ .symbol .semicolon :: ts) depth).outcome
          (.ok (p.tree :: vs, rest, depth))
  | .rows, p => ∀ rest depth, depth ≤ limit →
      Settles limit (depth + p.levels)
        (rows limit (p.tokens ++ .symbol .rightBrace :: rest) depth).outcome
        (.ok (p.tree, rest, depth))

section
variable {limit : Nat}

theorem settled_expression {p : Phrase (.chain .comparison)} (h : Settled limit p) :
    Settled limit (.expression p) := by
  intro rest depth hr _
  rw [outcome_expression]
  refine .descend (by simp only [Phrase.levels]; omega) fun hd => ?_
  have chained := h rest (depth + 1) (hr.mono (by decide)) hd
  have stopped : Stops (levelLooseness .comparison) rest := hr
  rw [outcome_chainRest_none limit (depth + 1) p.tree _ stopped.operator?] at chained
  rw [Phrase.levels, ← Nat.add_assoc, Nat.add_right_comm]
  exact chained.leave

theorem settled_first {level : Level} {p : Phrase (.operand level)} (h : Settled limit p) :
    Settled limit (.first p) := by
  intro rest depth hr hd
  rw [outcome_chain]
  exact (h rest depth hr hd).andThen _

theorem settled_binary {level : Level} {l : Phrase (.chain level)} {s : Symbol} {op : BinaryOp}
    (mem : (s, op) ∈ operators level) {r : Phrase (.operand level)} (hl : Settled limit l)
    (hr : Settled limit r) : Settled limit (.binary l s op mem r) := by
  intro rest depth hrest hd
  have looser : levelLooseness level - 1 < looseness s := by
    rw [looseness_of_mem mem]
    cases level <;> decide
  have left := hl (.symbol s :: (r.tokens ++ rest)) depth (stops_symbol looser _) hd
  rw [outcome_chainRest_some limit depth l.tree _ _
    (operator?_eq_some.2 ⟨s, rfl, mem⟩)] at left
  have right := left.trans fun hl => Settles.descend (Nat.le_add_right _ r.levels) fun hd =>
    (hr rest (depth + l.links + 1) hrest hd).andThen _
  have hlevels : depth + (Phrase.binary l s op mem r).levels =
      max (depth + l.levels) (depth + l.links + 1 + r.levels) := by
    simp only [Phrase.levels]
    omega
  rw [hlevels, Phrase.tokens, List.append_assoc]
  exact right

/-- A chain is the operand of the next looser level once no operator continues it. -/
theorem settled_operand {level looser : Level} {p : Phrase (.chain level)} (h : Settled limit p)
    (hk : levelLooseness level = levelLooseness looser - 1)
    (ho : ∀ ts depth, operand limit looser ts depth = chain limit level ts depth)
    {rest : List Token} {depth : Nat} (hr : Stops (levelLooseness looser - 1) rest)
    (hd : depth ≤ limit) :
    Settles limit (depth + p.levels) (operand limit looser (p.tokens ++ rest) depth).outcome
      (.ok (p.tree, rest, depth)) := by
  rw [← hk] at hr
  have chained := h rest depth (hr.mono (Nat.sub_le _ _)) hd
  rw [outcome_chainRest_none limit depth p.tree _ hr.operator?] at chained
  rw [ho]
  exact chained

theorem settled_concat {p : Phrase (.chain .concat)} (h : Settled limit p) :
    Settled limit (.concat p) :=
  fun _ _ hr hd => settled_operand h rfl (fun ts depth => by rw [operand]) hr hd

theorem settled_sum {p : Phrase (.chain .sum)} (h : Settled limit p) :
    Settled limit (.sum p) :=
  fun _ _ hr hd => settled_operand h rfl (fun ts depth => by rw [operand]) hr hd

theorem settled_product {p : Phrase (.chain .product)} (h : Settled limit p) :
    Settled limit (.product p) :=
  fun _ _ hr hd => settled_operand h rfl (fun ts depth => by rw [operand]) hr hd

theorem settled_factor {p : Phrase .power} (h : Settled limit p) : Settled limit (.factor p) := by
  intro rest depth hr hd
  rw [operand]
  exact h rest depth hr hd

theorem settled_base {p : Phrase .signed} (h : Settled limit p) : Settled limit (.base p) := by
  intro rest depth hr hd
  rw [outcome_power]
  have base := (h rest depth (hr.mono (by decide)) hd).andThen fun left rest d =>
    expect .caret rest (fun rest' => Outcome.descend limit d
      ((power limit rest' (d + 1)).outcome.leave.map (.binary .power left))) (.ok (left, rest, d))
  rw [expect_of_none (hr.after? (by decide))] at base
  exact base

theorem settled_power {l : Phrase .signed} {r : Phrase .power} (hl : Settled limit l)
    (hr : Settled limit r) : Settled limit (.power l r) := by
  intro rest depth hrest hd
  have left := (hl (.symbol .caret :: (r.tokens ++ rest)) depth (stops_symbol (by decide) _)
    hd).andThen fun left rest d => expect .caret rest (fun rest' => Outcome.descend limit d
      ((power limit rest' (d + 1)).outcome.leave.map (.binary .power left))) (.ok (left, rest, d))
  rw [expect_cons_self] at left
  have right := left.trans fun _ => Settles.descend (Nat.le_add_right _ r.levels) fun hd =>
    (hr rest (depth + 1) hrest hd).leave.map _
  have hlevels : depth + (Phrase.power l r).levels =
      max (depth + l.levels) (depth + 1 + r.levels) := by
    simp only [Phrase.levels]
    omega
  rw [outcome_power, hlevels, Phrase.tokens, List.append_assoc]
  exact right

theorem settled_unsigned {p : Phrase .percentage} (h : Settled limit p) :
    Settled limit (.unsigned p) := by
  intro rest depth hr hd
  obtain ⟨t, ts, ht, -, hs⟩ := p.tokens_eq_cons
  have unsigned : ∀ t ∈ (p.tokens ++ rest).head?, sign? t = none := by
    intro t' ht'
    rw [ht, List.cons_append, List.head?_cons, Option.mem_some_iff] at ht'
    rw [← ht']
    exact hs rfl
  have settles := h rest depth (hr.mono (by decide)) hd
  rw [outcome_percents_none limit depth p.tree _ (hr.percent (Nat.le_refl _))] at settles
  rw [Phrase.tokens, outcome_signed_none limit depth unsigned]
  exact settles

theorem settled_sign {s : Symbol} {op : UnaryOp} (mem : (s, op) ∈ signs) {p : Phrase .signed}
    (h : Settled limit p) : Settled limit (.sign s op mem p) := by
  intro rest depth hr _
  rw [Phrase.tokens, List.cons_append,
    outcome_signed_some limit _ depth (sign?_eq_some.2 ⟨s, rfl, mem⟩)]
  refine .descend (by simp only [Phrase.levels]; omega) fun hd => ?_
  rw [Phrase.levels, ← Nat.add_assoc, Nat.add_right_comm]
  exact (h rest (depth + 1) hr hd).leave.map _

theorem settled_whole {p : Phrase .range} (h : Settled limit p) : Settled limit (.whole p) := by
  intro rest depth hr hd
  rw [outcome_percentage]
  exact (h rest depth hr hd).andThen _

theorem settled_percent {p : Phrase .percentage} (h : Settled limit p) :
    Settled limit (.percent p) := by
  intro rest depth _ hd
  have settles := h (.symbol .percent :: rest) depth (stops_symbol (by decide) _) hd
  rw [outcome_percents_percent] at settles
  have next := settles.trans fun _ => Settles.descend (Nat.le_refl (depth + p.links + 1))
    fun hd => .of_eq hd rfl
  have hlevels : depth + (Phrase.percent p).levels =
      max (depth + p.levels) (depth + p.links + 1) := by
    simp only [Phrase.levels]
    omega
  rw [hlevels, Phrase.tokens, List.append_assoc]
  exact next

theorem settled_single {p : Phrase .primary} (h : Settled limit p) : Settled limit (.single p) := by
  intro rest depth hr hd
  rw [outcome_range]
  have single := (h rest depth (hr.mono (by decide)) hd).andThen fun left rest d =>
    expect .colon rest (fun rest' => (primary limit rest' d).outcome.map left.joinRange)
      (.ok (left, rest, d))
  rw [expect_of_none (hr.after? (by decide))] at single
  exact single

theorem settled_colon {l r : Phrase .primary} (hl : Settled limit l) (hr : Settled limit r) :
    Settled limit (.colon l r) := by
  intro rest depth hrest hd
  have left := (hl (.symbol .colon :: (r.tokens ++ rest)) depth (stops_symbol (by decide) _)
    hd).andThen fun left rest d =>
      expect .colon rest (fun rest' => (primary limit rest' d).outcome.map left.joinRange)
        (.ok (left, rest, d))
  rw [expect_cons_self] at left
  have right := left.trans fun _ => (hr rest depth (hrest.mono (by decide)) hd).map l.tree.joinRange
  rw [outcome_range, Phrase.levels, ← Nat.add_max_add_left, Phrase.tokens, List.append_assoc]
  exact right

theorem settled_name (label : String) : Settled limit (.name label) := by
  intro rest depth hr hd
  refine .of_eq hd ?_
  rw [Phrase.tokens, List.singleton_append, outcome_primary_identifier,
    expect_of_none (hr.after? (by decide))]
  rfl

theorem settled_parens {p : Phrase .expression} (h : Settled limit p) :
    Settled limit (.parens p) := by
  intro rest depth _ hd
  have inner := (h (.symbol .rightParen :: rest) depth (stops_symbol (by decide) _)
    hd).andThen fun inner rest d => (close .rightParen inner rest d).outcome
  rw [outcome_close, expect_cons_self] at inner
  have tokens : (Phrase.parens p).tokens ++ rest =
      .symbol .leftParen :: (p.tokens ++ .symbol .rightParen :: rest) := by
    simp [Phrase.tokens]
  rw [tokens, outcome_primary_leftParen]
  exact inner

theorem settled_emptyArray : Settled limit .emptyArray := by
  intro rest depth _ hd
  refine .of_eq hd ?_
  rw [Phrase.tokens, List.cons_append, outcome_primary_leftBrace, outcome_array,
    List.singleton_append, expect_cons_self]
  rfl

theorem settled_array {p : Phrase .rows} (h : Settled limit p) : Settled limit (.array p) := by
  intro rest depth _ hd
  have rows := (h rest depth hd).map Expr.array
  have tokens : (Phrase.array p).tokens ++ rest =
      .symbol .leftBrace :: (p.tokens ++ .symbol .rightBrace :: rest) := by
    simp [Phrase.tokens]
  rw [tokens, outcome_primary_leftBrace, outcome_array,
    expect_of_none (p.after?_tokens (s := .rightBrace) rfl _)]
  exact rows

theorem settled_emptyCall (label : String) : Settled limit (.emptyCall label) := by
  intro rest depth _ hd
  refine .of_eq hd ?_
  rw [Phrase.tokens, List.cons_append, outcome_primary_identifier, List.cons_append,
    expect_cons_self, outcome_call, List.singleton_append, expect_cons_self]
  rfl

theorem settled_call (label : String) {p : Phrase .arguments} (h : Settled limit p) :
    Settled limit (.call label p) := by
  intro rest depth _ hd
  have args := (h rest depth hd).map (Expr.call (Text.upper label))
  have tokens : (Phrase.call label p).tokens ++ rest =
      .identifier label :: .symbol .leftParen :: (p.tokens ++ .symbol .rightParen :: rest) := by
    simp [Phrase.tokens]
  rw [tokens, outcome_primary_identifier, expect_cons_self, outcome_call,
    expect_of_none (p.after?_tokens (s := .rightParen) rfl _)]
  exact args

theorem settled_lastArgument {p : Phrase .expression} (h : Settled limit p) :
    Settled limit (.lastArgument p) := by
  intro rest depth hd
  have arg := (h (.symbol .rightParen :: rest) depth (stops_symbol (by decide) _)
    hd).andThen fun arg rest d => expect .comma rest
      (fun rest' => (arguments limit rest' d).outcome.map (arg :: ·))
      (close .rightParen [arg] rest d).outcome
  rw [expect_of_none rfl, outcome_close, expect_cons_self] at arg
  rw [outcome_arguments]
  exact arg

theorem settled_argument {p : Phrase .expression} {ps : Phrase .arguments} (h : Settled limit p)
    (hs : Settled limit ps) : Settled limit (.argument p ps) := by
  intro rest depth hd
  have arg := (h (.symbol .comma :: (ps.tokens ++ .symbol .rightParen :: rest)) depth
    (stops_symbol (by decide) _) hd).andThen fun arg rest d => expect .comma rest
      (fun rest' => (arguments limit rest' d).outcome.map (arg :: ·))
      (close .rightParen [arg] rest d).outcome
  rw [expect_cons_self] at arg
  have args := arg.trans fun _ => (hs rest depth hd).map (p.tree :: ·)
  rw [outcome_arguments, Phrase.levels, ← Nat.add_max_add_left, Phrase.tokens, List.append_assoc]
  exact args

/-- A cell with what may come after it. -/
theorem settled_cell_of {p : Phrase .expression} (h : Settled limit p) {depth : Nat}
    (hd : depth ≤ limit) {ts : List Token} (hs : Stops 8 ts) :
    Settles limit (depth + p.levels) (rows limit (p.tokens ++ ts) depth).outcome
      (expect .comma ts (fun rest' => (rows limit rest' depth).outcome.map (consCell p.tree))
        (expect .semicolon ts (fun rest' => (rows limit rest' depth).outcome.map ([p.tree] :: ·))
          (expect .rightBrace ts (fun rest' => .ok ([[p.tree]], rest', depth))
            (.error (.parse .expectedArraySeparator, depth))))) := by
  rw [outcome_rows]
  exact (h ts depth hs hd).andThen _

theorem settled_lastCell {p : Phrase .expression} (h : Settled limit p) :
    Settled limit (.lastCell p) := by
  intro depth hd
  refine ⟨fun rest => ?_, fun n ts vs rest hn => ?_⟩
  · have cell := settled_cell_of h hd (stops_symbol (s := .rightBrace) (by decide) rest)
    rw [expect_of_none rfl, expect_of_none rfl, expect_cons_self] at cell
    exact cell
  · have cell := settled_cell_of h hd (stops_symbol (s := .semicolon) (by decide) ts)
    rw [expect_of_none rfl, expect_cons_self] at cell
    exact cell.trans fun _ => hn.map _

theorem settled_cell {p : Phrase .expression} {ps : Phrase .row} (h : Settled limit p)
    (hs : Settled limit ps) : Settled limit (.cell p ps) := by
  intro depth hd
  have hlevels :
      depth + (Phrase.cell p ps).levels = max (depth + p.levels) (depth + ps.levels) := by
    rw [Phrase.levels, ← Nat.add_max_add_left]
  refine ⟨fun rest => ?_, fun n ts vs rest hn => ?_⟩
  · have cell := settled_cell_of h hd
      (stops_symbol (s := .comma) (by decide) (ps.tokens ++ .symbol .rightBrace :: rest))
    rw [expect_cons_self] at cell
    rw [hlevels, Phrase.tokens, List.append_assoc]
    exact cell.trans fun _ => ((hs depth hd).1 rest).map _
  · have cell := settled_cell_of h hd
      (stops_symbol (s := .comma) (by decide) (ps.tokens ++ .symbol .semicolon :: ts))
    rw [expect_cons_self] at cell
    rw [hlevels, Nat.max_assoc, Phrase.tokens, List.append_assoc]
    exact cell.trans fun _ => ((hs depth hd).2 n ts vs rest hn).map _

theorem settled_lastRow {p : Phrase .row} (h : Settled limit p) : Settled limit (.lastRow p) :=
  fun rest depth hd => (h depth hd).1 rest

theorem settled_row {p : Phrase .row} {ps : Phrase .rows} (h : Settled limit p)
    (hs : Settled limit ps) : Settled limit (.row p ps) := by
  intro rest depth hd
  rw [Phrase.levels, ← Nat.add_max_add_left, Phrase.tokens, List.append_assoc]
  exact (h depth hd).2 _ _ _ _ (hs rest depth hd)

end

/-- A phrase is read as its tree if its levels fit under the limit, and fails for depth if not. -/
theorem settled (limit : Nat) {c : Stratum} (p : Phrase c) : Settled limit p := by
  induction p with
  | expression _ h => exact settled_expression h
  | first _ h => exact settled_first h
  | binary _ _ _ mem _ hl hr => exact settled_binary mem hl hr
  | concat _ h => exact settled_concat h
  | sum _ h => exact settled_sum h
  | product _ h => exact settled_product h
  | factor _ h => exact settled_factor h
  | base _ h => exact settled_base h
  | power _ _ hl hr => exact settled_power hl hr
  | unsigned _ h => exact settled_unsigned h
  | sign _ _ mem _ h => exact settled_sign mem h
  | whole _ h => exact settled_whole h
  | percent _ h => exact settled_percent h
  | single _ h => exact settled_single h
  | colon _ _ hl hr => exact settled_colon hl hr
  | number | string | error | reference =>
    intro rest depth _ hd
    exact .of_eq hd (by rw [Phrase.tokens, List.singleton_append, primary]; rfl)
  | name label => exact settled_name label
  | parens _ h => exact settled_parens h
  | emptyArray => exact settled_emptyArray
  | array _ h => exact settled_array h
  | emptyCall label => exact settled_emptyCall label
  | call label _ h => exact settled_call label h
  | lastArgument _ h => exact settled_lastArgument h
  | argument _ _ h hs => exact settled_argument h hs
  | lastCell _ h => exact settled_lastCell h
  | cell _ _ h hs => exact settled_cell h hs
  | lastRow _ h => exact settled_lastRow h
  | row _ _ h hs => exact settled_row h hs

end SheetFormula.Grammar
