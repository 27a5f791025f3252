import Mathlib
import SheetFormula.Proofs.Grammar.Threshold
import SheetFormula.Proofs.Machine

/-!
# The bookkeeping of the parser

Every procedure of the machine stops. After a success the count of levels is where it was and the
position is greater; after a failure the count is nowhere lower than it was. On the way the count
never leaves the numbers from zero to one above the limit (`Procedure.run_bookkeeping`). The machine
gives what the parser gives (`Machine.parse_eq`).

The procedures go back to the count in three ways: one decrement after success and failure alike, a
count taken before a loop and put back where the loop ends well, and not at all where a level was
too deep. So what holds after a success and what holds after a failure need each other. `Tracks`
says both, and that the parser gives the same; it is kept by the steps that the procedures consist
of (`Tracks.andThen`, `Tracks.leave`, `Tracks.descend` and others), and so holds of all procedures
together (`tracksBelow`), by induction on the number of tokens.
-/

namespace SheetFormula.Expr.Machine

open Expr.Parser (Level sign? Outcome after? after?_eq_some consCell)
open Expr.Parser.Outcome

variable {limit : Nat} {tokens ts rest : List Token} {t : Token} {depth : Nat} {s : State}

/-! ## Steps -/

/-- The machine is in front of the tokens `ts` with the count at `depth`, and the count has always
been between zero and one above the limit. -/
structure State.At (limit : Nat) (tokens ts : List Token) (depth : Nat) (s : State) : Prop where
  rest : tokens.drop s.position = ts
  count : s.count = depth
  bounded : ∀ c ∈ s.counts, 0 ≤ c ∧ c ≤ limit + 1

namespace State.At

theorem start (tokens : List Token) (position : Nat) (le : depth ≤ limit) :
    (State.start position depth).At limit tokens (tokens.drop position) depth where
  rest := rfl
  count := rfl
  bounded := by
    intro c hc
    obtain rfl := List.mem_singleton.1 hc
    simp only [State.start]
    omega

theorem length (h : s.At limit tokens ts depth) : ts.length = tokens.length - s.position := by
  rw [← h.rest, List.length_drop]

theorem length_lt {s' : State} {depth' : Nat} (h : s.At limit tokens ts depth)
    (h' : s'.At limit tokens rest depth') (further : s.position < s'.position)
    (within : s'.position ≤ tokens.length) : rest.length < ts.length := by
  rw [h.length, h'.length]
  omega

theorem depth_le (h : s.At limit tokens ts depth) : depth ≤ limit + 1 := by
  have top := (h.bounded s.count (List.mem_cons_self ..)).2
  rw [h.count] at top
  omega

theorem current (h : s.At limit tokens ts depth) : s.current tokens = ts.head? := by
  rw [← h.rest, List.head?_drop]
  rfl

theorem withCount {depth' : Nat} (h : s.At limit tokens ts depth) (le : depth' ≤ limit + 1) :
    (s.withCount depth').At limit tokens ts depth' where
  rest := h.rest
  count := rfl
  bounded := by
    intro c hc
    rcases List.mem_cons.1 hc with rfl | hc
    · simp only [State.withCount]
      omega
    · exact h.bounded c hc

theorem ascend (h : s.At limit tokens ts (depth + 1)) : s.ascend.At limit tokens ts depth := by
  have back := h.withCount (Nat.le_of_lt h.depth_le)
  rwa [State.ascend, h.count, Int.natCast_succ, Int.add_sub_cancel]

/-- A level deeper the count is one more, also where that is too deep. -/
theorem descend (h : s.At limit tokens ts depth) (le : depth ≤ limit) :
    ∃ s', s'.At limit tokens ts (depth + 1) ∧ s'.position = s.position ∧
      s.descend limit = (if limit < depth + 1 then .error (.tooDeep limit) else .ok (), s') := by
  refine ⟨s.withCount (depth + 1 : Nat), h.withCount (Nat.succ_le_succ le), rfl, ?_⟩
  have deeper : s.count + 1 = (depth + 1 : Nat) := by rw [h.count, Int.natCast_succ]
  simp only [State.descend, deeper, State.withCount, Int.ofNat_lt]
  split <;> rfl

/-- Past the next token the machine is in front of the others. -/
theorem consume (h : s.At limit tokens (t :: rest) depth) :
    ∃ s', s.consume tokens = (some t, s') ∧ s'.At limit tokens rest depth ∧
      s'.position = s.position + 1 ∧ s'.position ≤ tokens.length := by
  have length := h.length
  rw [List.length_cons] at length
  have others := congrArg List.tail h.rest
  rw [List.tail_drop, List.tail_cons] at others
  refine ⟨{ s with position := s.position + 1 }, ?_, ⟨others, h.count, h.bounded⟩, rfl, ?_⟩
  · rw [State.consume, h.current, List.head?_cons]
  · simp only
    omega

theorem check_eq_true {sym : Symbol} (h : s.At limit tokens (.symbol sym :: rest) depth) :
    s.check tokens sym = true := by
  rw [State.check, h.current, List.head?_cons, decide_eq_true_eq]

theorem check_eq_false {sym : Symbol} (h : s.At limit tokens ts depth)
    (none : after? sym ts = none) : s.check tokens sym = false := by
  rw [State.check, h.current, decide_eq_false_iff_not]
  intro first
  obtain ⟨rest, rfl⟩ := List.head?_eq_some_iff.1 first
  simp [after?] at none

end State.At

/-! ## Answers and outcomes -/

/-- An answer of the machine tracks an outcome of the parser: both are a success with the count back
at `base` and the position between `low` and the number of tokens, or the same failure, with the
count at `base` or above. -/
inductive Tracks (limit : Nat) (tokens : List Token) (base low : Nat) :
    Option Answer → Outcome Expr → Prop where
  | ok {e : Expr} {rest : List Token} {s : State} (stops : s.At limit tokens rest base)
      (reached : low ≤ s.position) (within : s.position ≤ tokens.length) :
      Tracks limit tokens base low (some (.ok e, s)) (.ok (e, rest, base))
  | error {failure : Failure} {rest : List Token} {depth : Nat} {s : State}
      (stops : s.At limit tokens rest depth) (le : base ≤ depth) :
      Tracks limit tokens base low (some (.error failure, s)) (.error (failure, depth))

namespace Tracks

variable {base base' low low' : Nat} {x : Option Answer} {o : Outcome Expr}
  {k : Answer → Option Answer} {f : Expr → Expr}

theorem exists_answer (h : Tracks limit tokens base low x o) :
    ∃ reply s, x = some (reply, s) ∧ o = Answer.outcome tokens (reply, s) ∧
      (∀ e, reply = .ok e → s.count = base ∧ low ≤ s.position ∧ s.position ≤ tokens.length) ∧
      (∀ failure, reply = .error failure → base ≤ s.count) ∧
      ∀ c ∈ s.counts, 0 ≤ c ∧ c ≤ limit + 1 := by
  cases h with
  | @ok e _ s stops reached within =>
    refine ⟨.ok e, s, rfl, ?_, fun _ _ => ⟨stops.count, reached, within⟩, ?_, stops.bounded⟩
    · rw [Answer.outcome, stops.rest, stops.count, Int.toNat_natCast]
    · rintro _ ⟨⟩
  | @error failure _ _ s stops le =>
    refine ⟨.error failure, s, rfl, ?_, ?_, fun _ _ => ?_, stops.bounded⟩
    · rw [Answer.outcome, stops.count, Int.toNat_natCast]
    · rintro _ ⟨⟩
    · rw [stops.count]
      omega

theorem mono (h : Tracks limit tokens base low x o) (le : low' ≤ low) :
    Tracks limit tokens base low' x o := by
  cases h with
  | ok stops reached within => exact .ok stops (Nat.le_trans le reached) within
  | error stops le => exact .error stops le

/-- What comes after a success; a failure is handed on as it is. -/
theorem andThen {g : Expr → List Token → Nat → Outcome Expr}
    (h : Tracks limit tokens base low x o) (le : base' ≤ base)
    (failed : ∀ failure s, k (.error failure, s) = some (.error failure, s))
    (next : ∀ e rest s, s.At limit tokens rest base → low ≤ s.position →
      s.position ≤ tokens.length → Tracks limit tokens base' low' (k (.ok e, s)) (g e rest base)) :
    Tracks limit tokens base' low' (x.bind k) (o.andThen g) := by
  cases h with
  | ok stops reached within => exact next _ _ _ stops reached within
  | error stops le' =>
    rw [Option.bind_some, failed]
    exact .error stops (Nat.le_trans le le')

theorem map (h : Tracks limit tokens base low x o)
    (all : ∀ r s, k (r, s) = some (r.map f, s)) :
    Tracks limit tokens base low (x.bind k) (o.map f) := by
  cases h with
  | ok stops reached within =>
    rw [Option.bind_some, all]
    exact .ok stops reached within
  | error stops le =>
    rw [Option.bind_some, all]
    exact .error stops le

/-- The count goes back a level after a success and after a failure. -/
theorem leave (h : Tracks limit tokens (base + 1) low x o)
    (ok : ∀ e s, k (.ok e, s) = some (.ok (f e), s.ascend))
    (error : ∀ failure s, k (.error failure, s) = some (.error failure, s.ascend)) :
    Tracks limit tokens base low (x.bind k) (o.leave.map f) := by
  cases h with
  | ok stops reached within =>
    rw [Option.bind_some, ok]
    exact .ok stops.ascend reached within
  | @error _ _ depth _ stops le =>
    rw [Option.bind_some, error]
    -- the failure left the count above `base`, so there is a level to go back
    obtain ⟨d, rfl⟩ := Nat.exists_eq_succ_of_ne_zero (show depth ≠ 0 by omega)
    exact .error stops.ascend (Nat.le_of_succ_le_succ le)

/-- What comes after a level deeper. -/
theorem descend (h : s.At limit tokens ts depth) (le : depth ≤ limit) (hb : base ≤ depth + 1)
    (failed : ∀ s', s.descend limit = (.error (.tooDeep limit), s') →
      x = some (.error (.tooDeep limit), s'))
    (next : ∀ s', s.descend limit = (.ok (), s') → depth < limit →
      s'.At limit tokens ts (depth + 1) → s'.position = s.position →
      Tracks limit tokens base low x o) :
    Tracks limit tokens base low x (Outcome.descend limit depth o) := by
  obtain ⟨s', stops, same, run⟩ := h.descend le
  rw [Outcome.descend]
  split
  · rw [failed s' (by rw [run, if_pos ‹_›])]
    exact .error stops hb
  · exact next s' (by rw [run, if_neg ‹_›]) (by omega) stops same

/-- What comes after looking for a symbol. -/
theorem check {sym : Symbol} {o' : List Token → Outcome Expr} (h : s.At limit tokens ts depth)
    (present : ∀ rest s', ts = .symbol sym :: rest → s.check tokens sym = true →
      (s.consume tokens).2 = s' → s'.At limit tokens rest depth →
      s'.position = s.position + 1 → s'.position ≤ tokens.length →
      Tracks limit tokens base low x (o' rest))
    (absent : s.check tokens sym = false → Tracks limit tokens base low x o) :
    Tracks limit tokens base low x (Outcome.expect sym ts o' o) := by
  cases first : after? sym ts with
  | none =>
    rw [expect_of_none first]
    exact absent (h.check_eq_false first)
  | some rest =>
    obtain rfl := after?_eq_some.1 first
    obtain ⟨s', run, stops, further, within⟩ := h.consume
    rw [expect_cons_self]
    exact present rest s' rfl h.check_eq_true (by rw [run]) stops further within

/-- What comes after a symbol that has to be there. -/
theorem expect {sym : Symbol} {o' : List Token → Outcome Expr} (h : s.At limit tokens ts depth)
    (hb : base ≤ depth)
    (failed : ∀ failure, s.expect tokens sym = (.error failure, s) → x = some (.error failure, s))
    (next : ∀ rest s', s.expect tokens sym = (.ok (), s') → s'.At limit tokens rest depth →
      s'.position = s.position + 1 → s'.position ≤ tokens.length →
      Tracks limit tokens base low x (o' rest)) :
    Tracks limit tokens base low x
      (Outcome.expect sym ts o' (.error (.parse (.expected sym ts.head?), depth))) := by
  refine .check h (fun rest s' _ first run => ?_) fun first => ?_
  · exact next rest s' (by rw [State.expect, if_pos first, run])
  · rw [failed _ (by rw [State.expect, first, if_neg Bool.false_ne_true]), h.current]
    exact .error h hb

end Tracks

/-! ## The procedures

Each procedure tracks the parser if the tighter ones do on the same tokens and all of them do on
fewer tokens. -/

/-- From any state in front of the tokens `ts` with a count within the limit, a procedure of the
machine tracks the parser, and after a success the position is greater than it was. -/
def TracksFrom (limit : Nat) (tokens ts : List Token) (p : Procedure) : Prop :=
  ∀ ⦃s depth⦄, s.At limit tokens ts depth → depth ≤ limit →
    Tracks limit tokens depth (s.position + 1) (p.run limit tokens s) (p.outcome limit ts depth)

/-- The procedures track the parser on any list of fewer than `n` tokens. -/
def TracksBelow (limit : Nat) (tokens : List Token) (n : Nat) : Prop :=
  ∀ ⦃ts⦄, ts.length < n → ∀ p, TracksFrom limit tokens ts p

theorem tracks_range (below : TracksBelow limit tokens ts.length)
    (first : TracksFrom limit tokens ts .primary) : TracksFrom limit tokens ts .range := by
  intro s depth h le
  show Tracks limit tokens depth (s.position + 1) (s.range limit tokens)
    (Parser.range limit ts depth).outcome
  rw [State.range, Parser.outcome_range]
  refine (first h le).andThen (Nat.le_refl _) (fun _ _ => rfl) ?_
  intro left rest s' stops further within
  refine .check stops (fun rest' s'' _ colon run stops' further' within' => ?_) fun noColon => ?_
  · have shorter := h.length_lt stops' (by omega) within'
    simp only [colon, if_pos, run]
    exact ((below shorter .primary stops' le).map fun _ _ => rfl).mono (by omega)
  · simp only [noColon]
    exact .ok stops further within

section Loops

variable {base : Nat}

theorem tracks_percents (operand : Expr) (h : s.At limit tokens ts depth) (le : depth ≤ limit)
    (hb : base ≤ depth) (within : s.position ≤ tokens.length) :
    Tracks limit tokens base s.position (s.percents limit tokens base operand)
      (Parser.percents limit base operand ts depth).outcome := by
  induction ts generalizing operand s depth with
  | nil =>
    rw [State.percents, h.check_eq_false rfl, if_neg Bool.false_ne_true]
    exact .ok (h.withCount (by omega)) (Nat.le_refl _) within
  | cons t ts ih =>
    rw [State.percents]
    by_cases ht : t = .symbol .percent
    · subst ht
      obtain ⟨s', run, stops, further, within⟩ := h.consume
      rw [h.check_eq_true, if_pos rfl, run, Parser.outcome_percents_percent]
      refine .descend stops le (by omega) (fun s'' run => by rw [run]) ?_
      intro s'' run deeper stops same
      rw [run]
      exact (ih _ stops deeper (by omega) (by omega)).mono (by omega)
    · have none : after? .percent (t :: ts) = none := by
        cases first : after? .percent (t :: ts) with
        | none => rfl
        | some rest => exact absurd (List.cons.inj (after?_eq_some.1 first)).1 ht
      rw [h.check_eq_false none, if_neg Bool.false_ne_true,
        Parser.outcome_percents_none limit base operand depth (by simpa using ht)]
      exact .ok (h.withCount (by omega)) (Nat.le_refl _) within

theorem tracks_signed (below : TracksBelow limit tokens ts.length)
    (first : TracksFrom limit tokens ts .range) : TracksFrom limit tokens ts .signed := by
  intro s depth h le
  show Tracks limit tokens depth (s.position + 1) (s.signed limit tokens)
    (Parser.signed limit ts depth).outcome
  rw [State.signed, h.current]
  cases hs : ts.head?.bind sign? with
  | none =>
    rw [Parser.outcome_signed_none limit depth (by simpa using hs), Parser.outcome_percentage]
    refine (first h le).andThen (Nat.le_refl _) (fun _ _ => rfl) ?_
    intro operand rest s' stops further within
    simp only [stops.count]
    exact (tracks_percents operand stops le (Nat.le_refl _) within).mono further
  | some op =>
    obtain ⟨t, ht, hop⟩ := Option.bind_eq_some_iff.1 hs
    obtain ⟨ts, rfl⟩ := List.head?_eq_some_iff.1 ht
    obtain ⟨s', run, stops, further, within⟩ := h.consume
    rw [Parser.outcome_signed_some limit ts depth hop]
    simp only [run]
    refine .descend stops le (by omega) (fun s'' run => by rw [run]) ?_
    intro s'' run deeper stops same
    rw [run]
    exact ((below (Nat.lt_succ_self _) .signed stops deeper).leave (fun _ _ => rfl)
      fun _ _ => rfl).mono (by omega)

theorem tracks_power (below : TracksBelow limit tokens ts.length)
    (first : TracksFrom limit tokens ts .signed) : TracksFrom limit tokens ts .power := by
  intro s depth h le
  show Tracks limit tokens depth (s.position + 1) (s.power limit tokens)
    (Parser.power limit ts depth).outcome
  rw [State.power, Parser.outcome_power]
  refine (first h le).andThen (Nat.le_refl _) (fun _ _ => rfl) ?_
  intro left rest s' stops further within
  refine .check stops (fun rest' s'' _ caret run stops' further' within' => ?_) fun noCaret => ?_
  · have shorter := h.length_lt stops' (by omega) within'
    simp only [caret, if_pos, run]
    refine .descend stops' le (by omega) (fun s₃ run => by rw [run]) ?_
    intro s₃ run deeper stops'' same
    rw [run]
    exact ((below shorter .power stops'' deeper).leave (fun _ _ => rfl) fun _ _ => rfl).mono
      (by omega)
  · simp only [noCaret]
    exact .ok stops further within

/-- The procedure for the operands of a level. -/
def operandOf : Level → Procedure
  | .comparison => .chain .concat
  | .concat => .chain .sum
  | .sum => .chain .product
  | .product => .power

theorem tracks_operand {level : Level} (first : TracksFrom limit tokens ts (operandOf level))
    (h : s.At limit tokens ts depth) (le : depth ≤ limit) :
    Tracks limit tokens depth (s.position + 1) (s.operand limit tokens level)
      (Parser.operand limit level ts depth).outcome := by
  cases level with
  | comparison | concat | sum | product =>
    rw [State.operand, Parser.operand]
    exact first h le

theorem tracks_chainRest {n : Nat} (below : TracksBelow limit tokens n) (level : Level)
    (left : Expr) (short : ts.length ≤ n) (h : s.At limit tokens ts depth) (le : depth ≤ limit)
    (hb : base ≤ depth) (within : s.position ≤ tokens.length) :
    Tracks limit tokens base s.position (s.chainRest limit tokens level base left)
      (Parser.chainRest limit level base left ts depth).outcome := by
  obtain ⟨m, hn⟩ : ∃ m, ts.length = m := ⟨_, rfl⟩
  induction m using Nat.strongRecOn generalizing ts s depth left with
  | ind m ih =>
    rw [State.chainRest, h.current]
    cases ho : ts.head?.bind level.operator? with
    | none =>
      rw [Parser.outcome_chainRest_none limit base left depth (by simpa using ho)]
      exact .ok (h.withCount (by omega)) (Nat.le_refl _) within
    | some op =>
      obtain ⟨t, ht, hop⟩ := Option.bind_eq_some_iff.1 ho
      obtain ⟨ts, rfl⟩ := List.head?_eq_some_iff.1 ht
      obtain ⟨s', run, stops, further, within⟩ := h.consume
      rw [Parser.outcome_chainRest_some limit base left ts depth hop]
      simp only [run]
      refine .descend stops le (by omega) (fun s'' run => by rw [run]) ?_
      intro s'' run deeper stops' same
      rw [run]
      have right := tracks_operand (below short (operandOf level)) stops' deeper
      refine right.andThen (by omega) (fun _ _ => rfl) ?_
      intro right rest s₃ stops'' further' within'
      have shorter := h.length_lt stops'' (by omega) within'
      have next := ih rest.length (by omega) (.binary op left right) (by omega) stops'' deeper
        (by omega) within' rfl
      exact next.mono (by omega)

theorem tracks_chain (level : Level) (below : TracksBelow limit tokens ts.length)
    (first : TracksFrom limit tokens ts (operandOf level)) :
    TracksFrom limit tokens ts (.chain level) := by
  intro s depth h le
  show Tracks limit tokens depth (s.position + 1) (s.chain limit tokens level)
    (Parser.chain limit level ts depth).outcome
  rw [State.chain, Parser.outcome_chain]
  refine (tracks_operand first h le).andThen (Nat.le_refl _) (fun _ _ => rfl) ?_
  intro left rest s' stops further within
  have shorter := h.length_lt stops further within
  simp only [stops.count]
  exact (tracks_chainRest below level left (Nat.le_of_lt shorter) stops le (Nat.le_refl _)
    within).mono further

end Loops

theorem tracks_expression (first : TracksFrom limit tokens ts (.chain .comparison)) :
    TracksFrom limit tokens ts .expression := by
  intro s depth h le
  show Tracks limit tokens depth (s.position + 1) (s.expression limit tokens)
    (Parser.expression limit ts depth).outcome
  rw [State.expression, Parser.outcome_expression]
  refine .descend h le (by omega) (fun s' run => by rw [run]) ?_
  intro s' run deeper stops same
  rw [run, ← map_id (Outcome.leave _)]
  exact same ▸ (first stops deeper).leave (fun _ _ => rfl) fun _ _ => rfl

/-! ## Calls and arrays

The parser puts an argument or a cell in front of what the rest gives, the machine hands on what it
has so far. `argumentsAfter` and `rowsAfter` are where the two meet, after one argument or cell. -/

/-- What the parser gives after an argument. -/
def argumentsAfter (limit : Nat) (arg : Expr) (ts : List Token) (depth : Nat) :
    Outcome (List Expr) :=
  .expect .comma ts (fun rest => (Parser.arguments limit rest depth).outcome.map (arg :: ·))
    (Parser.close .rightParen [arg] ts depth).outcome

theorem outcome_arguments_eq (limit : Nat) (ts : List Token) (depth : Nat) :
    (Parser.arguments limit ts depth).outcome =
      (Parser.expression limit ts depth).outcome.andThen (argumentsAfter limit) :=
  Parser.outcome_arguments limit ts depth

/-- What the parser gives after a cell of an array. -/
def rowsAfter (limit : Nat) (cell : Expr) (ts : List Token) (depth : Nat) :
    Outcome (List (List Expr)) :=
  .expect .comma ts (fun rest => (Parser.rows limit rest depth).outcome.map (consCell cell))
    (.expect .semicolon ts (fun rest => (Parser.rows limit rest depth).outcome.map ([cell] :: ·))
      (.expect .rightBrace ts (fun rest => .ok ([[cell]], rest, depth))
        (.error (.parse .expectedArraySeparator, depth))))

theorem outcome_rows_eq (limit : Nat) (ts : List Token) (depth : Nat) :
    (Parser.rows limit ts depth).outcome =
      (Parser.expression limit ts depth).outcome.andThen (rowsAfter limit) :=
  Parser.outcome_rows limit ts depth

/-- Cells in front of the first of some rows. -/
theorem foldr_consCell (row first : List Expr) (more : List (List Expr)) :
    row.foldr consCell (first :: more) = (row ++ first) :: more := by
  induction row with
  | nil => rfl
  | cons cell row ih => rw [List.foldr_cons, ih, consCell, List.cons_append]

/-- What comes after a separator: an expression, and then what follows it. -/
theorem tracks_separated {n : Nat} {s' : State} {k : Answer → Option Answer}
    {g : Expr → List Token → Nat → Outcome Expr} (below : TracksBelow limit tokens n)
    (short : ts.length ≤ n) (h : s.At limit tokens ts depth) (le : depth ≤ limit)
    (stops : s'.At limit tokens rest depth) (further : s'.position = s.position + 1)
    (within : s'.position ≤ tokens.length)
    (failed : ∀ failure s, k (.error failure, s) = some (.error failure, s))
    (next : ∀ e rest' s'', rest'.length < ts.length → s''.At limit tokens rest' depth →
      Tracks limit tokens depth (s''.position + 1) (k (.ok e, s'')) (g e rest' depth)) :
    Tracks limit tokens depth (s.position + 1) ((s'.expression limit tokens).bind k)
      ((Parser.expression limit rest depth).outcome.andThen g) := by
  have shorter := h.length_lt stops (by omega) within
  refine (below (by omega) .expression stops le).andThen (Nat.le_refl _) failed ?_
  intro e rest' s'' stops' further' within'
  have shorter' := h.length_lt stops' (by omega) within'
  exact (next e rest' s'' shorter' stops').mono (by omega)

theorem tracks_endCall {f : List Expr → Expr} (label : String) (args args' : List Expr)
    (h : s.At limit tokens ts depth) (same : f args' = .call (Text.upper label) args) :
    Tracks limit tokens depth (s.position + 1) (some (s.endCall tokens label args))
      ((Parser.close .rightParen args' ts depth).outcome.map f) := by
  rw [Parser.outcome_close, map_expect, State.endCall]
  refine .expect h (Nat.le_refl _) (fun failure run => by rw [run]) ?_
  intro rest s' run stops further within
  rw [run, map_ok, same]
  exact .ok stops (Nat.le_of_eq further.symm) within

theorem tracks_callRest {n : Nat} (below : TracksBelow limit tokens n) (label : String)
    (args : List Expr) (arg : Expr) (short : ts.length ≤ n) (h : s.At limit tokens ts depth)
    (le : depth ≤ limit) :
    Tracks limit tokens depth (s.position + 1) (s.callRest limit tokens label (args ++ [arg]))
      ((argumentsAfter limit arg ts depth).map fun more =>
        .call (Text.upper label) (args ++ more)) := by
  obtain ⟨m, hn⟩ : ∃ m, ts.length = m := ⟨_, rfl⟩
  induction m using Nat.strongRecOn generalizing ts s args arg with
  | ind m ih =>
    rw [State.callRest, argumentsAfter, map_expect]
    refine .check h (fun rest s' _ comma run stops further within => ?_) fun noComma => ?_
    · simp only [comma, if_pos, run]
      rw [map_map, outcome_arguments_eq, map_andThen]
      refine tracks_separated below short h le stops further within (fun _ _ => rfl) ?_
      intro arg' rest' s'' shorter stops'
      have next := ih rest'.length (by omega) (args ++ [arg]) arg' (by omega) stops' rfl
      simp only [List.append_assoc, List.singleton_append] at next ⊢
      exact next
    · rw [noComma, if_neg Bool.false_ne_true]
      exact tracks_endCall label (args ++ [arg]) [arg] h rfl

theorem tracks_call (below : TracksBelow limit tokens ts.length) (label : String) :
    TracksFrom limit tokens ts (.call label) := by
  intro s depth h le
  show Tracks limit tokens depth (s.position + 1) (s.call limit tokens label)
    ((Procedure.call label).outcome limit ts depth)
  rw [State.call, Procedure.outcome]
  refine .expect h (Nat.le_refl _) (fun failure run => by rw [run]) ?_
  intro rest s' run stops further within
  have shorter := h.length_lt stops (by omega) within
  rw [run, Parser.outcome_call, map_expect]
  refine .check stops (fun rest' s'' closes paren _ _ _ _ => ?_) fun noParen => ?_
  · subst closes
    have closed := tracks_endCall label [] [] stops rfl
    rw [Parser.outcome_close, map_expect, expect_cons_self] at closed
    simp only [paren, if_pos]
    exact closed.mono (by omega)
  · simp only [noParen]
    rw [outcome_arguments_eq, map_andThen]
    refine (below shorter .expression stops le).andThen (Nat.le_refl _) (fun _ _ => rfl) ?_
    intro arg rest' s'' stops' further' within'
    have shorter' := h.length_lt stops' (by omega) within'
    exact (tracks_callRest below label [] arg (Nat.le_of_lt shorter') stops' le).mono (by omega)

theorem tracks_endArray {rows : List (List Expr)} {row : List Expr} {e : Expr}
    (h : s.At limit tokens (.symbol .rightBrace :: rest) depth)
    (same : e = .array (if row.isEmpty then rows else rows ++ [row])) :
    Tracks limit tokens depth (s.position + 1) (some (s.endArray tokens rows row))
      (.ok (e, rest, depth)) := by
  obtain ⟨s', run, stops, further, within⟩ := h.consume
  rw [State.endArray, State.expect, h.check_eq_true, if_pos rfl, run, same]
  exact .ok stops (Nat.le_of_eq further.symm) within

theorem tracks_arrayRest {n : Nat} (below : TracksBelow limit tokens n)
    (rows : List (List Expr)) (row : List Expr) (cell : Expr) (short : ts.length ≤ n)
    (h : s.At limit tokens ts depth) (le : depth ≤ limit) :
    Tracks limit tokens depth (s.position + 1) (s.arrayRest limit tokens rows (row ++ [cell]))
      ((rowsAfter limit cell ts depth).map fun more =>
        .array (rows ++ row.foldr consCell more)) := by
  obtain ⟨m, hn⟩ : ∃ m, ts.length = m := ⟨_, rfl⟩
  induction m using Nat.strongRecOn generalizing ts s rows row cell with
  | ind m ih =>
    rw [State.arrayRest, h.current, rowsAfter, map_expect, map_expect, map_expect]
    refine .check h (fun rest s' first _ run stops further within => ?_) fun noComma => ?_
    · subst first
      simp only [List.head?_cons, run]
      rw [map_map, outcome_rows_eq, map_andThen]
      refine tracks_separated below short h le stops further within (fun _ _ => rfl) ?_
      intro cell' rest' s'' shorter stops'
      have next := ih rest'.length (by omega) rows (row ++ [cell]) cell' (by omega) stops' rfl
      simp only [List.foldr_append] at next
      exact next
    refine .check h (fun rest s' first _ run stops further within => ?_) fun noSemicolon => ?_
    · subst first
      simp only [List.head?_cons, run]
      rw [map_map, outcome_rows_eq, map_andThen]
      refine tracks_separated below short h le stops further within (fun _ _ => rfl) ?_
      intro cell' rest' s'' shorter stops'
      have next := ih rest'.length (by omega) (rows ++ [row ++ [cell]]) [] cell' (by omega) stops'
        rfl
      simp only [List.foldr_nil, List.append_assoc, List.singleton_append] at next
      simp only [Function.comp_def, foldr_consCell]
      exact next
    -- only here, in front of a closing brace, does the machine look for one
    refine .check h (fun rest s' first _ _ _ _ _ => ?_) fun noBrace => ?_
    · subst first
      simp only [List.head?_cons]
      exact tracks_endArray h (by simp [foldr_consCell])
    · simp only [State.check, h.current, decide_eq_false_iff_not] at noComma noSemicolon noBrace
      split
      · exact absurd ‹_› noComma
      · exact absurd ‹_› noSemicolon
      · exact absurd ‹_› noBrace
      · exact .error h (Nat.le_refl _)

theorem tracks_array (below : TracksBelow limit tokens ts.length)
    (first : TracksFrom limit tokens ts .expression) : TracksFrom limit tokens ts .array := by
  intro s depth h le
  show Tracks limit tokens depth (s.position + 1) (s.array limit tokens)
    ((Parser.array limit ts depth).outcome.map .array)
  rw [State.array, Parser.outcome_array, map_expect]
  refine .check h (fun rest s' closes brace _ _ _ _ => ?_) fun noBrace => ?_
  · subst closes
    simp only [brace, if_pos]
    exact tracks_endArray h rfl
  · simp only [noBrace]
    rw [outcome_rows_eq, map_andThen]
    refine (first h le).andThen (Nat.le_refl _) (fun _ _ => rfl) ?_
    intro cell rest s' stops further within
    have shorter := h.length_lt stops further within
    exact (tracks_arrayRest below [] [] cell (Nat.le_of_lt shorter) stops le).mono (by omega)

theorem tracks_primary (below : TracksBelow limit tokens ts.length) :
    TracksFrom limit tokens ts .primary := by
  intro s depth h le
  show Tracks limit tokens depth (s.position + 1) (s.primary limit tokens)
    (Parser.primary limit ts depth).outcome
  match ts with
  | [] =>
    rw [State.primary, State.consume, h.current, Parser.primary]
    exact .error h (Nat.le_refl _)
  | t :: ts =>
    obtain ⟨s', run, stops, further, within⟩ := h.consume
    have shorter : ts.length < (t :: ts).length := Nat.lt_succ_self _
    rw [State.primary, run]
    cases t with
    | number | string | error | reference =>
      rw [Parser.primary]
      exact .ok stops (by omega) within
    | identifier label =>
      rw [Parser.outcome_primary_identifier]
      refine .check stops (fun rest s'' opens paren _ _ _ _ => ?_) fun noParen => ?_
      · subst opens
        have called := below shorter (.call label) stops le
        rw [Procedure.outcome, expect_cons_self] at called
        simp only [paren, if_pos]
        exact called.mono (by omega)
      · simp only [noParen]
        exact .ok stops (by omega) within
    | symbol sym =>
      by_cases hp : sym = .leftParen
      · subst hp
        rw [Parser.outcome_primary_leftParen]
        refine (below shorter .expression stops le).andThen (Nat.le_refl _) (fun _ _ => rfl) ?_
        intro inner rest s'' stops' further' within'
        rw [Parser.outcome_close]
        dsimp only
        refine .expect stops' (Nat.le_refl _) (fun failure run => by rw [run]) ?_
        intro rest' s₃ run stops'' further'' within''
        rw [run]
        exact .ok stops'' (by omega) within''
      · by_cases hb : sym = .leftBrace
        · subst hb
          rw [Parser.outcome_primary_leftBrace]
          exact (below shorter .array stops le).mono (by omega)
        · rw [Parser.outcome_primary_symbol limit ts depth hp hb]
          simp only [hp, hb, if_false]
          exact .error stops (Nat.le_refl _)

/-! ## All procedures -/

/-- The procedures track the parser, on any list of tokens. -/
theorem tracksBelow (limit : Nat) (tokens : List Token) (n : Nat) :
    TracksBelow limit tokens n := by
  induction n using Nat.strongRecOn with
  | ind n ih =>
    intro ts short p
    have below := ih ts.length short
    have primary := tracks_primary below
    have range := tracks_range below primary
    have signed := tracks_signed below range
    have power := tracks_power below signed
    have product := tracks_chain .product below power
    have sum := tracks_chain .sum below product
    have concat := tracks_chain .concat below sum
    have comparison := tracks_chain .comparison below concat
    have expression := tracks_expression comparison
    cases p with
    | expression => exact expression
    | chain level =>
      cases level with
      | comparison => exact comparison
      | concat => exact concat
      | sum => exact sum
      | product => exact product
    | power => exact power
    | signed => exact signed
    | range => exact range
    | primary => exact primary
    | array => exact tracks_array below expression
    | call label => exact tracks_call below label

theorem tracks_start (p : Procedure) (tokens : List Token) (position : Nat) (le : depth ≤ limit) :
    Tracks limit tokens depth (position + 1) (p.run limit tokens (.start position depth))
      (p.outcome limit (tokens.drop position) depth) :=
  tracksBelow limit tokens _ (Nat.lt_succ_self _) p (State.At.start tokens position le) le

/-- The machine gives what the parser gives. -/
theorem parse_eq (limit : Nat) (tokens : List Token) :
    parse limit tokens = some (Expr.ofTokens limit tokens) := by
  have tracks := tracks_start .expression tokens 0 (Nat.zero_le limit)
  rw [Procedure.run, Procedure.outcome, List.drop_zero] at tracks
  rw [parse, Grammar.ofTokens_eq_whole]
  generalize (State.start 0 0).expression limit tokens = x at tracks
  generalize (Parser.expression limit tokens 0).outcome = o at tracks
  cases tracks with
  | @ok e rest s stops =>
    have next := stops.current
    cases rest with
    | nil | cons =>
      simp only [Option.bind_eq_bind, Option.bind_some, next]
      rfl
  | error => rfl

/-- From every position and every count within the limit, each procedure stops. After a success the
count is back and the position is greater, and at most the number of tokens; after a failure the
count is no lower. No value of the count on the way is below zero or more than one above the limit.
The answer is that of the parser. -/
theorem Procedure.run_bookkeeping (limit : Nat) (tokens : List Token) (p : Procedure)
    (position depth : Nat) (le : depth ≤ limit) :
    ∃ reply s, p.run limit tokens (.start position depth) = some (reply, s) ∧
      (∀ e, reply = .ok e →
        s.count = depth ∧ position < s.position ∧ s.position ≤ tokens.length) ∧
      (∀ failure, reply = .error failure → depth ≤ s.count) ∧
      (∀ c ∈ s.counts, 0 ≤ c ∧ c ≤ limit + 1) ∧
      p.outcome limit (tokens.drop position) depth = Answer.outcome tokens (reply, s) := by
  obtain ⟨reply, s, run, outcome, ok, error, counts⟩ :=
    (tracks_start p tokens position le).exists_answer
  exact ⟨reply, s, run, ok, error, counts, outcome⟩

/-- The second `+` is too deep. It takes the count one above the limit, and only the level of the
expression is given back; the other steps in the list are ends of chains. -/
theorem Procedure.run_bookkeeping_sum :
    let tokens : List Token := [.identifier "a", .symbol .plus, .identifier "b", .symbol .plus,
      .identifier "c"]
    0 ≤ 2 ∧ ∃ s, Procedure.expression.run 2 tokens (.start 0 0) = some (.error (.tooDeep 2), s) ∧
      s.counts = [2, 3, 2, 2, 2, 1, 1, 1, 0] ∧ (0 : Nat) ≤ s.count ∧
      ∀ c ∈ s.counts, 0 ≤ c ∧ c ≤ (2 : Nat) + 1 := by
  intro tokens
  have tooDeep : Procedure.expression.run 2 tokens (.start 0 0) =
      some (.error (.tooDeep 2), ⟨4, (2 : Nat), [3, 2, 2, 2, 1, 1, 1, 0].map Int.ofNat⟩) := by
    cbv
  obtain ⟨reply, s, run, -, error, counts, -⟩ :=
    run_bookkeeping 2 tokens .expression 0 0 (by decide)
  cases tooDeep.symm.trans run
  exact ⟨by decide, _, tooDeep, rfl, error _ rfl, counts⟩

end SheetFormula.Expr.Machine
