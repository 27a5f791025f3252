import SheetFormula.Formula
import SheetFormula.Proofs.Grammar.Completeness

/-!
# The parser accepts exactly the grammar

`ofTokens_eq_ok_iff`: the parser accepts a list of tokens as a tree exactly if the list has a
derivation of that tree whose levels fit under the limit; `parse_eq_ok_iff` and `parse_of_phrase`
say so of the text of a formula. There are never more levels than tokens
(`Phrase.levels_le_length`), so a high enough limit accepts all the grammar
(`ofTokens_accepts_grammar`), and no list of tokens has two trees.
-/

namespace SheetFormula.Grammar

open Expr.Parser

/-- All tokens of a phrase are read, as its tree, if its levels fit under the limit. -/
theorem ofTokens_of_phrase {limit : Nat} (p : Phrase .expression) (h : p.levels ≤ limit) :
    Expr.ofTokens limit p.tokens = .ok p.tree := by
  have settles := (settled limit p [] 0 (stops_nil 8) (Nat.zero_le limit)).1 (by omega)
  rw [List.append_nil] at settles
  rw [Expr.ofTokens]
  cases hp : expression limit p.tokens 0 with
  | fail failure depth =>
    rw [hp] at settles
    cases settles
  | ok value rest depth shorter =>
    rw [hp, Reply.outcome_ok, Except.ok.injEq, Prod.mk.injEq, Prod.mk.injEq] at settles
    obtain ⟨rfl, rfl, -⟩ := settles
    rfl

/-- A phrase whose levels do not fit under the limit fails for depth. -/
theorem ofTokens_of_deep_phrase {limit : Nat} (p : Phrase .expression) (h : limit < p.levels) :
    Expr.ofTokens limit p.tokens = .error (.tooDeep limit) := by
  obtain ⟨d, settles⟩ := (settled limit p [] 0 (stops_nil 8) (Nat.zero_le limit)).2 (by omega)
  rw [List.append_nil] at settles
  rw [Expr.ofTokens]
  cases hp : expression limit p.tokens 0 with
  | fail failure depth =>
    rw [hp] at settles
    cases settles
    rfl
  | ok value rest depth shorter =>
    rw [hp] at settles
    cases settles

/-- The parser accepts a list of tokens, as a tree, exactly if it is a phrase whose levels fit under
the limit. -/
theorem ofTokens_eq_ok_iff {limit : Nat} {ts : List Token} {e : Expr} :
    Expr.ofTokens limit ts = .ok e ↔
      ∃ p : Phrase .expression, p.tokens = ts ∧ p.tree = e ∧ p.levels ≤ limit := by
  constructor
  · intro h
    have read : (expression limit ts 0).outcome = .ok (e, [], 0) := by
      rw [Expr.ofTokens] at h
      cases hp : expression limit ts 0 with
      | fail failure depth =>
        rw [hp] at h
        cases h
      | ok value rest depth shorter =>
        rw [hp] at h
        have counted := (readsBelow limit (ts.length + 1)).expression (Nat.lt_succ_self _) 0
          (congrArg Reply.outcome hp)
        obtain ⟨rfl, -⟩ := counted
        cases rest with
        | nil =>
          cases h
          rfl
        | cons t rest => cases h
    obtain ⟨-, p, hp, rfl⟩ :=
      (readsBelow limit (ts.length + 1)).expression (Nat.lt_succ_self _) 0 read
    simp only [List.append_nil] at hp
    subst hp
    refine ⟨p, rfl, rfl, Nat.le_of_not_lt fun hl => ?_⟩
    rw [ofTokens_of_deep_phrase p hl] at h
    cases h
  · rintro ⟨p, rfl, rfl, h⟩
    exact ofTokens_of_phrase p h

/-! ## Formulas -/

section Formulas

variable {options : Options} {text : String} {e : Expr}

theorem parse_of_ofText {ts : List Token}
    (h : Token.ofText (Formula.body options text) = .ok ts) (nonempty : ts ≠ []) :
    Formula.parse options text = Expr.ofTokens options.maxDepth ts := by
  rw [Formula.parse, h]
  change (if ts.isEmpty then _ else _) = _
  rw [if_neg]
  rwa [List.isEmpty_iff]

/-- A formula whose tokens are a phrase is accepted, or fails for depth. -/
theorem parse_of_phrase {p : Phrase .expression}
    (h : Token.ofText (Formula.body options text) = .ok p.tokens) :
    Formula.parse options text =
      if p.levels ≤ options.maxDepth then .ok p.tree else .error (.tooDeep options.maxDepth) := by
  obtain ⟨t, us, hp, -⟩ := p.tokens_eq_cons
  rw [parse_of_ofText h (hp ▸ List.cons_ne_nil t us)]
  split
  · exact ofTokens_of_phrase p ‹_›
  · exact ofTokens_of_deep_phrase p (Nat.lt_of_not_le ‹_›)

/-- A formula is accepted, as a tree, exactly if its tokens are a phrase whose levels fit under the
limit. -/
theorem parse_eq_ok_iff :
    Formula.parse options text = .ok e ↔
      ∃ p : Phrase .expression, Token.ofText (Formula.body options text) = .ok p.tokens ∧
        p.tree = e ∧ p.levels ≤ options.maxDepth := by
  constructor
  · intro h
    cases ht : Token.ofText (Formula.body options text) with
    | error failure =>
      rw [Formula.parse, ht] at h
      cases h
    | ok ts =>
      have nonempty : ts ≠ [] := by
        rintro rfl
        rw [Formula.parse, ht] at h
        cases h
      rw [parse_of_ofText ht nonempty, ofTokens_eq_ok_iff] at h
      obtain ⟨p, rfl, hp⟩ := h
      exact ⟨p, rfl, hp⟩
  · rintro ⟨p, ht, rfl, hl⟩
    rw [parse_of_phrase ht, if_pos hl]

end Formulas

/-! ## Levels and tokens -/

/-- How many tokens of a phrase take no level, at least. -/
def Stratum.free : Stratum → Nat
  | .expression | .arguments | .row | .rows => 0
  | _ => 1

theorem Phrase.levels_add_free_le {c : Stratum} (p : Phrase c) :
    p.levels + c.free ≤ p.tokens.length ∧ p.links + 1 ≤ p.tokens.length := by
  induction p <;>
    simp only [levels, links, tokens, Stratum.free, List.length_append, List.length_cons,
      List.length_nil] at * <;> omega

theorem Phrase.levels_le_length (p : Phrase .expression) : p.levels ≤ p.tokens.length :=
  p.levels_add_free_le.1

/-! ## Exactly the grammar -/

theorem ofTokens_of_derives {limit : Nat} {ts : List Token} {e : Expr} (h : Derives ts e)
    (hl : ts.length ≤ limit) : Expr.ofTokens limit ts = .ok e := by
  obtain ⟨p, rfl, rfl⟩ := h
  exact ofTokens_of_phrase p (Nat.le_trans p.levels_le_length hl)

/-- What the parser accepts, the grammar derives; what the grammar derives, the parser accepts under
any limit above the number of tokens; and the tree is the only one. -/
theorem ofTokens_accepts_grammar (limit : Nat) (ts : List Token) (e : Expr) :
    (Expr.ofTokens limit ts = .ok e → Derives ts e) ∧
      (Derives ts e → ts.length + 1 ≤ limit → Expr.ofTokens limit ts = .ok e) ∧
      ∀ e', Derives ts e → Derives ts e' → e' = e := by
  refine ⟨fun h => ?_, fun h hl => ofTokens_of_derives h (by omega), fun e' h h' => ?_⟩
  · obtain ⟨p, hp, he, -⟩ := ofTokens_eq_ok_iff.1 h
    exact ⟨p, hp, he⟩
  · have accepted := ofTokens_of_derives h (Nat.le_refl _)
    rw [ofTokens_of_derives h' (Nat.le_refl _)] at accepted
    exact Except.ok.inj accepted

/-- In `a--b^c^d-e` the `-` goes from left to right, the `^` from right to left, and the sign is
tighter than both. -/
theorem ofTokens_accepts_differences :
    let ts : List Token := [.identifier "a", .symbol .minus, .symbol .minus, .identifier "b",
      .symbol .caret, .identifier "c", .symbol .caret, .identifier "d", .symbol .minus,
      .identifier "e"]
    let e : Expr := .binary .subtract (.binary .subtract (.name "a")
      (.binary .power (.unary .negate (.name "b")) (.binary .power (.name "c") (.name "d"))))
      (.name "e")
    Derives ts e ∧ ts.length + 1 ≤ 11 ∧ Expr.ofTokens 11 ts = .ok e := by
  intro ts e
  have derived : Derives ts e :=
    ⟨.ofSum (.binary (.binary (.first (.term (.base (.atom (.name "a"))))) .minus .subtract
      (by decide) (.term (.power (.sign .minus .negate (by decide) (.atom (.name "b")))
        (.power (.atom (.name "c")) (.base (.atom (.name "d"))))))) .minus .subtract (by decide)
      (.term (.base (.atom (.name "e"))))), rfl, rfl⟩
  exact ⟨derived, by decide, (ofTokens_accepts_grammar 11 ts e).2.1 derived (by decide)⟩

end SheetFormula.Grammar
