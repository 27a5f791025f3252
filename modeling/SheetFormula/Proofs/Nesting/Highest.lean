import Mathlib
import SheetFormula.Proofs.Grammar.Acceptance
import SheetFormula.Proofs.Grammar.Neighbours
import SheetFormula.Proofs.Nesting

/-!
# The highest trees within a number of levels

A finished chain gives its levels back, so within `n + 1` levels each precedence may have a chain of
`n` operators over all that is tighter. `Phrase.layer n` puts these chains around a primary, and
`Phrase.crown` puts calls and layers around each other, which makes a tree of the greatest height
that `height_le_tallest` allows. Its tokens are plain, so it is the tree of a formula.

* `parse_height`: the limit on levels bounds the height of a formula by `tallest`, this bound is
  reached, and the limit bounds the height itself only if it is at most 1.
-/

namespace SheetFormula.Grammar

open Expr.Parser (Level)

/-! ## Chains of names -/

/-- An operator of a level. -/
def mark : Level → Symbol × BinaryOp
  | .comparison => (.equal, .compare .equal)
  | .concat => (.ampersand, .concat)
  | .sum => (.plus, .add)
  | .product => (.star, .multiply)

theorem mark_mem (level : Level) : mark level ∈ operators level := by
  cases level <;> decide

namespace Phrase

/-- A variable as an operand of `^`. -/
def leafX : Phrase .power :=
  .base (.atom (.name "x"))

/-- A variable as an operand of a level. -/
def leaf : (level : Level) → Phrase (.operand level)
  | .product => .factor leafX
  | .sum => .term leafX
  | .concat => .sum (.first (.term leafX))
  | .comparison => .concat (.first (.sum (.first (.term leafX))))

theorem tokens_leaf (level : Level) : (leaf level).tokens = [.identifier "x"] := by
  cases level <;> rfl

theorem levels_leaf (level : Level) : (leaf level).levels = 0 := by
  cases level <;> rfl

/-- An operand of a level with `n` operators after it. -/
def stretch {level : Level} (p : Phrase (.operand level)) : Nat → Phrase (.chain level)
  | 0 => .first p
  | n + 1 => .binary (stretch p n) (mark level).1 (mark level).2 (mark_mem level) (leaf level)

/-- A primary with `n` percent signs after it. -/
def percents (p : Phrase .primary) : Nat → Phrase .percentage
  | 0 => .whole (.single p)
  | n + 1 => .percent (percents p n)

/-- An operand with an exponent, unless `n` is zero. -/
def raised (p : Phrase .percentage) : Nat → Phrase .power
  | 0 => .base (.unsigned p)
  | _ + 1 => .power (.unsigned p) leafX

/-- A primary with percent signs, an exponent and a chain of products. -/
def products (p : Phrase .primary) (n : Nat) : Phrase (.chain .product) :=
  stretch (.factor (raised (percents p n) n)) n

/-- A primary with chains up to the sums. -/
def sums (p : Phrase .primary) (n : Nat) : Phrase (.chain .sum) :=
  stretch (.product (products p n)) n

/-- A primary with a chain of `n` operators of each precedence around it. -/
def layer (n : Nat) (p : Phrase .primary) : Phrase .expression :=
  .expression (stretch (.concat (stretch (.sum (sums p n)) n)) n)

/-- Calls with layers between them. -/
def crown : Nat → Phrase .primary
  | 0 => .name "x"
  | n + 1 => .call "f" (.lastArgument (layer n (crown n)))

/-! ## Levels -/

theorem links_stretch {level : Level} (p : Phrase (.operand level)) (n : Nat) :
    (stretch p n).links = n := by
  induction n with
  | zero => rfl
  | succ n ih => rw [stretch, links, ih]

theorem levels_stretch {level : Level} (p : Phrase (.operand level)) (n : Nat) :
    (stretch p n).levels = max p.levels n := by
  induction n with
  | zero => rw [stretch, levels, Nat.max_zero]
  | succ n ih =>
    rw [stretch, levels, ih, links_stretch, levels_leaf]
    omega

theorem levels_percents (p : Phrase .primary) (n : Nat) :
    (percents p n).links = n ∧ (percents p n).levels = max p.levels n := by
  induction n with
  | zero => exact ⟨rfl, (Nat.max_zero _).symm⟩
  | succ n ih =>
    rw [percents, links, levels, ih.1, ih.2]
    omega

theorem levels_raised (p : Phrase .percentage) (n : Nat) :
    (raised p n).levels ≤ max p.levels n := by
  cases n with
  | zero => exact Nat.le_max_left _ _
  | succ n =>
    have leaf : leafX.levels = 0 := rfl
    simp only [raised, levels, leaf]
    omega

theorem levels_layer {n : Nat} {p : Phrase .primary} (h : p.levels ≤ n) :
    (layer n p).levels ≤ n + 1 := by
  have := levels_raised (percents p n) n
  have := (levels_percents p n).2
  simp only [layer, sums, products, levels, levels_stretch]
  omega

theorem levels_crown (n : Nat) : (crown n).levels ≤ n := by
  induction n with
  | zero => exact Nat.le_refl 0
  | succ n ih => exact levels_layer ih

/-! ## Heights -/

theorem height_stretch {level : Level} {p : Phrase (.operand level)} {h : Nat}
    (hp : h ≤ Expr.height p.tree) (n : Nat) : h + n ≤ Expr.height (stretch p n).tree := by
  induction n with
  | zero => exact hp
  | succ n ih =>
    simp only [stretch, tree, Expr.height]
    omega

theorem height_percents {p : Phrase .primary} {h : Nat} (hp : h ≤ Expr.height p.tree) (n : Nat) :
    h + n ≤ Expr.height (percents p n).tree := by
  induction n with
  | zero => exact hp
  | succ n ih =>
    simp only [percents, tree, Expr.height]
    omega

theorem height_raised {p : Phrase .percentage} {h : Nat} (hp : h ≤ Expr.height p.tree) (n : Nat) :
    h + min n 1 ≤ Expr.height (raised p n).tree := by
  cases n with
  | zero => exact hp
  | succ n =>
    simp only [raised, tree, Expr.height]
    omega

theorem height_layer (n : Nat) (p : Phrase .primary) :
    Expr.height p.tree + 5 * n + min n 1 ≤ (layer n p).tree.height := by
  have power := height_raised (height_percents (Nat.le_refl (Expr.height p.tree)) n) n
  have product : _ ≤ Expr.height (products p n).tree := height_stretch power n
  have sum : _ ≤ Expr.height (sums p n).tree := height_stretch product n
  have concat := height_stretch (p := .sum (sums p n)) sum n
  have comparison : _ ≤ (layer n p).tree.height := height_stretch concat n
  omega

theorem height_crown (n : Nat) : 1 + tallest n ≤ Expr.height (crown n).tree := by
  induction n with
  | zero => exact Nat.le_refl 1
  | succ n ih =>
    have := height_layer n (crown n)
    rw [tallest_succ]
    simp only [crown, tree, Expr.height, Expr.heightList]
    omega

/-- Within `n + 1` levels a tree may be `tallest (n + 1)` high. -/
theorem height_layer_crown (n : Nat) : (layer n (crown n)).tree.height = tallest (n + 1) := by
  refine Nat.le_antisymm (height_le_tallest (levels_layer (levels_crown n))) ?_
  have := height_layer n (crown n)
  have := height_crown n
  rw [tallest_succ]
  omega

/-! ## Plain tokens -/

theorem plain_x : (Token.identifier "x").Plain :=
  ⟨by decide, by simp⟩

theorem plain_stretch {level : Level} {p : Phrase (.operand level)} (h : ∀ t ∈ p.tokens, t.Plain)
    (n : Nat) : ∀ t ∈ (stretch p n).tokens, t.Plain := by
  induction n with
  | zero => exact h
  | succ n ih =>
    have operator : (Token.symbol (mark level).1).Plain := by
      cases level
      exacts [⟨'=', rfl⟩, ⟨'&', rfl⟩, ⟨'+', rfl⟩, ⟨'*', rfl⟩]
    rw [stretch, tokens, tokens_leaf, List.forall_mem_append, List.forall_mem_cons]
    exact ⟨ih, operator, List.forall_mem_singleton.2 plain_x⟩

theorem plain_percents {p : Phrase .primary} (h : ∀ t ∈ p.tokens, t.Plain) (n : Nat) :
    ∀ t ∈ (percents p n).tokens, t.Plain := by
  induction n with
  | zero => exact h
  | succ n ih =>
    rw [percents, tokens, List.forall_mem_append]
    exact ⟨ih, List.forall_mem_singleton.2 ⟨'%', rfl⟩⟩

theorem plain_raised {p : Phrase .percentage} (h : ∀ t ∈ p.tokens, t.Plain) (n : Nat) :
    ∀ t ∈ (raised p n).tokens, t.Plain := by
  cases n with
  | zero => exact h
  | succ n =>
    have name : leafX.tokens = [.identifier "x"] := rfl
    rw [raised, tokens, tokens, name, List.forall_mem_append, List.forall_mem_cons]
    exact ⟨h, ⟨'^', rfl⟩, List.forall_mem_singleton.2 plain_x⟩

theorem plain_layer {p : Phrase .primary} (h : ∀ t ∈ p.tokens, t.Plain) (n : Nat) :
    ∀ t ∈ (layer n p).tokens, t.Plain := by
  have product : ∀ t ∈ (products p n).tokens, t.Plain :=
    plain_stretch (plain_raised (plain_percents h n) n) n
  have sum : ∀ t ∈ (sums p n).tokens, t.Plain := plain_stretch product n
  have concat := plain_stretch (p := .sum (sums p n)) sum n
  exact plain_stretch (p := .concat (stretch (.sum (sums p n)) n)) concat n

theorem plain_crown (n : Nat) : ∀ t ∈ (crown n).tokens, t.Plain := by
  induction n with
  | zero => exact List.forall_mem_singleton.2 plain_x
  | succ n ih =>
    rw [crown, tokens, List.forall_mem_append, List.forall_mem_cons, List.forall_mem_cons]
    exact ⟨⟨⟨by decide, by simp⟩, ⟨'(', rfl⟩, plain_layer ih n⟩,
      List.forall_mem_singleton.2 ⟨')', rfl⟩⟩

end Phrase

/-! ## The bound is reached -/

/-- Under a limit of at least one level some formula is as high as `tallest` allows. -/
theorem exists_parse_height_eq {options : Options} (h : 1 ≤ options.maxDepth) :
    ∃ text e, Formula.parse options text = .ok e ∧ e.height = tallest options.maxDepth := by
  obtain ⟨n, hn⟩ : ∃ n, options.maxDepth = n + 1 := ⟨options.maxDepth - 1, by omega⟩
  let p := Phrase.layer n (.crown n)
  have read := Formula.ofText_body_spelled options (Phrase.plain_layer (Phrase.plain_crown n) n)
    p.tokens_apart (p.head?_tokens_ne rfl)
  have fits : p.levels ≤ options.maxDepth := hn ▸ Phrase.levels_layer (Phrase.levels_crown n)
  refine ⟨_, p.tree, parse_eq_ok_iff.2 ⟨p, read, rfl, fits⟩, ?_⟩
  rw [hn, Phrase.height_layer_crown]

theorem height_le_tallest_of_parse {options : Options} {text : String} {e : Expr}
    (h : Formula.parse options text = .ok e) : e.height ≤ tallest options.maxDepth := by
  obtain ⟨p, -, rfl, fits⟩ := parse_eq_ok_iff.1 h
  exact height_le_tallest fits

theorem lt_tallest {n : Nat} (h : 2 ≤ n) : n < tallest n := by
  obtain ⟨m, rfl⟩ : ∃ m, n = m + 1 := ⟨n - 1, by omega⟩
  rw [tallest_succ]
  omega

/-- The limit bounds the height of every formula by `tallest`, and no better, so it bounds the
height itself only if it is at most 1. For a single formula it does so, whatever the limit, if the
tree is not higher than the levels of its phrase. -/
theorem parse_height (options : Options) :
    (∀ text e, Formula.parse options text = .ok e → e.height ≤ tallest options.maxDepth) ∧
    (1 ≤ options.maxDepth →
      ∃ text e, Formula.parse options text = .ok e ∧ e.height = tallest options.maxDepth) ∧
    ((∀ text e, Formula.parse options text = .ok e → e.height ≤ options.maxDepth) ↔
      options.maxDepth ≤ 1) ∧
    ∀ text e, Formula.parse options text = .ok e →
      ∃ p : Phrase .expression, Token.ofText (Formula.body options text) = .ok p.tokens ∧
        p.tree = e ∧
        (∀ n, Formula.parse { options with maxDepth := n } text = .ok e ↔ p.levels ≤ n) ∧
        ((∀ n, Formula.parse { options with maxDepth := n } text = .ok e → e.height ≤ n) ↔
          e.height ≤ p.levels) := by
  refine ⟨fun _ _ => height_le_tallest_of_parse, exists_parse_height_eq, ⟨fun h => ?_, ?_⟩, ?_⟩
  · refine Nat.le_of_not_lt fun high => ?_
    obtain ⟨text, e, parsed, height⟩ := exists_parse_height_eq (Nat.le_of_lt high)
    have := h text e parsed
    have := lt_tallest high
    omega
  · intro low text e parsed
    have := height_le_tallest_of_parse parsed
    obtain zero | one : options.maxDepth = 0 ∨ options.maxDepth = 1 := by omega
    · rwa [zero] at this ⊢
    · rwa [one] at this ⊢
  · intro text e parsed
    obtain ⟨p, read, rfl, -⟩ := parse_eq_ok_iff.1 parsed
    have accepted : ∀ n, Formula.parse { options with maxDepth := n } text = .ok p.tree ↔
        p.levels ≤ n := by
      intro n
      have same : Token.ofText (Formula.body { options with maxDepth := n } text) = .ok p.tokens :=
        read
      rw [parse_of_phrase same]
      split <;> simp_all
    refine ⟨p, read, rfl, accepted, fun h => h _ ((accepted _).2 (Nat.le_refl _)), ?_⟩
    intro h n hn
    exact Nat.le_trans h ((accepted n).1 hn)

/-- At two levels `f(x)%^x*x+x&x=x` is as high as a formula can be. -/
theorem parse_height_two_levels :
    ∃ e, Formula.parse { maxDepth := 2 } "f(x)%^x*x+x&x=x" = .ok e ∧ e.height = 8 ∧
      e.height ≤ tallest 2 ∧
      ∃ text e', Formula.parse { maxDepth := 2 } text = .ok e' ∧ e'.height = 8 := by
  have parsed : Formula.parse { maxDepth := 2 } "f(x)%^x*x+x&x=x" =
      .ok (.binary (.compare .equal) (.binary .concat (.binary .add (.binary .multiply
        (.binary .power (.unary .percent (.call "F" [.name "x"])) (.name "x")) (.name "x"))
        (.name "x")) (.name "x")) (.name "x")) := by
    cbv
  exact ⟨_, parsed, by decide, (parse_height { maxDepth := 2 }).1 _ _ parsed,
    (parse_height { maxDepth := 2 }).2.1 (by decide)⟩

/-- At two levels a product in a sum is three high. -/
theorem parse_sum_of_product :
    ∃ e, Formula.parse { maxDepth := 2 } "a*b+c" = .ok e ∧ ¬e.height ≤ 2 :=
  ⟨.binary .add (.binary .multiply (.name "a") (.name "b")) (.name "c"), by cbv, by decide⟩

-- Neither the same tree in parentheses nor the sum the other way round is read at two levels.
example : Formula.parse { maxDepth := 2 } "(a*b)+c" = .error (.tooDeep 2) ∧
    Formula.parse { maxDepth := 2 } "c+a*b" = .error (.tooDeep 2) :=
  ⟨by cbv, by cbv⟩

end SheetFormula.Grammar
