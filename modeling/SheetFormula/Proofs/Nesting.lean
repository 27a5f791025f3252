import SheetFormula.Proofs.Grammar

/-!
# How deep an accepted expression is nested

The parser counts levels (`Grammar.Phrase.levels`) and not the height of the tree (`Expr.height`): a
finished chain gives its levels back, although the operators after it nest it once more. So a tree
may be higher than the limit.

* `Grammar.bounded`: the bound for the phrases of each stratum, by induction on the phrase.
* `Grammar.height_le_tallest`: within `n` levels a tree is at most `tallest n` high.
-/

namespace SheetFormula

namespace Expr

mutual

/-- The nesting of a tree. A `:` costs nothing. -/
def height : Expr → Nat
  | .number _ | .string _ | .error _ | .reference _ | .range _ _ | .name _ => 1
  | .binary _ left right => max left.height right.height + 1
  | .unary _ operand => operand.height + 1
  | .colon left right => max left.height right.height
  | .call _ args => heightList args + 1
  | .array rows => heightRows rows + 1

/-- The greatest height of a list of trees. -/
def heightList : List Expr → Nat
  | [] => 0
  | e :: es => max e.height (heightList es)

/-- The greatest height of rows of trees. -/
def heightRows : List (List Expr) → Nat
  | [] => 0
  | row :: rows => max (heightList row) (heightRows rows)

end

theorem height_joinRange (left right : Expr) :
    (left.joinRange right).height = max left.height right.height := by
  unfold joinRange
  split
  · split <;> simp [height]
  · rw [height]

end Expr

namespace Grammar

open Expr.Parser (Level)

/-- The height that a tree may reach within a number of levels. -/
def tallest : Nat → Nat
  | 0 => 0
  | n + 1 => 1 + 2 * n + 5 * (n * (n + 1) / 2)

/-- One level more is worth five operators and a call, and an exponent unless it is the first. -/
theorem tallest_succ (n : Nat) : tallest (n + 1) = 5 * n + 1 + tallest n + min n 1 := by
  cases n with
  | zero => rfl
  | succ n =>
    have half : (n + 1) * (n + 1 + 1) / 2 = n * (n + 1) / 2 + (n + 1) := by
      rw [show n + 1 + 1 = n + 2 from rfl, Nat.mul_add, Nat.mul_comm (n + 1) n]
      exact Nat.add_mul_div_right _ _ (by decide)
    simp only [tallest, half]
    omega

theorem tallest_mono {n m : Nat} (h : n ≤ m) : tallest n ≤ tallest m := by
  induction h with
  | refl => exact Nat.le_refl _
  | step _ ih =>
    rw [Nat.succ_eq_add_one, tallest_succ]
    omega

/-- How many of the chains from the loosest on are at least as tight as a level. -/
def chainsWithin : Level → Nat
  | .product => 0
  | .sum => 1
  | .concat => 2
  | .comparison => 3

/-- The bound on the height of a phrase within `n` levels. -/
def Bounded (n : Nat) : {c : Stratum} → Phrase c → Prop
  | .expression, p => p.tree.height ≤ tallest n
  | .chain level, p =>
    p.tree.height ≤ p.links + chainsWithin level * n + n + 1 + tallest n + min n 1
  | .operand level, p => p.tree.height ≤ chainsWithin level * n + n + 1 + tallest n + min n 1
  | .power, p => p.tree.height ≤ n + 1 + tallest n + min n 1
  | .signed, p => p.tree.height ≤ n + 1 + tallest n
  | .percentage, p => p.tree.height ≤ p.links + 1 + tallest n
  | .range, p => p.tree.height ≤ 1 + tallest n
  | .primary, p => p.tree.height ≤ 1 + tallest n
  | .arguments, p => Expr.heightList p.tree ≤ tallest n
  | .row, p => Expr.heightList p.tree ≤ tallest n
  | .rows, p => Expr.heightRows p.tree ≤ tallest n

theorem bounded {c : Stratum} (p : Phrase c) : ∀ n, p.levels ≤ n → Bounded n p := by
  induction p with
  | expression p ih =>
    intro n hn
    simp only [Phrase.levels] at hn
    obtain ⟨n, rfl⟩ : ∃ m, n = m + 1 := ⟨n - 1, by omega⟩
    have h := ih n (by omega)
    have := p.links_le_levels
    simp only [Bounded, Phrase.tree, chainsWithin] at h ⊢
    rw [tallest_succ]
    omega
  | first p ih =>
    intro n hn
    have h := ih n hn
    simp only [Bounded, Phrase.tree, Phrase.links] at h ⊢
    omega
  | binary l s op mem r ihl ihr =>
    intro n hn
    simp only [Phrase.levels] at hn
    have hl := ihl n (by omega)
    have hr := ihr n (by omega)
    simp only [Bounded, Phrase.tree, Phrase.links, Expr.height] at hl hr ⊢
    omega
  | concat p ih | sum p ih | product p ih =>
    intro n hn
    have h := ih n hn
    have := p.links_le_levels
    simp only [Bounded, Phrase.tree, Phrase.levels, chainsWithin] at h hn ⊢
    omega
  | factor p ih =>
    intro n hn
    have h := ih n hn
    simp only [Bounded, Phrase.tree, chainsWithin] at h ⊢
    omega
  | base p ih =>
    intro n hn
    have h := ih n hn
    simp only [Bounded, Phrase.tree] at h ⊢
    omega
  | power l r ihl ihr =>
    intro n hn
    simp only [Phrase.levels] at hn
    have hl := ihl n (by omega)
    have hr := ihr (n - 1) (by omega)
    have := tallest_mono (Nat.sub_le n 1)
    simp only [Bounded, Phrase.tree, Expr.height] at hl hr ⊢
    omega
  | unsigned p ih =>
    intro n hn
    have h := ih n hn
    have := p.links_le_levels
    simp only [Bounded, Phrase.tree, Phrase.levels] at h hn ⊢
    omega
  | sign s op mem p ih =>
    intro n hn
    simp only [Phrase.levels] at hn
    have h := ih (n - 1) (by omega)
    have := tallest_mono (Nat.sub_le n 1)
    simp only [Bounded, Phrase.tree, Expr.height] at h ⊢
    omega
  | whole p ih =>
    intro n hn
    have h := ih n hn
    simp only [Bounded, Phrase.tree, Phrase.links] at h ⊢
    omega
  | percent p ih =>
    intro n hn
    simp only [Phrase.levels] at hn
    have h := ih n (by omega)
    simp only [Bounded, Phrase.tree, Phrase.links, Expr.height] at h ⊢
    omega
  | single p ih => exact ih
  | colon l r ihl ihr =>
    intro n hn
    simp only [Phrase.levels] at hn
    have hl := ihl n (by omega)
    have hr := ihr n (by omega)
    simp only [Bounded, Phrase.tree, Expr.height_joinRange] at hl hr ⊢
    omega
  | number | string | error | reference | name | emptyArray | emptyCall =>
    intro n _
    simp only [Bounded, Phrase.tree, Expr.height, Expr.heightList, Expr.heightRows]
    omega
  | parens p ih =>
    intro n hn
    have h := ih n hn
    simp only [Bounded, Phrase.tree] at h ⊢
    omega
  | array p ih | call label p ih =>
    intro n hn
    have h := ih n hn
    simp only [Bounded, Phrase.tree, Expr.height] at h ⊢
    omega
  | lastArgument p ih | lastCell p ih | lastRow p ih =>
    intro n hn
    have h := ih n hn
    simp only [Bounded, Phrase.tree, Expr.heightList, Expr.heightRows] at h ⊢
    omega
  | argument p ps ih ihs | cell p ps ih ihs | row p ps ih ihs =>
    intro n hn
    simp only [Phrase.levels] at hn
    have h := ih n (by omega)
    have hs := ihs n (by omega)
    simp only [Bounded, Phrase.tree, Expr.heightList, Expr.heightRows] at h hs ⊢
    omega

/-- Within `n` levels a tree is at most `tallest n` high. -/
theorem height_le_tallest {p : Phrase .expression} {n : Nat} (h : p.levels ≤ n) :
    p.tree.height ≤ tallest n :=
  bounded p n h

end Grammar

end SheetFormula
