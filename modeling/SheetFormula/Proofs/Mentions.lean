import Mathlib.Data.List.Infix
import SheetFormula.Proofs.Grammar.Completeness
import SheetFormula.Proofs.Order

/-!
# What the tokens of an expression mention

`Token.labels` are the labels of the references and variables among some tokens, as written. The
tree of a phrase mentions the same labels in the same order (`Grammar.Phrase.labels_tokens`), and a
run of the tree asks for them in this order (`Expr.Runs.labels_prefix`).
-/

namespace SheetFormula

/-- The labels of a topic: none for a call, and those of both ends for a range. -/
def Topic.labels : Topic → List String
  | .name label | .reference label => [label]
  | .call _ => []
  | .range start stop => [start, stop]

namespace Token

/-- The labels of references and of names that start no call, in order. -/
def labels : List Token → List String
  | [] => []
  | .reference ref :: ts => ref.label :: labels ts
  | .identifier label :: ts =>
    if ts.head? = some (.symbol .leftParen) then labels ts else label :: labels ts
  | .number _ :: ts | .string _ :: ts | .error _ :: ts | .symbol _ :: ts => labels ts

end Token

namespace Expr

/-- The labels that an expression mentions. -/
def labels (e : Expr) : List String :=
  e.mentions.flatMap Topic.labels

theorem labels_joinRange (left right : Expr) :
    (left.joinRange right).labels = left.labels ++ right.labels := by
  unfold joinRange
  split
  · split <;> rfl
  · simp [labels, mentions, listed]

end Expr

namespace Grammar

open Expr.Parser (Level)

/-- What a phrase mentions. -/
def Phrase.mentions : {c : Stratum} → Phrase c → List Topic
  | .arguments, p | .row, p => Expr.listedList true p.tree
  | .rows, p => Expr.listedRows true p.tree
  | .expression, p | .chain _, p | .operand _, p | .power, p | .signed, p | .percentage, p
  | .range, p | .primary, p => Expr.mentions p.tree

theorem ne_leftParen_of_mem {level : Level} {s : Symbol} {op : BinaryOp}
    (h : (s, op) ∈ operators level) : s ≠ .leftParen := by
  rintro rfl
  have := looseness_of_mem h
  cases level <;> cases this

/-- The labels among the tokens of a phrase are what it mentions. In front of a `(` its last token
might be the name of a call. -/
theorem Phrase.labels_tokens {c : Stratum} (p : Phrase c) :
    ∀ rest : List Token, rest.head? ≠ some (.symbol .leftParen) →
      Token.labels (p.tokens ++ rest) = p.mentions.flatMap Topic.labels ++ Token.labels rest := by
  induction p with
  | expression p ih | first p ih | concat p ih | sum p ih | product p ih | factor p ih | base p ih
  | unsigned p ih | whole p ih | single p ih =>
    intro rest h
    exact ih rest h
  | binary l s op mem r ihl ihr =>
    intro rest h
    have operator := ne_leftParen_of_mem mem
    rw [tokens, List.append_assoc, List.cons_append, ihl _ (by simpa using operator), Token.labels,
      ihr rest h]
    simp [mentions, tree, Expr.mentions, Expr.listed]
  | power l r ihl ihr =>
    intro rest h
    rw [tokens, List.append_assoc, List.cons_append, ihl _ (by simp), Token.labels, ihr rest h]
    simp [mentions, tree, Expr.mentions, Expr.listed]
  | sign s op mem p ih =>
    intro rest h
    rw [tokens, List.cons_append, Token.labels, ih rest h]
    rfl
  | percent p ih =>
    intro rest h
    rw [tokens, List.append_assoc, ih _ (by simp)]
    rfl
  | colon l r ihl ihr =>
    intro rest h
    rw [tokens, List.append_assoc, List.cons_append, ihl _ (by simp), Token.labels, ihr rest h]
    have joined := Expr.labels_joinRange l.tree r.tree
    simp only [mentions, tree, Expr.labels] at joined ⊢
    rw [joined, List.append_assoc]
  | number | string | error | reference =>
    intro rest _
    rfl
  | name label =>
    intro rest h
    rw [tokens, List.singleton_append, Token.labels, if_neg h]
    rfl
  | parens p ih =>
    intro rest h
    rw [tokens, List.cons_append, List.cons_append, List.append_assoc, Token.labels,
      ih _ (by simp)]
    rfl
  | emptyArray | emptyCall =>
    intro rest _
    rfl
  | array p ih =>
    intro rest h
    rw [tokens, List.cons_append, List.cons_append, List.append_assoc, Token.labels,
      ih _ (by simp)]
    rfl
  | call label p ih =>
    intro rest h
    simp only [tokens, List.cons_append, List.append_assoc, Token.labels, List.head?_cons,
      if_true]
    rw [ih _ (by simp)]
    simp [mentions, tree, Expr.mentions, Expr.listed, Topic.labels, Token.labels]
  | lastArgument p ih | lastCell p ih =>
    intro rest h
    rw [tokens, ih rest h]
    simp [mentions, tree, Expr.mentions, Expr.listedList]
  | lastRow p ih =>
    intro rest h
    rw [tokens, ih rest h]
    simp [mentions, tree, Expr.listedRows]
  | argument p ps ih ihs | cell p ps ih ihs =>
    intro rest h
    rw [tokens, List.append_assoc, List.cons_append, ih _ (by simp), Token.labels, ihs rest h]
    simp [mentions, tree, Expr.mentions, Expr.listedList]
  | row p ps ih ihs =>
    intro rest h
    rw [tokens, List.append_assoc, List.cons_append, ih _ (by simp), Token.labels, ihs rest h]
    simp [mentions, tree, Expr.listedRows]

theorem labels_of_phrase (p : Phrase .expression) : Token.labels p.tokens = p.tree.labels := by
  have whole := p.labels_tokens [] (by simp)
  rwa [List.append_nil, Token.labels, List.append_nil] at whole

end Grammar

/-! ## Runs -/

/-- The labels that an exchange asks for. -/
def Exchange.labels (x : Exchange) : List String :=
  x.topic.labels

namespace Expr.Runs

variable {e : Expr} {xs : List Exchange} {result : Except Failure Value}

/-- A run asks for the labels that the expression mentions, in order, as far as it comes. -/
theorem labels_prefix (h : Runs e xs result) : xs.flatMap Exchange.labels <+: e.labels := by
  have asked := (h.follows true).inOrder.flatMap Topic.labels
  rwa [List.flatMap_map] at asked

/-- A run that succeeds asks for all labels that the expression mentions. -/
theorem labels_eq {v : Value} (h : Runs e xs (.ok v)) : xs.flatMap Exchange.labels = e.labels := by
  have asked := congrArg (List.flatMap Topic.labels) ((h.follows true).ok v rfl).1
  rwa [List.flatMap_map] at asked

end Expr.Runs

end SheetFormula
