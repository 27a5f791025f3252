import Mathlib.Data.List.Chain
import SheetFormula.Proofs.Grammar.Completeness
import SheetFormula.Proofs.Spelling

/-!
# Neighbours in a phrase

Of two neighbours in a phrase one is a symbol, and no comparison follows another
(`Phrase.tokens_adjacent`).
-/

namespace SheetFormula.Grammar

/-- Whether a token is a comparison. -/
def isComparison : Token → Bool
  | .symbol s => (operators .comparison).any (·.1 = s)
  | _ => false

/-- Tokens that may be neighbours in a phrase. -/
structure Adjacent (t u : Token) : Prop where
  apart : Token.Apart t u
  compared : isComparison t = true → isComparison u = false

theorem isComparison_of_startsPhrase {t : Token} (h : startsPhrase t) : isComparison t = false := by
  cases t with
  | symbol s => revert h; cases s <;> decide
  | number | string | error | identifier | reference => rfl

namespace Phrase

variable {c : Stratum}

theorem isComparison_of_head? (p : Phrase c) : ∀ t ∈ p.tokens.head?, isComparison t = false := by
  obtain ⟨t, ts, h, starts, -⟩ := p.tokens_eq_cons
  rw [h]
  rintro _ ⟨⟩
  exact isComparison_of_startsPhrase starts

theorem tokens_eq_concat (p : Phrase c) :
    ∃ ts t, p.tokens = ts ++ [t] ∧ isComparison t = false := by
  induction p with
  | expression p ih | first p ih | concat p ih | sum p ih | product p ih | factor p ih | base p ih
  | unsigned p ih | whole p ih | single p ih | lastArgument p ih | lastCell p ih | lastRow p ih =>
    exact ih
  | binary _ _ _ _ _ _ ih | power _ _ _ ih | colon _ _ _ ih | argument _ _ _ ih | cell _ _ _ ih
  | row _ _ _ ih =>
    obtain ⟨ts, t, h, no⟩ := ih
    exact ⟨_, t, by rw [tokens, h, ← List.cons_append, ← List.append_assoc], no⟩
  | sign _ _ _ _ ih =>
    obtain ⟨ts, t, h, no⟩ := ih
    exact ⟨_, t, by rw [tokens, h, ← List.cons_append], no⟩
  | percent p _ => exact ⟨p.tokens, _, rfl, by decide⟩
  | number | string | error | reference | name => exact ⟨[], _, rfl, rfl⟩
  | parens | array => exact ⟨_ :: _, _, rfl, by decide⟩
  | call label p _ => exact ⟨.identifier label :: .symbol .leftParen :: p.tokens, _, rfl, by decide⟩
  | emptyArray => exact ⟨[_], _, rfl, by decide⟩
  | emptyCall => exact ⟨[_, _], _, rfl, by decide⟩

theorem isComparison_of_getLast? (before : List Token) (p : Phrase c) :
    ∀ t ∈ (before ++ p.tokens).getLast?, isComparison t = false := by
  obtain ⟨ts, t, h, no⟩ := p.tokens_eq_concat
  rw [h, ← List.append_assoc, List.getLast?_concat]
  rintro _ ⟨⟩
  exact no

end Phrase

/-- A symbol may stand between phrases. -/
theorem adjacent_append_symbol {s : Symbol} {ts us : List Token} (left : ts.IsChain Adjacent)
    (right : us.IsChain Adjacent) (last : ∀ t ∈ ts.getLast?, isComparison t = false)
    (next : ∀ u ∈ us.head?, isComparison u = false) :
    (ts ++ .symbol s :: us).IsChain Adjacent := by
  rw [List.isChain_append, List.isChain_cons]
  refine ⟨left, ⟨fun u hu => ⟨.inl ⟨s, rfl⟩, fun _ => next u hu⟩, right⟩, ?_⟩
  rintro t ht _ ⟨⟩
  exact ⟨.inr ⟨s, rfl⟩, fun h => absurd h (by simp [last t ht])⟩

/-- Of two neighbours in a phrase one is a symbol, and no comparison follows another. -/
theorem Phrase.tokens_adjacent {c : Stratum} (p : Phrase c) : p.tokens.IsChain Adjacent := by
  induction p with
  | expression p ih | first p ih | concat p ih | sum p ih | product p ih | factor p ih | base p ih
  | unsigned p ih | whole p ih | single p ih | lastArgument p ih | lastCell p ih | lastRow p ih =>
    exact ih
  | binary l s _ _ r ihl ihr | power l r ihl ihr | colon l r ihl ihr | argument l r ihl ihr
  | cell l r ihl ihr | row l r ihl ihr =>
    exact adjacent_append_symbol ihl ihr (l.isComparison_of_getLast? []) r.isComparison_of_head?
  | sign s _ _ p ih => exact adjacent_append_symbol .nil ih nofun p.isComparison_of_head?
  | percent p ih => exact adjacent_append_symbol ih .nil (p.isComparison_of_getLast? []) nofun
  | number | string | error | reference | name => exact .singleton _
  | parens p ih =>
    have opened := adjacent_append_symbol (s := .leftParen) .nil ih nofun p.isComparison_of_head?
    exact adjacent_append_symbol opened .nil (p.isComparison_of_getLast? [_]) nofun
  | array p ih =>
    have opened := adjacent_append_symbol (s := .leftBrace) .nil ih nofun p.isComparison_of_head?
    exact adjacent_append_symbol opened .nil (p.isComparison_of_getLast? [_]) nofun
  | call label p ih =>
    have opened := adjacent_append_symbol (s := .leftParen) (.singleton (.identifier label)) ih
      (by rintro _ ⟨⟩; rfl) p.isComparison_of_head?
    exact adjacent_append_symbol opened .nil (p.isComparison_of_getLast? [_, _]) nofun
  | emptyArray =>
    exact adjacent_append_symbol (.singleton _) .nil (by rintro _ ⟨⟩; decide) nofun
  | emptyCall label =>
    have opened := adjacent_append_symbol (s := .leftParen) (.singleton (.identifier label)) .nil
      (by rintro _ ⟨⟩; rfl) nofun
    exact adjacent_append_symbol opened .nil (by rintro _ ⟨⟩; rfl) nofun

theorem Phrase.tokens_apart {c : Stratum} (p : Phrase c) : p.tokens.IsChain Token.Apart :=
  p.tokens_adjacent.imp fun _ _ h => h.apart

end SheetFormula.Grammar
