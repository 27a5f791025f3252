import Mathlib
import SheetFormula.Proofs.Names

/-!
# Trees of formulas are well formed

Not every tree is the tree of a formula. `Expr.WellFormed` says what holds of each node of one: its
label is one that a token has, a `:` between references of one kind is a range, no variable has the
label of a cell, and no row of an array is empty (`Formula.wellFormed_of_parse`).
-/

namespace SheetFormula

/-- The label of a reference to a cell is letters and digits, each with an optional `$` in front,
that of a named reference an `@` and a name; so the label tells the kind. -/
structure Reference.WellFormed (ref : Reference) : Prop where
  cell : ref.kind = .cell → ∃ parts : CellLabel, parts.text = ref.label
  named : ref.kind = .named → ∃ name, ref.label = String.ofList ('@' :: name) ∧ name ≠ [] ∧
    ∀ c ∈ name, Token.isNameChar c
  ofLabel : Reference.ofLabel ref.label = ref

/-- What holds of a node of the tree of a formula, whatever stands below it. -/
def Expr.WellFormed : Expr → Prop
  | .reference ref => ref.WellFormed
  | .range start stop => start.WellFormed ∧ stop.WellFormed ∧ start.kind = stop.kind
  | .colon left right => ∀ start stop, left = .reference start → right = .reference stop →
      start.kind ≠ stop.kind
  | .name label => Token.IsWord label ∧ ¬∃ parts : CellLabel, parts.text = label
  | .call label _ => Token.IsWord label ∧ ∀ c ∈ label.toList, c.isLower = false
  | .array rows => [] ∉ rows
  | .number _ | .string _ | .error _ | .binary _ _ _ | .unary _ _ => True

/-- A reference is well formed as it is read from a text. -/
theorem Token.wellFormed_of_mem {cs : List Char} {ts : List Token} {ref : Reference}
    (h : tokensOf cs = .ok ts) (mem : Token.reference ref ∈ ts) : ref.WellFormed := by
  obtain ⟨before, after, rfl⟩ := List.append_of_mem mem
  obtain ⟨_, _, scanned, -⟩ := exists_scan h
  refine ⟨?_, ?_, ofLabel_of_scan scanned⟩ <;> obtain ⟨kind, label⟩ := ref
  · rintro ⟨⟩
    exact exists_label_of_scan scanned
  · rintro ⟨⟩
    exact exists_name_of_scan scanned

namespace Formula

open SheetFormula.Expr (IsNode)

/-- Every node of the tree of a formula is well formed. -/
theorem wellFormed_of_parse {options : Options} {text : String} {e : Expr}
    (parsed : parse options text = .ok e) {node : Expr} (h : IsNode node e) :
    node.WellFormed := by
  obtain ⟨ts, read, readFrom⟩ := exists_readFrom parsed h
  cases node with
  | reference ref => exact Token.wellFormed_of_mem read readFrom
  | range start stop =>
    obtain ⟨memStart, memStop, same⟩ := readFrom
    exact ⟨Token.wellFormed_of_mem read memStart, Token.wellFormed_of_mem read memStop, same⟩
  | colon | array => exact readFrom
  | name label => exact word_of_name parsed h
  | call label args => exact word_of_call parsed h
  | number | string | error | binary | unary => trivial

/-- `LOG10` is the name of a call in a formula that has also a range, a `:` between references of
both kinds, and an array: each is well formed as its kind is. -/
theorem wellFormed_log10 :
    ∃ e, parse {} "=log10($a1:B$2,(@x):c3,{y.z;TRUE})" = .ok e ∧
      ∀ node, IsNode node e → node.WellFormed := by
  have parsed : parse {} "=log10($a1:B$2,(@x):c3,{y.z;TRUE})" = .ok
      (.call "LOG10" [.range ⟨.cell, "$a1"⟩ ⟨.cell, "B$2"⟩,
        .colon (.reference ⟨.named, "@x"⟩) (.reference ⟨.cell, "c3"⟩),
        .array [[.name "y.z"], [.name "TRUE"]]]) := by
    cbv
  exact ⟨_, parsed, fun _ => wellFormed_of_parse parsed⟩

end Formula

end SheetFormula
