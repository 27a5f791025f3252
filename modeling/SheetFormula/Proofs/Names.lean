import Mathlib
import SheetFormula.Proofs.CellLabel
import SheetFormula.Proofs.Grammar.Acceptance
import SheetFormula.Proofs.Mentions
import SheetFormula.Proofs.Spacing

/-!
# Names in formulas

Each node of the tree of a formula is read from some of its tokens (`Grammar.Phrase.readFrom`): a
variable from a word that no `(` follows, a call from a word that it has in upper case, references
and ranges from their labels. So no variable has the label of a cell or starts with `@`
(`Formula.not_label_of_name`), and upper case leaves the name of a call as it is
(`Formula.upper_of_call`).

* `Expr.IsNode`: the nodes of a tree; those that take part in evaluation are among them.
* `Token.IsWord`: what a name may be.
-/

namespace SheetFormula

/-! ## Nodes of a tree -/

namespace Expr

/-- The nodes of a tree, with those under a `:`. -/
inductive IsNode (node : Expr) : Expr → Prop where
  | self : IsNode node node
  | left {op : BinaryOp} {left right : Expr} (h : IsNode node left) :
      IsNode node (.binary op left right)
  | right {op : BinaryOp} {left right : Expr} (h : IsNode node right) :
      IsNode node (.binary op left right)
  | operand {op : UnaryOp} {operand : Expr} (h : IsNode node operand) :
      IsNode node (.unary op operand)
  | colonLeft {left right : Expr} (h : IsNode node left) : IsNode node (.colon left right)
  | colonRight {left right : Expr} (h : IsNode node right) : IsNode node (.colon left right)
  | argument {label : String} {args : List Expr} {arg : Expr} (mem : arg ∈ args)
      (h : IsNode node arg) : IsNode node (.call label args)
  | cell {rows : List (List Expr)} {row : List Expr} {cell : Expr} (memRow : row ∈ rows)
      (mem : cell ∈ row) (h : IsNode node cell) : IsNode node (.array rows)

theorem IsPart.isNode {part e : Expr} (h : IsPart part e) : IsNode part e := by
  induction h with
  | self => exact .self
  | left _ ih => exact .left ih
  | right _ ih => exact .right ih
  | operand _ ih => exact .operand ih
  | argument mem _ ih => exact .argument mem ih
  | cell memRow mem _ ih => exact .cell memRow mem ih

theorem joinRange_cases (left right : Expr) :
    (∃ start stop, left = .reference start ∧ right = .reference stop ∧ start.kind = stop.kind ∧
        left.joinRange right = .range start stop) ∨
      left.joinRange right = .colon left right ∧
        ∀ start stop, left = .reference start → right = .reference stop →
          start.kind ≠ stop.kind := by
  fun_cases joinRange left right with
  | case1 start stop same => exact .inl ⟨start, stop, rfl, rfl, same, rfl⟩
  | case2 start stop other =>
    refine .inr ⟨rfl, ?_⟩
    rintro _ _ ⟨⟩ ⟨⟩
    exact other
  | case3 left right noReferences =>
    exact .inr ⟨rfl, fun start stop hl hr => (noReferences start stop hl hr).elim⟩

end Expr

/-! ## Nodes and tokens -/

/-- The tokens that a node is read from stand among some tokens, and it is put together of them as a
formula means it. -/
def Expr.ReadFrom (ts : List Token) : Expr → Prop
  | .name label => ∃ before after, ts = before ++ .identifier label :: after ∧
      after.head? ≠ some (.symbol .leftParen)
  | .call label _ => ∃ word, label = Text.upper word ∧ Token.identifier word ∈ ts
  | .reference ref => Token.reference ref ∈ ts
  | .range start stop =>
    Token.reference start ∈ ts ∧ Token.reference stop ∈ ts ∧ start.kind = stop.kind
  | .colon left right => ∀ start stop, left = .reference start → right = .reference stop →
      start.kind ≠ stop.kind
  | .array rows => [] ∉ rows
  | .number _ | .string _ | .error _ | .binary _ _ _ | .unary _ _ => True

namespace Expr.ReadFrom

variable {node : Expr} {ts : List Token}

theorem behind (h : node.ReadFrom ts) (front : List Token) : node.ReadFrom (front ++ ts) := by
  cases node with
  | name label =>
    obtain ⟨before, after, rfl, follows⟩ := h
    exact ⟨front ++ before, after, (List.append_assoc ..).symm, follows⟩
  | call label args =>
    obtain ⟨word, rfl, mem⟩ := h
    exact ⟨word, rfl, List.mem_append_right front mem⟩
  | reference ref => exact List.mem_append_right front h
  | range start stop =>
    obtain ⟨memStart, memStop, same⟩ := h
    exact ⟨List.mem_append_right front memStart, List.mem_append_right front memStop, same⟩
  | colon | array => exact h
  | number | string | error | binary | unary => trivial

theorem before (h : node.ReadFrom ts) {rest : List Token}
    (apart : rest.head? ≠ some (.symbol .leftParen)) : node.ReadFrom (ts ++ rest) := by
  cases node with
  | name label =>
    obtain ⟨before, after, rfl, follows⟩ := h
    refine ⟨before, after ++ rest, List.append_assoc .., ?_⟩
    cases after with
    | nil => exact apart
    | cons t ts => exact follows
  | call label args =>
    obtain ⟨word, rfl, mem⟩ := h
    exact ⟨word, rfl, List.mem_append_left rest mem⟩
  | reference ref => exact List.mem_append_left rest h
  | range start stop =>
    obtain ⟨memStart, memStop, same⟩ := h
    exact ⟨List.mem_append_left rest memStart, List.mem_append_left rest memStop, same⟩
  | colon | array => exact h
  | number | string | error | binary | unary => trivial

end Expr.ReadFrom

namespace Grammar

open SheetFormula.Expr (IsNode)

/-- Whether an expression is a node of what a phrase means. -/
def Phrase.HasNode (node : Expr) : {c : Stratum} → Phrase c → Prop
  | .arguments, p | .row, p => ∃ e ∈ p.tree, IsNode node e
  | .rows, p => ∃ row ∈ p.tree, ∃ e ∈ row, IsNode node e
  | .expression, p | .chain _, p | .operand _, p | .power, p | .signed, p | .percentage, p
  | .range, p | .primary, p => IsNode node p.tree

theorem Phrase.tree_ne_nil (p : Phrase .row) : p.tree ≠ [] := by
  cases p <;> exact List.cons_ne_nil _ _

theorem Phrase.nil_notMem_tree : (p : Phrase .rows) → [] ∉ p.tree
  | .lastRow p => fun mem => p.tree_ne_nil (List.mem_singleton.1 mem).symm
  | .row p ps => fun mem =>
    (List.mem_cons.1 mem).elim (fun nil => p.tree_ne_nil nil.symm) ps.nil_notMem_tree

/-- The nodes of a phrase are read from its tokens. -/
theorem Phrase.readFrom {c : Stratum} (p : Phrase c) {node : Expr} (h : p.HasNode node) :
    node.ReadFrom p.tokens := by
  induction p generalizing node with
  | expression p ih | first p ih | concat p ih | sum p ih | product p ih | factor p ih | base p ih
  | unsigned p ih | whole p ih | single p ih => exact ih h
  | binary l s op mem r ihl ihr =>
    have operator := ne_leftParen_of_mem mem
    cases h with
    | self => trivial
    | left h => exact (ihl h).before (by simpa using operator)
    | right h => exact ((ihr h).behind [.symbol s]).behind l.tokens
  | power l r ihl ihr =>
    cases h with
    | self => trivial
    | left h => exact (ihl h).before (by simp)
    | right h => exact ((ihr h).behind [.symbol .caret]).behind l.tokens
  | sign s op mem p ih =>
    cases h with
    | self => trivial
    | operand h => exact (ih h).behind [.symbol s]
  | percent p ih =>
    cases h with
    | self => trivial
    | operand h => exact (ih h).before (by simp)
  | colon l r ihl ihr =>
    have left {node : Expr} (h : IsNode node l.tree) : node.ReadFrom (Phrase.colon l r).tokens :=
      (ihl h).before (by simp)
    have right {node : Expr} (h : IsNode node r.tree) : node.ReadFrom (Phrase.colon l r).tokens :=
      ((ihr h).behind [.symbol .colon]).behind l.tokens
    simp only [HasNode, tree] at h
    -- the references of a range are no nodes of their own, the operands of another `:` are
    obtain ⟨start, stop, hl, hr, same, joined⟩ | ⟨joined, other⟩ :=
      Expr.joinRange_cases l.tree r.tree
    · rw [joined] at h
      cases h with
      | self =>
        have memStart : IsNode (.reference start) l.tree := hl ▸ .self
        have memStop : IsNode (.reference stop) r.tree := hr ▸ .self
        exact ⟨left memStart, right memStop, same⟩
    · rw [joined] at h
      cases h with
      | self => exact other
      | colonLeft h => exact left h
      | colonRight h => exact right h
  | number | string | error =>
    cases h with
    | self => trivial
  | reference ref =>
    cases h with
    | self => exact List.mem_singleton_self _
  | emptyArray =>
    cases h with
    | self => exact List.not_mem_nil
    | cell memRow => cases memRow
  | name label =>
    cases h with
    | self => exact ⟨[], [], rfl, by simp⟩
  | parens p ih => exact ((ih h).before (by simp)).behind [.symbol .leftParen]
  | emptyCall label =>
    cases h with
    | self => exact ⟨label, rfl, by simp [tokens]⟩
    | argument mem => cases mem
  | array p ih =>
    cases h with
    | self => exact p.nil_notMem_tree
    | cell memRow mem h =>
      exact ((ih ⟨_, memRow, _, mem, h⟩).before (by simp)).behind [.symbol .leftBrace]
  | call label p ih =>
    cases h with
    | self => exact ⟨label, rfl, by simp [tokens]⟩
    | argument mem h =>
      exact ((ih ⟨_, mem, h⟩).before (by simp)).behind [.identifier label, .symbol .leftParen]
  | lastArgument p ih | lastCell p ih =>
    obtain ⟨e, mem, h⟩ := h
    rw [List.mem_singleton.1 mem] at h
    exact ih h
  | lastRow p ih =>
    obtain ⟨row, mem, h⟩ := h
    rw [List.mem_singleton.1 mem] at h
    exact ih h
  | argument p ps ih ihs | cell p ps ih ihs =>
    obtain ⟨e, mem, h⟩ := h
    rcases List.mem_cons.1 mem with rfl | mem
    · exact (ih h).before (by simp)
    · exact ((ihs ⟨e, mem, h⟩).behind [.symbol .comma]).behind p.tokens
  | row p ps ih ihs =>
    obtain ⟨row, mem, h⟩ := h
    rcases List.mem_cons.1 mem with rfl | mem
    · exact (ih h).before (by simp)
    · exact ((ihs ⟨row, mem, h⟩).behind [.symbol .semicolon]).behind p.tokens

end Grammar

/-! ## Words of a text -/

namespace Token

/-- A word that may be a name: a letter or `_`, and then letters, digits, `_` and `.`. -/
structure IsWord (word : String) : Prop where
  first : ∃ c, word.toList.head? = some c ∧ (c.isAlpha ∨ c = '_')
  chars : ∀ c ∈ word.toList, isNameChar c ∨ c = '.'

theorem toNat_of_isLabelChar {c : Char} (h : isLabelChar c) : c.toNat < 0x80 := by
  simp only [isLabelChar, isNameChar, Bool.or_eq_true, decide_eq_true_eq] at h
  rcases h with ((h | rfl) | rfl) | rfl
  · rcases Bool.or_eq_true_iff.1 h with letter | digit
    · exact (toNat_of_isAlpha letter).2
    · exact Nat.lt_of_le_of_lt (toNat_of_isDigit digit).2 (by decide)
  all_goals decide

theorem IsWord.isLabelChar {word : String} (h : IsWord word) :
    ∀ c ∈ word.toList, isLabelChar c := by
  intro c mem
  rcases h.chars c mem with name | rfl
  · simp [Token.isLabelChar, name]
  · decide

/-- A label without a `$` is a word. -/
theorem isWord_of_label {c : Char} {cs : List Char} (first : c.isAlpha ∨ c = '_' ∨ c = '$')
    (chars : ∀ d ∈ c :: cs, Token.isLabelChar d) (noDollar : '$' ∉ c :: cs) :
    IsWord (String.ofList (c :: cs)) := by
  constructor <;> rw [String.toList_ofList]
  · refine ⟨c, List.head?_cons, ?_⟩
    rcases first with letter | rfl | rfl
    · exact .inl letter
    · exact .inr rfl
    · exact absurd (List.mem_cons_self ..) noDollar
  · intro d mem
    have label := chars d mem
    simp only [Token.isLabelChar, Bool.or_eq_true, decide_eq_true_eq] at label
    rcases label with (name | rfl) | point
    · exact .inl name
    · exact absurd mem noDollar
    · exact .inr point

/-- The text of a name is a word, and the label of a cell only before a `(`. -/
theorem identifier_of_scan {cs rest : List Char} {label : String}
    (h : scan cs = .ok (.identifier label, rest)) :
    IsWord label ∧ (isCellLabel label.toList → opensCall rest) := by
  generalize ht : Token.identifier label = t at h
  cases scanned_of_scan h with
  | symbol | less | greater | string | number | error | named | cell => cases ht
  | @name c cs _ _ first read =>
    cases ht
    have starts : Token.isLabelChar c := by
      rcases first with letter | rfl | rfl
      · exact isLabelChar_of_isAlpha letter
      · decide
      · decide
    have chars : ∀ d ∈ (c :: cs).takeWhile Token.isLabelChar, Token.isLabelChar d := fun _ =>
      List.mem_takeWhile_imp
    rw [List.takeWhile_cons_of_pos starts] at chars
    simp only [scanLabel, List.takeWhile_cons_of_pos starts] at read
    split at read
    · cases read
    · rename_i notCell
      split at read
      · cases read
      · rename_i noDollar
        cases read
        refine ⟨isWord_of_label first chars (by simpa using noDollar), fun isCell => ?_⟩
        rw [String.toList_ofList] at isCell
        simpa [isCell] using notCell

theorem head?_of_opensCall {cs : List Char} {ts : List Token} (opens : opensCall cs)
    (h : tokensOf cs = .ok ts) : ts.head? = some (.symbol .leftParen) := by
  have starts : (Text.dropBlanks cs).head? = some '(' := of_decide_eq_true opens
  obtain ⟨rest, paren⟩ := List.head?_eq_some_iff.1 starts
  rcases tokensOf_eq_ok h with ⟨none, -⟩ | ⟨t, us, after, scanned, -, rfl⟩
  · rw [none] at starts
    cases starts
  · rw [paren] at scanned
    cases scanned
    rfl

/-- Each token of a text is read from a part of it, and the tokens after it from the rest. -/
theorem exists_scan {cs : List Char} {before after : List Token} {t : Token}
    (h : tokensOf cs = .ok (before ++ t :: after)) :
    ∃ part rest, scan part = .ok (t, rest) ∧ tokensOf rest = .ok after := by
  obtain ⟨_, _, -, -, others⟩ := exists_reads h
  obtain ⟨-, none⟩ | ⟨_, _, rest, scanned, last, same⟩ := tokensOf_eq_ok others
  · cases none
  · cases same
    exact ⟨_, rest, scanned, last⟩

end Token

/-! ## Words in upper case -/

namespace Text

theorem toList_upper {s : String} (ascii : ∀ c ∈ s.toList, c.toNat < 0x80) :
    (upper s).toList = s.toList.map Char.toUpper := by
  rw [upper, String.toList_ofList, List.map_eq_flatMap]
  exact List.flatMap_congr fun c mem => upperChar_ascii (ascii c mem)

/-- A text without small letters is in upper case already. -/
theorem upper_of_isLower {s : String} (ascii : ∀ c ∈ s.toList, c.toNat < 0x80)
    (capital : ∀ c ∈ s.toList, c.isLower = false) : upper s = s := by
  rw [← String.toList_inj, toList_upper ascii]
  refine (List.map_congr_left fun c mem => ?_).trans (List.map_id s.toList)
  exact Char.toUpper_eq_of_not_isLower (Bool.eq_false_iff.1 (capital c mem))

end Text

namespace Token

theorem isNameChar_toUpper {c : Char} (h : isNameChar c) : isNameChar c.toUpper := by
  by_cases small : c.isLower
  · have letter : c.toUpper.isAlpha := by
      rw [Char.isAlpha_toUpper_eq_isAlpha, Char.isAlpha, small, Bool.or_true]
    simp [isNameChar, Char.isAlphanum, letter]
  · rwa [Char.toUpper_eq_of_not_isLower small]

/-- A word in upper case is a word without small letters. -/
theorem IsWord.upper {word : String} (h : IsWord word) :
    IsWord (Text.upper word) ∧ ∀ c ∈ (Text.upper word).toList, c.isLower = false := by
  have ascii : ∀ c ∈ word.toList, c.toNat < 0x80 := fun c mem =>
    toNat_of_isLabelChar (h.isLabelChar c mem)
  have chars := Text.toList_upper ascii
  refine ⟨⟨?_, ?_⟩, ?_⟩ <;> rw [chars]
  · obtain ⟨c, starts, first⟩ := h.first
    refine ⟨c.toUpper, by rw [List.head?_map, starts]; rfl, ?_⟩
    rcases first with letter | rfl
    · exact .inl (by rwa [Char.isAlpha_toUpper_eq_isAlpha])
    · exact .inr rfl
  · intro d mem
    obtain ⟨c, memWord, rfl⟩ := List.mem_map.1 mem
    rcases h.chars c memWord with name | rfl
    · exact .inl (isNameChar_toUpper name)
    · exact .inr rfl
  · intro d mem
    obtain ⟨c, -, rfl⟩ := List.mem_map.1 mem
    exact Char.isLower_toUpper_eq_false c

end Token

/-! ## Variables and calls of a formula -/

namespace Formula

open SheetFormula.Expr (IsNode IsPart)

variable {options : Options} {text : String} {e : Expr} {label : String}

theorem exists_readFrom (parsed : parse options text = .ok e) {node : Expr} (h : IsNode node e) :
    ∃ ts, Token.tokensOf (body options text).toList = .ok ts ∧ node.ReadFrom ts := by
  obtain ⟨p, tokens, rfl, -⟩ := Grammar.parse_eq_ok_iff.1 parsed
  exact ⟨p.tokens, Token.tokensOf_of_ofText tokens, p.readFrom h⟩

/-- A variable is a word without the label of a cell. -/
theorem word_of_name (parsed : parse options text = .ok e) (node : IsNode (.name label) e) :
    Token.IsWord label ∧ ¬∃ parts : CellLabel, parts.text = label := by
  obtain ⟨_, read, before, after, rfl, apart⟩ := exists_readFrom parsed node
  obtain ⟨_, rest, scanned, others⟩ := Token.exists_scan read
  obtain ⟨word, opens⟩ := Token.identifier_of_scan scanned
  refine ⟨word, ?_⟩
  rintro ⟨parts, rfl⟩
  have isLabel : Token.isCellLabel parts.text.toList :=
    Token.isCellLabel_iff.2 ⟨parts, CellLabel.text_eq_iff.1 rfl⟩
  exact apart (Token.head?_of_opensCall (opens isLabel) others)

/-- The name of a call is a word in upper case. -/
theorem word_of_call {args : List Expr} (parsed : parse options text = .ok e)
    (node : IsNode (.call label args) e) :
    Token.IsWord label ∧ ∀ c ∈ label.toList, c.isLower = false := by
  obtain ⟨_, read, word, rfl, mem⟩ := exists_readFrom parsed node
  obtain ⟨before, after, rfl⟩ := List.append_of_mem mem
  obtain ⟨_, _, scanned, -⟩ := Token.exists_scan read
  exact (Token.identifier_of_scan scanned).1.upper

/-- A variable has no label of a cell, and does not start with `@`. -/
theorem not_label_of_name (parsed : parse options text = .ok e) (part : IsPart (.name label) e) :
    (¬∃ parts : CellLabel, parts.text = label) ∧ label.toList.head? ≠ some '@' := by
  obtain ⟨word, noLabel⟩ := word_of_name parsed part.isNode
  refine ⟨noLabel, fun starts => ?_⟩
  have isLabelChar := word.isLabelChar '@' (List.mem_of_mem_head? starts)
  cases isLabelChar

/-- The name of a call is in upper case. -/
theorem upper_of_call {args : List Expr} (parsed : parse options text = .ok e)
    (part : IsPart (.call label args) e) : Text.upper label = label := by
  obtain ⟨word, capital⟩ := word_of_call parsed part.isNode
  exact Text.upper_of_isLower
    (fun c mem => Token.toNat_of_isLabelChar (word.isLabelChar c mem)) capital

end Formula

end SheetFormula
