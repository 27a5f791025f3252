import SheetFormula.Proofs.Partition
import SheetFormula.Proofs.Watch

/-!
# Quotations

A text stands in a formula between quotes of one of two kinds, and each quote of this kind within it
is doubled (`Text.quotation`). Whatever follows, a quotation is one token with this text
(`Token.tokensOf_quotation`). It starts and ends with a quote, so a formula that is a quotation
keeps the blanks and the `=` in it, and evaluates to the text (`Engine.evaluate_quotation`).
-/

namespace SheetFormula

/-- A text between quotes, with each of its own quotes doubled. -/
def Text.quotation (quote : Char) (s : String) : String :=
  String.ofList (quote :: Token.escaped quote s.toList ++ [quote])

/-! ## Tokens -/

namespace Token

variable {quote : Char} {rest : List Char}

/-- A quotation ends at its last quote, unless another one follows at once. -/
theorem scan_quotation (isQuote : quote = '"' ∨ quote = '\'') (s : List Char)
    (stop : ∀ c ∈ rest.head?, c ≠ quote) :
    scan (quote :: (escaped quote s ++ quote :: rest)) = .ok (.string (String.ofList s), rest) := by
  have read : scanString quote (escaped quote s ++ quote :: rest) =
      .ok (.string (String.ofList s), rest) := by
    rw [scanString, closeQuote_escaped quote s stop]
  exact Scanned.scan (.string isQuote read)

theorem toList_quotation (quote : Char) (s : String) :
    (Text.quotation quote s).toList = quote :: (escaped quote s.toList ++ [quote]) := by
  rw [Text.quotation, String.toList_ofList, List.cons_append]

theorem isBlank_of_isQuote (isQuote : quote = '"' ∨ quote = '\'') :
    Text.isBlank quote = false := by
  rcases isQuote with rfl | rfl <;> decide

/-- A quotation in front of another text is one token in front of those of the other text. -/
theorem tokensOf_quotation (isQuote : quote = '"' ∨ quote = '\'') (s : String)
    (stop : ∀ c ∈ rest.head?, c ≠ quote) :
    tokensOf ((Text.quotation quote s).toList ++ rest) = (tokensOf rest).map (.string s :: ·) := by
  have scanned := scan_quotation isQuote s.toList stop
  rw [String.ofList_toList] at scanned
  rw [toList_quotation, List.cons_append, List.append_assoc, List.singleton_append]
  refine tokensOf_of_scan ?_
  rw [Text.dropBlanks_of_head?, scanned]
  rintro _ ⟨⟩
  exact isBlank_of_isQuote isQuote

theorem ofText_quotation (isQuote : quote = '"' ∨ quote = '\'') (s : String) {rest : String}
    {ts : List Token} (stop : rest.toList.head? ≠ some quote) (tokens : ofText rest = .ok ts) :
    ofText (Text.quotation quote s ++ rest) = .ok (.string s :: ts) := by
  refine ofText_of_tokensOf ?_
  rw [String.toList_append, tokensOf_quotation isQuote s, tokensOf_of_ofText tokens]
  · rfl
  · rintro c first rfl
    exact stop first

end Token

/-! ## Formulas -/

/-- Of a text that starts and ends otherwise no blanks are cut off. -/
theorem Text.trimBlanks_of_ends {cs : List Char} (first : ∀ c ∈ cs.head?, isBlank c = false)
    (last : ∀ c ∈ cs.getLast?, isBlank c = false) : trimBlanks cs = cs := by
  rw [trimBlanks, dropBlanks_of_head? first, dropBlanks_of_head? (by rwa [List.head?_reverse]),
    List.reverse_reverse]

namespace Formula

variable {quote : Char}

/-- Nothing of a quotation is cut off when it is read as a formula. -/
theorem body_quotation (options : Options) (isQuote : quote = '"' ∨ quote = '\'') (s : String) :
    body options (Text.quotation quote s) = Text.quotation quote s := by
  have notBlank := Token.isBlank_of_isQuote isQuote
  have trimmed : Text.trimBlanks (Text.quotation quote s).toList =
      (Text.quotation quote s).toList := by
    rw [Token.toList_quotation]
    refine Text.trimBlanks_of_ends ?_ ?_
    · rintro _ ⟨⟩
      exact notBlank
    · rw [← List.cons_append, List.getLast?_concat]
      rintro _ ⟨⟩
      exact notBlank
  unfold body
  rw [trimmed]
  split
  · rename_i equals
    rw [Token.toList_quotation, List.cons.injEq] at equals
    rcases isQuote with rfl | rfl <;> exact absurd equals.1 (by decide)
  · exact String.ofList_toList

theorem parse_quotation {options : Options} (depth : 1 ≤ options.maxDepth)
    (isQuote : quote = '"' ∨ quote = '\'') (s : String) :
    parse options (Text.quotation quote s) = .ok (.string s) := by
  let phrase : Grammar.Phrase .expression := .ofSum (.first (.term (.base (.atom (.string s)))))
  have tokens : Token.ofText (body options (Text.quotation quote s)) = .ok phrase.tokens := by
    have alone : Token.tokensOf ((Text.quotation quote s).toList ++ []) = _ :=
      Token.tokensOf_quotation isQuote s nofun
    rw [List.append_nil, Token.tokensOf_nil] at alone
    rw [body_quotation options isQuote s]
    exact Token.ofText_of_tokensOf alone
  exact (Grammar.parse_of_phrase tokens).trans (if_pos depth)

end Formula

variable {σ : Type}

/-- In front of a text that does not go on with its quote a quotation is one token, its text. As a
formula it evaluates to this text, and asks the host for nothing. -/
theorem Engine.evaluate_quotation {quote : Char} (isQuote : quote = '"' ∨ quote = '\'')
    (s : String) :
    (∀ (rest : String) (ts : List Token), rest.toList.head? ≠ some quote →
        Token.ofText rest = .ok ts →
          Token.ofText (Text.quotation quote s ++ rest) = .ok (.string s :: ts)) ∧
      ∀ (engine : Engine σ) (state : σ), 1 ≤ engine.options.maxDepth →
        engine.evaluate (Text.quotation quote s) state =
          ((.value (.string s), { engine with evaluations := engine.evaluations + 1 }), state) := by
  refine ⟨fun rest ts stop tokens => Token.ofText_quotation isQuote s stop tokens,
    fun engine state depth => ?_⟩
  have nonempty : Text.quotation quote s ≠ "" := by
    rw [ne_eq, ← String.toList_eq_nil_iff, Token.toList_quotation]
    exact List.cons_ne_nil _ _
  have value : (Expr.string s).eval engine.context state = (.ok (.string s), state) := by
    rw [Expr.eval]
    rfl
  rw [evaluate_of_nonempty _ nonempty, run_of_ok (Formula.parse_quotation depth isQuote s), value]

/-- The text `='#N/A' ` of eight characters in single quotes, in front of `&x`, and as a formula. -/
theorem Engine.evaluate_quotation_error :
    Text.quotation '\'' "='#N/A' " = "'=''#N/A'' '" ∧
      Token.ofText "'=''#N/A'' '&x" =
        .ok [.string "='#N/A' ", .symbol .ampersand, .identifier "x"] ∧
      (Engine.evaluate ({ options := { maxDepth := 1 } } : Engine Unit) "'=''#N/A'' '" ()).1.1 =
        .value (.string "='#N/A' ") := by
  have spelled : Text.quotation '\'' "='#N/A' " = "'=''#N/A'' '" := rfl
  have reads : Token.Reads "&x".toList [.symbol .ampersand, .identifier "x"] [] :=
    .cons (s := ['&']) (List.forall_mem_nil _) rfl
      (.cons (s := ['x']) (List.forall_mem_nil _) rfl (.nil []))
  have isQuote : '\'' = '"' ∨ '\'' = '\'' := .inr rfl
  obtain ⟨inFront, alone⟩ := Engine.evaluate_quotation (σ := Unit) isQuote "='#N/A' "
  rw [spelled] at inFront alone
  refine ⟨spelled, inFront "&x" _ (by decide) (Token.ofText_of_reads reads), ?_⟩
  rw [alone _ _ (Nat.le_refl 1)]

end SheetFormula
