import Mathlib.Data.List.Chain
import Mathlib.Data.List.TakeWhile
import SheetFormula.Formula

/-!
# Tokens and their text

`Token.Spells` says which texts spell a token, and `Token.Written` that a text is spellings of
tokens one after the other, with nothing but blanks around them.

* `Token.spells_of_scan`: what is cut off a text spells the token that it gives.
* `Token.written_of_ofText`: the tokens of a text are written in it.
* `Token.tokensOf_spelled`: words of letters and symbols of one character need no blanks between
  them if no word follows another.
-/

namespace SheetFormula

namespace Token

/-- The characters of a string within quotes. -/
def escaped (quote : Char) (s : List Char) : List Char :=
  s.flatMap fun c => if c = quote then [quote, quote] else [c]

/-- The texts that spell a token. -/
inductive Spells : Token → List Char → Prop where
  | number {cs : List Char} {x : Decimal.Numeral} (read : Decimal.Numeral.read? cs = some x)
      (first : ∃ c, cs.head? = some c ∧ (c.isDigit ∨ c = '.')) : Spells (.number x.toFloat) cs
  | string {quote : Char} (s : List Char) (isQuote : quote = '"' ∨ quote = '\'') :
      Spells (.string (String.ofList s)) (quote :: escaped quote s ++ [quote])
  | error {cs : List Char} {code : ErrorCode}
      (read : ErrorCode.ofText? (String.ofList cs) = some code) : Spells (.error code) cs
  | identifier (label : List Char) : Spells (.identifier (String.ofList label)) label
  | reference (kind : ReferenceKind) (label : List Char) :
      Spells (.reference ⟨kind, String.ofList label⟩) label
  | symbol (s : Symbol) : Spells (.symbol s) s.spelling

/-- Texts that are spellings of tokens, in order, with blanks around them. -/
inductive Written : List Token → List Char → Prop where
  | nil {blanks : List Char} (blank : ∀ c ∈ blanks, Text.isBlank c) : Written [] blanks
  | cons {blanks cs rest : List Char} {t : Token} {ts : List Token}
      (blank : ∀ c ∈ blanks, Text.isBlank c) (spells : Spells t cs) (nonempty : cs ≠ [])
      (written : Written ts rest) : Written (t :: ts) (blanks ++ cs ++ rest)

/-! ## What is cut off a text -/

theorem splitPoint_append (cs : List Char) : (splitPoint cs).1 ++ (splitPoint cs).2 = cs := by
  unfold splitPoint
  split
  · rw [List.cons_append, List.takeWhile_append_dropWhile]
  · rfl

theorem splitSign_append (cs : List Char) : (splitSign cs).1 ++ (splitSign cs).2 = cs := by
  unfold splitSign
  split <;> rfl

theorem splitExponent_append (cs : List Char) :
    (splitExponent cs).1 ++ (splitExponent cs).2 = cs := by
  cases cs with
  | nil => rfl
  | cons c cs =>
    simp only [splitExponent]
    split
    · rw [List.cons_append, List.cons_append, List.append_assoc, List.takeWhile_append_dropWhile,
        splitSign_append]
    · rfl

theorem splitNumber_append (cs : List Char) : (splitNumber cs).1 ++ (splitNumber cs).2 = cs := by
  simp only [splitNumber]
  rw [List.append_assoc, splitExponent_append, List.append_assoc, splitPoint_append,
    List.takeWhile_append_dropWhile]

theorem splitMark_append (cs : List Char) : (splitMark cs).1 ++ (splitMark cs).2 = cs := by
  unfold splitMark
  split <;> rfl

theorem closeQuote_append {quote : Char} {cs : List Char} :
    ∀ r ∈ closeQuote quote cs, cs = escaped quote r.1 ++ quote :: r.2 := by
  fun_induction closeQuote quote cs with
  | case1 | case3 => simp
  | case2 => simp [escaped]
  | case4 c d cs hc ih =>
    intro r hr
    obtain ⟨r', hr', rfl⟩ := Option.map_eq_some_iff.1 hr
    rw [ih r' hr']
    simp [escaped, hc]
  | case5 c cs hc ih =>
    intro r hr
    obtain ⟨r', hr', rfl⟩ := Option.map_eq_some_iff.1 hr
    rw [ih r' hr']
    simp [escaped, Decidable.not_not.1 hc]
  | case6 c d cs hc _ =>
    intro r hr
    cases hr
    rw [Decidable.not_not.1 hc]
    rfl

theorem scanLess_append (cs : List Char) :
    (scanLess cs).1.spelling ++ (scanLess cs).2 = '<' :: cs := by
  unfold scanLess
  split <;> rfl

theorem scanGreater_append (cs : List Char) :
    (scanGreater cs).1.spelling ++ (scanGreater cs).2 = '>' :: cs := by
  unfold scanGreater
  split <;> rfl

theorem spelling_of_simpleSymbol? {c : Char} {s : Symbol} (h : simpleSymbol? c = some s) :
    s.spelling = [c] := by
  unfold simpleSymbol? at h
  split at h <;> cases h <;> rfl

/-! ## What spells a token -/

section Scan

variable {cs rest : List Char} {t : Token}

theorem spells_of_scanNumber {c : Char} (hc : c.isDigit ∨ c = '.')
    (h : scanNumber (c :: cs) = .ok (t, rest)) : ∃ s, c :: cs = s ++ rest ∧ Spells t s := by
  simp only [scanNumber] at h
  split at h
  · rename_i x hx
    cases h
    refine ⟨_, (splitNumber_append _).symm, .number hx ?_⟩
    have cut := splitNumber_append (c :: cs)
    cases hs : (splitNumber (c :: cs)).1 with
    | nil =>
      rw [hs] at hx
      cases hx
    | cons d ds =>
      rw [hs, List.cons_append, List.cons.injEq] at cut
      exact ⟨d, rfl, cut.1 ▸ hc⟩
  · cases h

theorem spells_of_scanString {quote : Char} (hq : quote = '"' ∨ quote = '\'')
    (h : scanString quote cs = .ok (t, rest)) : ∃ s, quote :: cs = s ++ rest ∧ Spells t s := by
  simp only [scanString] at h
  split at h
  · rename_i s _ hs
    cases h
    refine ⟨_, ?_, .string s hq⟩
    rw [closeQuote_append _ hs, List.append_assoc, List.cons_append]
    rfl
  · cases h

theorem spells_of_scanError (h : scanError cs = .ok (t, rest)) :
    ∃ s, '#' :: cs = s ++ rest ∧ Spells t s := by
  simp only [scanError] at h
  split at h
  · rename_i hcode
    cases h
    refine ⟨_, ?_, .error hcode⟩
    rw [List.cons_append, List.cons_append, List.append_assoc, splitMark_append,
      List.takeWhile_append_dropWhile]
  · cases h

theorem spells_of_scanNamed (h : scanNamed cs = .ok (t, rest)) :
    ∃ s, '@' :: cs = s ++ rest ∧ Spells t s := by
  simp only [scanNamed] at h
  split at h
  · cases h
  · cases h
    refine ⟨_, ?_, .reference .named _⟩
    rw [List.cons_append, List.takeWhile_append_dropWhile]

theorem spells_of_scanLabel (h : scanLabel cs = .ok (t, rest)) :
    ∃ s, cs = s ++ rest ∧ Spells t s := by
  simp only [scanLabel] at h
  split at h
  · cases h
    exact ⟨_, List.takeWhile_append_dropWhile.symm, .reference .cell _⟩
  · split at h
    · cases h
    · cases h
      exact ⟨_, List.takeWhile_append_dropWhile.symm, .identifier _⟩

/-- What is cut off a text spells the token that it gives. -/
theorem spells_of_scan (h : scan cs = .ok (t, rest)) : ∃ s, cs = s ++ rest ∧ Spells t s := by
  cases cs with
  | nil => cases h
  | cons c cs =>
    simp only [scan] at h
    split at h
    · rename_i s hs
      cases h
      exact ⟨s.spelling, by rw [spelling_of_simpleSymbol? hs]; rfl, .symbol s⟩
    · split at h
      · rename_i hc
        cases h
        exact ⟨_, by rw [scanLess_append, hc], .symbol _⟩
      split at h
      · rename_i hc
        cases h
        exact ⟨_, by rw [scanGreater_append, hc], .symbol _⟩
      split at h
      · exact spells_of_scanString ‹_› h
      split at h
      · rename_i hc
        exact spells_of_scanNumber (hc.imp_right And.left) h
      split at h
      · rename_i hc
        exact hc ▸ spells_of_scanError h
      split at h
      · rename_i hc
        exact hc ▸ spells_of_scanNamed h
      split at h
      · exact spells_of_scanLabel h
      · cases h

end Scan

/-! ## All tokens of a text -/

theorem tokensOf_of_dropBlanks_nil {cs : List Char} (h : Text.dropBlanks cs = []) :
    tokensOf cs = .ok [] := by
  rw [tokensOf]
  split
  · rfl
  · rename_i hc _
    rw [h] at hc
    cases hc

theorem tokensOf_nil : tokensOf [] = .ok [] :=
  tokensOf_of_dropBlanks_nil rfl

theorem tokensOf_of_scan {cs after : List Char} {t : Token}
    (h : scan (Text.dropBlanks cs) = .ok (t, after)) :
    tokensOf cs = (tokensOf after).map (t :: ·) := by
  rw [tokensOf]
  split
  · rename_i hc _
    rw [hc] at h
    cases h
  · rename_i c rest hc _
    rw [hc] at h
    split
    · rename_i hs
      rw [h] at hs
      cases hs
    · rename_i hs
      rw [h] at hs
      cases hs
      rfl

/-- A text with tokens is blank, or gives its first token and then the others. -/
theorem tokensOf_eq_ok {cs : List Char} {ts : List Token} (h : tokensOf cs = .ok ts) :
    (Text.dropBlanks cs = [] ∧ ts = []) ∨
      ∃ t us after, scan (Text.dropBlanks cs) = .ok (t, after) ∧ tokensOf after = .ok us ∧
        ts = t :: us := by
  cases hs : scan (Text.dropBlanks cs) with
  | ok r =>
    obtain ⟨t, after⟩ := r
    rw [tokensOf_of_scan hs] at h
    cases hu : tokensOf after with
    | ok us =>
      rw [hu] at h
      cases h
      exact .inr ⟨t, us, after, rfl, hu, rfl⟩
    | error fault =>
      rw [hu] at h
      cases h
  | error fault =>
    rw [tokensOf] at h
    split at h
    · rename_i hc _
      cases h
      exact .inl ⟨hc, rfl⟩
    · rename_i hc _
      rw [hc] at hs
      split at h
      · cases h
      · rename_i ho
        rw [hs] at ho
        cases ho

theorem isBlank_of_mem_takeWhile {cs : List Char} :
    ∀ c ∈ cs.takeWhile Text.isBlank, Text.isBlank c := fun _ h =>
  List.mem_takeWhile_imp h

theorem written_of_tokensOf (ts : List Token) :
    ∀ cs, tokensOf cs = .ok ts → Written ts cs := by
  induction ts with
  | nil =>
    intro cs h
    rcases tokensOf_eq_ok h with ⟨blank, -⟩ | ⟨_, _, _, _, _, h⟩
    · have := Text.takeWhile_append_dropBlanks cs
      rw [blank, List.append_nil] at this
      exact .nil (this ▸ isBlank_of_mem_takeWhile)
    · cases h
  | cons t ts ih =>
    intro cs h
    rcases tokensOf_eq_ok h with ⟨-, h⟩ | ⟨_, _, after, scanned, rest, h⟩
    · cases h
    · cases h
      obtain ⟨s, cut, spells⟩ := spells_of_scan scanned
      have := length_scan_lt scanned
      have nonempty : s ≠ [] := by
        rintro rfl
        rw [cut] at this
        exact Nat.lt_irrefl _ this
      rw [← Text.takeWhile_append_dropBlanks cs, cut, ← List.append_assoc]
      exact .cons isBlank_of_mem_takeWhile spells nonempty (ih after rest)

theorem tokensOf_of_ofText {text : String} {ts : List Token} (h : ofText text = .ok ts) :
    tokensOf text.toList = .ok ts := by
  rw [ofText] at h
  cases read : tokensOf text.toList with
  | error fault =>
    rw [read] at h
    cases h
  | ok us =>
    rw [read] at h
    cases h
    rfl

theorem ofText_of_tokensOf {text : String} {ts : List Token} (h : tokensOf text.toList = .ok ts) :
    ofText text = .ok ts := by
  rw [ofText, h]

theorem ofText_of_tokensOf_error {text : String} {fault : FaultAt}
    (h : tokensOf text.toList = .error fault) :
    ofText text = .error (.lex (byteLength text.toList - byteLength fault.rest) fault.fault) := by
  rw [ofText, h]

/-- The tokens of a text are written in it. -/
theorem written_of_ofText {text : String} {ts : List Token} (h : ofText text = .ok ts) :
    Written ts text.toList :=
  written_of_tokensOf ts _ (tokensOf_of_ofText h)

/-! ## Texts without blanks -/

/-- A word of letters, or a symbol of one character that no other symbol starts with. -/
def Plain : Token → Prop
  | .identifier label => label ≠ "" ∧ ∀ c ∈ label.toList, c.isAlpha
  | .symbol s => ∃ c, simpleSymbol? c = some s
  | _ => False

/-- The characters of a plain token. -/
def spelled : Token → List Char
  | .identifier label => label.toList
  | .symbol s => s.spelling
  | _ => []

/-- Two tokens of which one is a symbol. -/
def Apart (t u : Token) : Prop :=
  (∃ s, t = .symbol s) ∨ ∃ s, u = .symbol s

theorem toNat_of_isAlpha {c : Char} (h : c.isAlpha) : 0x40 < c.toNat ∧ c.toNat < 0x80 := by
  have upperOrLower : c.isUpper ∨ c.isLower := Bool.or_eq_true_iff.1 h
  rcases upperOrLower with upper | lower
  · obtain ⟨low, high⟩ := of_decide_eq_true upper
    have low : 65 ≤ c.toNat := UInt32.le_iff_toNat_le.1 low
    have high : c.toNat ≤ 90 := UInt32.le_iff_toNat_le.1 high
    omega
  · obtain ⟨low, high⟩ := Bool.and_eq_true_iff.1 lower
    have low : 97 ≤ c.toNat := UInt32.le_iff_toNat_le.1 (of_decide_eq_true low)
    have high : c.toNat ≤ 122 := UInt32.le_iff_toNat_le.1 (of_decide_eq_true high)
    omega

theorem isBlank_of_isAlpha {c : Char} (h : c.isAlpha) : Text.isBlank c = false := by
  have := toNat_of_isAlpha h
  simp [Text.isBlank, Text.blankRanges, Text.CodeRanges.has]
  omega

theorem isDigit_of_isAlpha {c : Char} (h : c.isAlpha) : c.isDigit = false := by
  rw [Bool.eq_false_iff, ne_eq, Char.isDigit_iff_toNat]
  have := toNat_of_isAlpha h
  rintro ⟨-, high⟩
  have high : c.toNat ≤ 57 := high
  omega

theorem isLabelChar_of_isAlpha {c : Char} (h : c.isAlpha) : isLabelChar c = true := by
  simp [isLabelChar, isNameChar, Char.isAlphanum, h]

theorem not_isBlank_of_simpleSymbol? {c : Char} {s : Symbol} (h : simpleSymbol? c = some s) :
    Text.isBlank c = false ∧ isLabelChar c = false := by
  unfold simpleSymbol? at h
  split at h
  case h_16 => cases h
  all_goals exact ⟨by decide, by decide⟩

theorem scan_of_isAlpha {c : Char} (h : c.isAlpha) (cs : List Char) :
    scan (c :: cs) = scanLabel (c :: cs) := by
  have ne : ∀ d : Char, d.isAlpha = false → c ≠ d := by
    rintro d hd rfl
    rw [h] at hd
    cases hd
  have simple : simpleSymbol? c = none := by
    cases hs : simpleSymbol? c with
    | none => rfl
    | some s =>
      have := (not_isBlank_of_simpleSymbol? hs).2
      rw [isLabelChar_of_isAlpha h] at this
      cases this
  simp [scan, simple, ne, isDigit_of_isAlpha h, h]

/-- A word of letters is a name, whatever follows it. -/
theorem scanLabel_of_letters {label cs : List Char} (letters : ∀ c ∈ label, c.isAlpha)
    (ends : ∀ c ∈ cs.head?, isLabelChar c = false) :
    scanLabel (label ++ cs) = .ok (.identifier (String.ofList label), cs) := by
  have all : ∀ c ∈ label, isLabelChar c = true := fun c hc => isLabelChar_of_isAlpha (letters c hc)
  have take : cs.takeWhile isLabelChar = [] := by cases cs <;> simp_all
  have drop : cs.dropWhile isLabelChar = cs := by cases cs <;> simp_all
  have dollar : '$' ∉ label := fun h => by
    have := letters _ h
    revert this
    decide
  have noCell : isCellLabel label = false := by
    have whole : dropDollar label = label := by
      unfold dropDollar
      split
      · exact absurd (List.mem_cons_self ..) dollar
      · rfl
    rw [isCellLabel, whole, List.dropWhile_eq_nil_iff.2 letters]
    simp [dropDollar, startsWithDigit]
  simp [scanLabel, List.takeWhile_append_of_pos all, List.dropWhile_append_of_pos all, take, drop,
    noCell, dollar]

theorem tokensOf_symbol {c : Char} {s : Symbol} (h : simpleSymbol? c = some s) (cs : List Char) :
    tokensOf (c :: cs) = (tokensOf cs).map (.symbol s :: ·) := by
  refine tokensOf_of_scan ?_
  rw [Text.dropBlanks, List.dropWhile_cons_of_neg (by simp [not_isBlank_of_simpleSymbol? h])]
  simp [scan, h]

theorem tokensOf_letters {label cs : List Char} (nonempty : label ≠ [])
    (letters : ∀ c ∈ label, c.isAlpha) (ends : ∀ c ∈ cs.head?, isLabelChar c = false) :
    tokensOf (label ++ cs) = (tokensOf cs).map (.identifier (String.ofList label) :: ·) := by
  refine tokensOf_of_scan ?_
  cases label with
  | nil => exact absurd rfl nonempty
  | cons c label =>
    have first := letters c (List.mem_cons_self ..)
    rw [Text.dropBlanks, List.cons_append,
      List.dropWhile_cons_of_neg (by simp [isBlank_of_isAlpha first]), scan_of_isAlpha first,
      ← List.cons_append, scanLabel_of_letters letters ends]

theorem Plain.not_isBlank {t : Token} (h : t.Plain) : ∀ c ∈ t.spelled, Text.isBlank c = false := by
  cases t with
  | symbol s =>
    obtain ⟨c, hc⟩ := h
    rw [spelled, spelling_of_simpleSymbol? hc]
    simp [(not_isBlank_of_simpleSymbol? hc).1]
  | identifier label => exact fun c hc => isBlank_of_isAlpha (h.2 c hc)
  | number | string | error | reference => exact absurd h id

theorem Plain.spelled_eq_cons {t : Token} (h : t.Plain) (ne : t ≠ .symbol .equal) :
    ∃ c cs, t.spelled = c :: cs ∧ c ≠ '=' := by
  cases t with
  | symbol s =>
    obtain ⟨c, hc⟩ := h
    refine ⟨c, [], spelling_of_simpleSymbol? hc, ?_⟩
    rintro rfl
    cases hc
    exact ne rfl
  | identifier label =>
    cases hl : label.toList with
    | nil => exact absurd (String.toList_eq_nil_iff.1 hl) h.1
    | cons c cs =>
      refine ⟨c, cs, hl, ?_⟩
      rintro rfl
      exact absurd (h.2 '=' (hl ▸ List.mem_cons_self ..)) (by decide)
  | number | string | error | reference => exact absurd h id

theorem spelled_ne_equal {ts : List Token} (plain : ∀ t ∈ ts, t.Plain)
    (first : ts.head? ≠ some (.symbol .equal)) (cs : List Char) :
    ts.flatMap spelled ≠ '=' :: cs := by
  cases ts with
  | nil => simp
  | cons t ts =>
    obtain ⟨c, ds, hc, ne⟩ := (plain t (List.mem_cons_self ..)).spelled_eq_cons fun ht =>
      first (congrArg some ht)
    rw [List.flatMap_cons, hc, List.cons_append]
    intro h
    exact ne (List.cons.inj h).1

/-- Plain tokens need no blanks between them if no word follows another. -/
theorem tokensOf_spelled {ts : List Token} (plain : ∀ t ∈ ts, Plain t) (apart : ts.IsChain Apart) :
    tokensOf (ts.flatMap spelled) = .ok ts := by
  induction ts with
  | nil => exact tokensOf_nil
  | cons t ts ih =>
    have rest := ih (fun u hu => plain u (List.mem_cons_of_mem t hu)) apart.tail
    have head := plain t (List.mem_cons_self ..)
    rw [List.flatMap_cons]
    match t with
    | .symbol s =>
      obtain ⟨c, hc⟩ := head
      rw [spelled, spelling_of_simpleSymbol? hc, List.singleton_append, tokensOf_symbol hc, rest]
      rfl
    | .identifier label =>
      have ends : ∀ c ∈ (ts.flatMap spelled).head?, isLabelChar c = false := by
        cases ts with
        | nil => simp
        | cons u us =>
          rcases (List.isChain_cons_cons.1 apart).1 with ⟨_, hs⟩ | ⟨s, rfl⟩
          · cases hs
          · obtain ⟨c, hc⟩ := plain (.symbol s) (by simp)
            rw [List.flatMap_cons, spelled, spelling_of_simpleSymbol? hc]
            simp [(not_isBlank_of_simpleSymbol? hc).2]
      rw [spelled, tokensOf_letters (by simpa using head.1) head.2 ends, rest, String.ofList_toList]
      rfl

end Token

/-! ## Formulas -/

/-- The empty text is no formula. -/
theorem Formula.parse_empty (options : Options) :
    Formula.parse options "" = .error (.parse .emptyFormula) := by
  have whole : body options "" = "" := by
    unfold body
    cases options.leadingEquals <;> rfl
  have none : Token.ofText "" = .ok [] := by
    rw [Token.ofText, String.toList_empty, Token.tokensOf_nil]
  rw [parse, whole, none]
  rfl

theorem Formula.ne_empty_of_parse {options : Options} {text : String} {e : Expr}
    (h : parse options text = .ok e) : text ≠ "" := by
  rintro rfl
  rw [parse_empty] at h
  cases h

theorem Text.trimBlanks_of_no_blank {cs : List Char} (h : ∀ c ∈ cs, isBlank c = false) :
    trimBlanks cs = cs := by
  have first : dropBlanks cs = cs := dropBlanks_of_head? fun c hc => h c (List.mem_of_mem_head? hc)
  have last : dropBlanks cs.reverse = cs.reverse :=
    dropBlanks_of_head? fun c hc => h c (List.mem_reverse.1 (List.mem_of_mem_head? hc))
  rw [trimBlanks, first, last, List.reverse_reverse]

/-- The formula that spells out plain tokens has these tokens, if no `=` is in front. -/
theorem Formula.ofText_body_spelled (options : Options) {ts : List Token}
    (plain : ∀ t ∈ ts, t.Plain) (apart : ts.IsChain Token.Apart)
    (first : ts.head? ≠ some (.symbol .equal)) :
    Token.ofText (body options (String.ofList (ts.flatMap Token.spelled))) = .ok ts := by
  have noBlank : ∀ c ∈ ts.flatMap Token.spelled, Text.isBlank c = false := by
    intro c hc
    obtain ⟨t, ht, hc⟩ := List.mem_flatMap.1 hc
    exact (plain t ht).not_isBlank c hc
  have whole : body options (String.ofList (ts.flatMap Token.spelled)) =
      String.ofList (ts.flatMap Token.spelled) := by
    unfold body
    rw [String.toList_ofList, Text.trimBlanks_of_no_blank noBlank]
    split
    · rename_i cs _ hcs
      exact absurd hcs (Token.spelled_ne_equal plain first cs)
    · rfl
  rw [whole, Token.ofText, String.toList_ofList, Token.tokensOf_spelled plain apart]

end SheetFormula
