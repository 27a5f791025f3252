import SheetFormula.Proofs.Grammar.Acceptance
import SheetFormula.Proofs.Grammar.Neighbours
import SheetFormula.Proofs.Partition

/-!
# Blanks between tokens

In a formula that is well formed, blanks between two tokens may go: the shorter formula has the same
tokens and so the same tree (`Formula.parse_withoutGap`). The one exception are blanks between
`#N/A` and a `/`, without which the formula has an unknown error literal.

* `Token.Reads.exists_last`: the last of the tokens read from a text apart from the others, which
  are read alike whatever follows it.
* `Formula.Gap`: blanks between two tokens of the body of a formula, as between any two neighbours
  (`Formula.exists_gap`).
* `Formula.withBody`: a formula with another body.
-/

namespace SheetFormula

/-! ## Reading on before another text -/

namespace Token

open Grammar (Adjacent isComparison)

section Reads

variable {front rest : List Char} {t : Token} {ts : List Token}

theorem Reads.ne_nil (h : Reads front (ts ++ [t]) rest) : front ≠ [] := by
  generalize hts : ts ++ [t] = all at h
  cases h with
  | nil => simp at hts
  | cons blank scanned =>
    obtain ⟨c, cs, rfl, -, -⟩ := exists_cons_of_scan scanned
    simp

/-- The text after at least one token has no part in how the text before it starts. -/
theorem Reads.head?_append (h : Reads front (t :: ts) rest) (rest' : List Char) :
    (front ++ rest').head? = (front ++ rest).head? := by
  cases h with
  | cons blank scanned =>
    obtain ⟨c, cs, rfl, -, -⟩ := exists_cons_of_scan scanned
    simp [List.head?_append]

theorem Reads.opensCall_append (h : Reads front (t :: ts) rest) (rest' : List Char) :
    opensCall (front ++ rest') = opensCall (front ++ rest) := by
  cases h with
  | cons blank scanned =>
    simp only [opensCall, List.append_assoc, dropBlanks_of_scan blank scanned]
    obtain ⟨c, cs, rfl, -, -⟩ := exists_cons_of_scan scanned
    rfl

end Reads

theorem Scanned.isComparison {c : Char} {cs rest : List Char} {t : Token}
    (h : Scanned (c :: cs) t rest) (hc : c = '=' ∨ c = '>') : isComparison t = true := by
  rcases hc with rfl | rfl
  · cases h with
    | symbol simple =>
      cases simple
      rfl
    | string isQuote => exact absurd isQuote (by decide)
    | number first => exact absurd first (by simp)
    | cell first | name first => exact absurd first (by decide)
  · cases h with
    | symbol simple => cases simple
    | greater cs =>
      unfold scanGreater
      split <;> rfl
    | string isQuote => exact absurd isQuote (by decide)
    | number first => exact absurd first (by simp)
    | cell first | name first => exact absurd first (by decide)

/-- A token ends before its neighbour, but for `#N/A` before a `/`. -/
theorem endsBefore_of_adjacent {t u : Token} (adjacent : Adjacent t u) {blanks cs rest : List Char}
    {c : Char} (blank : ∀ c ∈ blanks, Text.isBlank c) (scanned : Scanned (c :: cs) u rest)
    (slash : t = .error .na → (blanks ++ c :: cs).head? ≠ some '/') :
    EndsBefore t (blanks ++ c :: cs) := by
  -- The first character after `t` is a blank, or the first one of `u`.
  have first : ∀ {P : Char → Prop}, (∀ d, Text.isBlank d → P d) → P c →
      ∀ d ∈ (blanks ++ c :: cs).head?, P d := by
    intro P ofBlank ofChar
    refine forall_head?_append (fun d hd => ofBlank d (blank d (List.mem_of_head? hd))) ?_
    rintro _ ⟨⟩
    exact ofChar
  have noComparison : isComparison t = true → c ≠ '=' ∧ c ≠ '>' := fun compared =>
    have other := adjacent.compared compared
    ⟨fun hc => by simp [scanned.isComparison (.inl hc)] at other,
      fun hc => by simp [scanned.isComparison (.inr hc)] at other⟩
  exact {
    word := fun word => first (fun d hd => by simp [isSeparator, hd]) <| by
      obtain ⟨s, rfl⟩ | ⟨s, rfl⟩ := adjacent.apart
      · exact absurd rfl (word s)
      · exact scanned.isSeparator
    slash := fun na d hd hslash => slash na (hslash ▸ hd)
    less := fun less => first (fun d hd => ⟨ne_of_class hd (by decide), ne_of_class hd (by decide)⟩)
      (noComparison (less ▸ rfl))
    greater := fun greater => first (fun d hd => ne_of_class hd (by decide))
      (noComparison (greater ▸ rfl)).1 }

section LastToken

variable {front rest : List Char} {t u : Token} {ts us : List Token}

/-- A token is read alike whatever follows its neighbour. -/
theorem Reads.scan_append {s : List Char} (neighbour : Reads front (u :: us) rest)
    (adjacent : Adjacent t u) (scanned : scan (s ++ (front ++ rest)) = .ok (t, front ++ rest))
    (rest' : List Char) : scan (s ++ (front ++ rest')) = .ok (t, front ++ rest') := by
  refine scan_of_endsBefore scanned ?_ (neighbour.opensCall_append rest')
  refine EndsBefore.of_head?_eq ?_ (neighbour.head?_append rest')
  have slash : t = .error .na → (front ++ rest).head? ≠ some '/' := by
    rintro rfl hslash
    obtain ⟨_, -, -, stop, -⟩ := na_of_scan scanned
    exact absurd (stop '/' hslash).1 (by decide)
  cases neighbour with
  | cons blank scanned' =>
    obtain ⟨c, cs, rfl, -, first⟩ := exists_cons_of_scan scanned'
    simp only [List.append_assoc, List.cons_append] at slash ⊢
    exact endsBefore_of_adjacent adjacent blank first slash

/-- The tokens before the last one are read alike whatever follows that one. -/
theorem Reads.exists_last (h : Reads front (ts ++ [t]) rest)
    (adjacent : (ts ++ [t]).IsChain Adjacent) :
    ∃ start blanks s, front = start ++ (blanks ++ s) ∧ (∀ c ∈ blanks, Text.isBlank c) ∧
      scan (s ++ rest) = .ok (t, rest) ∧ ∀ rest', Reads start ts (blanks ++ (s ++ rest')) := by
  -- Each token has a neighbour here, and all it depends on is how that one starts.
  induction ts generalizing front with
  | nil =>
    cases h with
    | cons blank scanned nothing =>
      cases nothing
      exact ⟨[], _, _, by simp, blank, scanned, fun _ => .nil _⟩
  | cons u us ih =>
    cases h with
    | @cons blanks s front _ _ _ blank scanned reads =>
      obtain ⟨v, vs, next⟩ : ∃ v vs, us ++ [t] = v :: vs := by cases us <;> simp
      have between : Adjacent u v := by
        rw [List.cons_append, next, List.isChain_cons_cons] at adjacent
        exact adjacent.1
      have neighbour : Reads front (v :: vs) rest := by
        rw [← next]
        exact reads
      have alike := neighbour.scan_append between scanned
      obtain ⟨start, blanks', s', rfl, blank', last, others⟩ := ih reads adjacent.tail
      refine ⟨blanks ++ (s ++ start), blanks', s', by simp, blank', last, fun rest' => ?_⟩
      refine .cons blank ?_ (others rest')
      simpa using alike rest'

theorem Reads.concat {start blanks s : List Char} (h : Reads start ts (blanks ++ (s ++ rest)))
    (blank : ∀ c ∈ blanks, Text.isBlank c) (scanned : scan (s ++ rest) = .ok (t, rest)) :
    Reads (start ++ (blanks ++ s)) (ts ++ [t]) rest := by
  generalize hr : blanks ++ (s ++ rest) = after at h
  induction h with
  | nil =>
    have last : Reads (blanks ++ (s ++ [])) [t] rest :=
      .cons blank (by simpa using scanned) (.nil rest)
    simpa using last
  | @cons blanks' s' front _ _ _ blank' scanned' _ ih =>
    subst hr
    have next := ih rfl
    simp only [List.append_assoc] at next ⊢
    refine .cons blank' ?_ next
    simpa using scanned'

end LastToken

/-! ## Without the blanks between two tokens -/

section WithoutGap

variable {front blanks back rest : List Char} {t u : Token} {ts us : List Token}

theorem endsBefore_of_scan (adjacent : Adjacent t u)
    (after : scan (Text.dropBlanks back) = .ok (u, rest))
    (slash : t = .error .na → back.head? ≠ some '/') : EndsBefore t back := by
  have cut := Text.takeWhile_append_dropBlanks back
  cases first : Text.dropBlanks back with
  | nil =>
    rw [first] at after
    cases after
  | cons c cs =>
    rw [first] at after cut
    rw [← cut] at slash ⊢
    exact endsBefore_of_adjacent adjacent isBlank_of_mem_takeWhile (scanned_of_scan after) slash

theorem tokensOf_gap (blank : ∀ c ∈ blanks, Text.isBlank c)
    (before : Reads front (ts ++ [t]) (blanks ++ back))
    (after : scan (Text.dropBlanks back) = .ok (u, rest)) :
    tokensOf (front ++ (blanks ++ back)) = (tokensOf rest).map (ts ++ t :: u :: ·) := by
  rw [← Text.dropBlanks_append blank] at after
  rw [tokensOf_of_reads before, tokensOf_of_scan after]
  cases tokensOf rest <;> simp [Except.map]

theorem exists_of_tokensOf_gap {all : List Token} (blank : ∀ c ∈ blanks, Text.isBlank c)
    (before : Reads front (ts ++ [t]) (blanks ++ back))
    (after : scan (Text.dropBlanks back) = .ok (u, rest))
    (h : tokensOf (front ++ (blanks ++ back)) = .ok all) : ∃ us, all = ts ++ t :: u :: us := by
  rw [tokensOf_gap blank before after] at h
  cases others : tokensOf rest with
  | error fault =>
    rw [others] at h
    cases h
  | ok us =>
    rw [others] at h
    exact ⟨us, (Except.ok.inj h).symm⟩

/-- Without the blanks between two neighbours the tokens are the same, but for `#N/A` and a `/`. -/
theorem tokensOf_withoutGap (blank : ∀ c ∈ blanks, Text.isBlank c)
    (before : Reads front (ts ++ [t]) (blanks ++ back))
    (after : scan (Text.dropBlanks back) = .ok (u, rest))
    (adjacent : (ts ++ t :: u :: us).IsChain Adjacent)
    (slash : t = .error .na → back.head? ≠ some '/') :
    tokensOf (front ++ back) = tokensOf (front ++ (blanks ++ back)) := by
  rw [List.append_cons, List.isChain_append] at adjacent
  obtain ⟨chain, -, between⟩ := adjacent
  have ends : EndsBefore t back :=
    endsBefore_of_scan (between t List.getLast?_concat u rfl) after slash
  have call : opensCall back = opensCall (blanks ++ back) := by
    rw [opensCall, opensCall, Text.dropBlanks_append blank]
  rw [tokensOf_gap blank before after]
  obtain ⟨start, blanks', s, rfl, blank', scanned, others⟩ := before.exists_last chain
  have alike := (others back).concat blank' (scan_of_endsBefore scanned ends call)
  show tokensOf (start ++ (blanks' ++ s) ++ ([] ++ back)) = _
  exact tokensOf_gap (List.forall_mem_nil _) alike after

/-- Without the blanks between `#N/A` and a `/` there is an unknown error literal. -/
theorem tokensOf_na_slash (before : Reads front (ts ++ [Token.error .na]) (blanks ++ back))
    (adjacent : (ts ++ [Token.error .na]).IsChain Adjacent) (slash : back.head? = some '/') :
    ∃ text after, tokensOf (front ++ back) = .error ⟨.unknownError text, after⟩ := by
  obtain ⟨more, rfl⟩ := List.head?_eq_some_iff.1 slash
  obtain ⟨start, blanks', s, rfl, blank, scanned, others⟩ := before.exists_last adjacent
  obtain ⟨text, fault⟩ := scan_na_slash scanned more
  have failed : tokensOf (blanks' ++ (s ++ '/' :: more)) =
      .error ⟨.unknownError text, s ++ '/' :: more⟩ :=
    tokensOf_of_fault (dropBlanks_of_scan blank scanned _) (by simp) fault
  refine ⟨text, s ++ '/' :: more, ?_⟩
  rw [List.append_assoc, List.append_assoc, tokensOf_of_reads (others _), failed]
  rfl

end WithoutGap

end Token

/-! ## Formulas -/

namespace Formula

open Grammar (Phrase)

variable {options : Options} {text : String} {cs : List Char}

/-- The `=` that the text of a formula starts with, if it may. -/
def equalsSign (options : Options) (cs : List Char) : List Char :=
  if options.leadingEquals ∧ cs.head? = some '=' then ['='] else []

/-- A formula with another body, and with the blanks and the `=` around the body as they are. -/
def withBody (options : Options) (text : String) (cs : List Char) : String :=
  String.ofList (text.toList.takeWhile Text.isBlank ++
    ((equalsSign options (Text.trimBlanks text.toList) ++ cs) ++ Text.blanksAfter text.toList))

theorem exists_equalsSign_append (options : Options) (cs : List Char) :
    ∃ after, equalsSign options cs ++ after = cs := by
  unfold equalsSign
  split
  · rename_i starts
    obtain ⟨after, rfl⟩ := List.head?_eq_some_iff.1 starts.2
    exact ⟨after, rfl⟩
  · exact ⟨cs, rfl⟩

theorem body_of_trimBlanks
    (h : Text.trimBlanks text.toList = equalsSign options (Text.trimBlanks text.toList) ++ cs) :
    body options text = String.ofList cs := by
  unfold equalsSign at h
  unfold body
  split at h
  · rename_i starts
    rw [h, starts.1]
    rfl
  · rename_i other
    rw [List.nil_append] at h
    rw [h] at other ⊢
    split
    · exact absurd ⟨‹_›, rfl⟩ other
    · rfl

theorem equalsSign_append_body (options : Options) (text : String) :
    equalsSign options (Text.trimBlanks text.toList) ++ (body options text).toList =
      Text.trimBlanks text.toList := by
  obtain ⟨after, h⟩ := exists_equalsSign_append options (Text.trimBlanks text.toList)
  rw [body_of_trimBlanks h.symm, String.toList_ofList, h]

theorem withBody_body : withBody options text (body options text).toList = text := by
  rw [withBody, equalsSign_append_body, Text.trimBlanks_append_blanksAfter,
    Text.takeWhile_append_dropBlanks, String.ofList_toList]

/-- A text that starts and ends like the body of a formula may take its place. -/
theorem body_withBody (nonempty : cs ≠ []) (first : cs.head? = (body options text).toList.head?)
    (last : cs.getLast? = (body options text).toList.getLast?) :
    body options (withBody options text cs) = String.ofList cs := by
  have whole := equalsSign_append_body options text
  have sameFirst : (equalsSign options (Text.trimBlanks text.toList) ++ cs).head? =
      (Text.trimBlanks text.toList).head? := by
    rw [← congrArg List.head? whole, List.head?_append, List.head?_append, first]
  have sameLast : (equalsSign options (Text.trimBlanks text.toList) ++ cs).getLast? =
      (Text.trimBlanks text.toList).getLast? := by
    rw [← congrArg List.getLast? whole, List.getLast?_append, List.getLast?_append, last]
  have trimmed : Text.trimBlanks (withBody options text cs).toList =
      equalsSign options (Text.trimBlanks text.toList) ++ cs := by
    rw [withBody, String.toList_ofList]
    refine Text.trimBlanks_append Token.isBlank_of_mem_takeWhile Text.isBlank_of_mem_blanksAfter
      (by simp [nonempty]) ?_ ?_
    · rw [sameFirst]
      exact Text.head?_trimBlanks _
    · rw [sameLast]
      exact Text.getLast?_trimBlanks _
  refine body_of_trimBlanks ?_
  rw [trimmed]
  congr 1
  unfold equalsSign at sameFirst ⊢
  rw [sameFirst]

/-- The tokens `t` and `u` follow each other in the body of a formula, and `blanks` stand between
them, right after the first. -/
structure Gap (options : Options) (text : String) (front blanks back : List Char) (t u : Token) :
    Prop where
  body : (body options text).toList = front ++ (blanks ++ back)
  blank : ∀ c ∈ blanks, Text.isBlank c
  before : ∃ ts, Token.Reads front (ts ++ [t]) (blanks ++ back)
  after : ∃ rest, Token.scan (Text.dropBlanks back) = .ok (u, rest)

section Gap

variable {front blanks back : List Char} {t u : Token} {e : Expr}

/-- All the blanks between two tokens are a gap. -/
theorem exists_gap {ts us : List Token}
    (tokens : Token.ofText (body options text) = .ok (ts ++ t :: u :: us)) :
    ∃ front blanks back, Gap options text front blanks back t u ∧
      ∀ c ∈ back.head?, Text.isBlank c = false := by
  have read := Token.tokensOf_of_ofText tokens
  rw [List.append_cons] at read
  obtain ⟨front, rest, whole, before, others⟩ := Token.exists_reads read
  rcases Token.tokensOf_eq_ok others with ⟨-, none⟩ | ⟨_, _, after, scanned, -, same⟩
  · cases none
  · cases same
    have cut := Text.takeWhile_append_dropBlanks rest
    rw [← cut] at whole before
    refine ⟨front, rest.takeWhile Text.isBlank, Text.dropBlanks rest,
      ⟨whole, Token.isBlank_of_mem_takeWhile, ⟨ts, before⟩, after, ?_⟩, Text.head?_dropBlanks rest⟩
    rw [Text.dropBlanks_of_head? (Text.head?_dropBlanks rest), scanned]

theorem Gap.body_withoutGap (gap : Gap options text front blanks back t u) :
    Formula.body options (withBody options text (front ++ back)) =
      String.ofList (front ++ back) := by
  obtain ⟨ts, before⟩ := gap.before
  obtain ⟨rest, after⟩ := gap.after
  have frontNonempty : front ≠ [] := before.ne_nil
  have backNonempty : back ≠ [] := by
    rintro rfl
    cases after
  apply body_withBody
  · simp [backNonempty]
  · rw [gap.body, List.head?_append_of_ne_nil _ frontNonempty,
      List.head?_append_of_ne_nil _ frontNonempty]
  · rw [gap.body, ← List.append_assoc, List.getLast?_append_of_ne_nil _ backNonempty,
      List.getLast?_append_of_ne_nil _ backNonempty]

/-- Without blanks between two of its tokens a formula has the same tree. The one exception are
blanks between `#N/A` and a `/`: without them the formula has an unknown error literal. -/
theorem parse_withoutGap (parsed : parse options text = .ok e)
    (gap : Gap options text front blanks back t u) :
    withBody options text (front ++ (blanks ++ back)) = text ∧ Token.Apart t u ∧
      (¬(t = .error .na ∧ back.head? = some '/') →
        parse options (withBody options text (front ++ back)) = .ok e) ∧
      (t = .error .na ∧ back.head? = some '/' →
        ∃ offset literal, parse options (withBody options text (front ++ back)) =
          .error (.lex offset (.unknownError literal))) := by
  obtain ⟨p, tokens, rfl, fits⟩ := Grammar.parse_eq_ok_iff.1 parsed
  obtain ⟨ts, before⟩ := gap.before
  obtain ⟨rest, after⟩ := gap.after
  have whole := Token.tokensOf_of_ofText tokens
  rw [gap.body] at whole
  obtain ⟨us, read⟩ := Token.exists_of_tokensOf_gap gap.blank before after whole
  have adjacent := p.tokens_adjacent
  rw [read] at adjacent
  refine ⟨?_, ?_, fun other => ?_, fun ⟨na, slash⟩ => ?_⟩
  · rw [← gap.body, withBody_body]
  · exact (List.isChain_cons_cons.1 (List.isChain_append.1 adjacent).2.1).1.apart
  · refine Grammar.parse_eq_ok_iff.2 ⟨p, ?_, rfl, fits⟩
    rw [gap.body_withoutGap, Token.ofText, String.toList_ofList,
      Token.tokensOf_withoutGap gap.blank before after adjacent fun na slash => other ⟨na, slash⟩,
      whole]
  · subst na
    rw [List.append_cons, List.isChain_append] at adjacent
    obtain ⟨literal, spoiled, fault⟩ := Token.tokensOf_na_slash before adjacent.1 slash
    rw [parse, gap.body_withoutGap, Token.ofText, String.toList_ofList, fault]
    exact ⟨_, literal, rfl⟩

/-- A function named like a cell may stand away from its parenthesis. -/
theorem parse_withoutGap_call :
    let e := .call "LOG10" [.name "x"]
    parse {} "LOG10 (x)" = .ok e ∧
      Gap {} "LOG10 (x)" "LOG10".toList [' '] "(x)".toList (.identifier "LOG10")
        (.symbol .leftParen) ∧
      parse {} (withBody {} "LOG10 (x)" "LOG10(x)".toList) = .ok e := by
  intro e
  have space : ∀ c ∈ [' '], Text.isBlank c := List.forall_mem_singleton.2 (by decide)
  have parsed : parse {} "LOG10 (x)" = .ok e := by
    let atom (p : Phrase .primary) : Phrase .expression :=
      .ofSum (.first (.term (.base (.atom p))))
    have reads : Token.Reads (body {} "LOG10 (x)").toList
        (atom (.call "LOG10" (.lastArgument (atom (.name "x"))))).tokens [] :=
      .cons (s := "LOG10".toList) (List.forall_mem_nil _) rfl
        (.cons (s := ['(']) space rfl (.cons (s := ['x']) (List.forall_mem_nil _) rfl
          (.cons (s := [')']) (List.forall_mem_nil _) rfl (.nil []))))
    exact Grammar.parse_eq_ok_iff.2 ⟨_, Token.ofText_of_reads reads, rfl, by decide⟩
  have gap : Gap {} "LOG10 (x)" "LOG10".toList [' '] "(x)".toList (.identifier "LOG10")
      (.symbol .leftParen) :=
    ⟨rfl, space, ⟨[], .cons (s := "LOG10".toList) (List.forall_mem_nil _) rfl (.nil _)⟩,
      "x)".toList, rfl⟩
  exact ⟨parsed, gap, (parse_withoutGap parsed gap).2.2.1 (by simp)⟩

/-- Blanks between `#N/A` and a `/` may not go, though the tokens are apart. -/
theorem parse_na_slash :
    parse {} "#N/A /x" = .ok (.binary .divide (.error .na) (.name "x")) ∧
      Gap {} "#N/A /x" "#N/A".toList [' '] "/x".toList (.error .na) (.symbol .slash) ∧
      Token.Apart (.error .na) (.symbol .slash) ∧
      parse {} (withBody {} "#N/A /x" "#N/A/x".toList) =
        .error (.lex 0 (.unknownError "#N/A/x")) := by
  have space : ∀ c ∈ [' '], Text.isBlank c := List.forall_mem_singleton.2 (by decide)
  refine ⟨?_, ?_, .inr ⟨.slash, rfl⟩, ?_⟩
  · let product : Phrase (.chain .product) :=
      .binary (.first (.factor (.base (.atom (.error .na))))) .slash .divide (by decide)
        (.factor (.base (.atom (.name "x"))))
    have reads : Token.Reads (body {} "#N/A /x").toList
        (Phrase.ofSum (.first (.product product))).tokens [] :=
      .cons (s := "#N/A".toList) (List.forall_mem_nil _) rfl
        (.cons (s := ['/']) space rfl (.cons (s := ['x']) (List.forall_mem_nil _) rfl (.nil [])))
    exact Grammar.parse_eq_ok_iff.2 ⟨_, Token.ofText_of_reads reads, rfl, by decide⟩
  · exact ⟨rfl, space, ⟨[], .cons (s := "#N/A".toList) (List.forall_mem_nil _) rfl (.nil _)⟩,
      ['x'], rfl⟩
  · have fault : Token.tokensOf "#N/A/x".toList =
        .error ⟨.unknownError "#N/A/x", "#N/A/x".toList⟩ :=
      Token.tokensOf_of_fault rfl (by decide) rfl
    have same : body {} (withBody {} "#N/A /x" "#N/A/x".toList) = "#N/A/x" := rfl
    rw [parse, same, Token.ofText, fault]
    rfl

end Gap

end Formula

end SheetFormula
