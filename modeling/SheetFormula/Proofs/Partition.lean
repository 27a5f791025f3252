import SheetFormula.Proofs.Boundary

/-!
# Texts and their tokens

The tokens of a text part it: it is their spellings, one after the other, with blanks around them.
A text without tokens has its fault at the first character that starts none: the text before it has
the tokens that were found, and the text from it on has the same fault at once
(`Token.ofText_partition`). More blanks between two tokens do not change any
(`Token.ofText_withBlanks`).

* `Token.Reads front ts rest`: the tokens `ts` are read from `front` if `rest` follows.
* `Token.ReadUpTo front ts back`: likewise, and blanks may be left of `front` before `back`.
-/

namespace SheetFormula.Token

/-! ## Tokens from the first part of a text -/

/-- The tokens `ts` are read one after the other from `front` if `rest` follows, and the last of
them ends where `front` does. -/
inductive Reads : List Char → List Token → List Char → Prop where
  | nil (rest : List Char) : Reads [] [] rest
  | cons {blanks s front rest : List Char} {t : Token} {ts : List Token}
      (blank : ∀ c ∈ blanks, Text.isBlank c)
      (scanned : scan (s ++ (front ++ rest)) = .ok (t, front ++ rest))
      (reads : Reads front ts rest) : Reads (blanks ++ (s ++ front)) (t :: ts) rest

/-- A token starts with a character that is not blank. -/
theorem exists_cons_of_scan {s rest : List Char} {t : Token}
    (h : scan (s ++ rest) = .ok (t, rest)) :
    ∃ c cs, s = c :: cs ∧ Text.isBlank c = false ∧ Scanned (c :: (cs ++ rest)) t rest := by
  cases s with
  | nil => exact absurd (length_scan_lt h) (Nat.lt_irrefl _)
  | cons c cs =>
    have scanned := scanned_of_scan h
    exact ⟨c, cs, rfl, scanned.not_isBlank, scanned⟩

theorem dropBlanks_of_scan {blanks s rest : List Char} {t : Token}
    (blank : ∀ c ∈ blanks, Text.isBlank c) (h : scan (s ++ rest) = .ok (t, rest))
    (rest' : List Char) : Text.dropBlanks (blanks ++ (s ++ rest')) = s ++ rest' := by
  obtain ⟨c, cs, rfl, notBlank, -⟩ := exists_cons_of_scan h
  rw [Text.dropBlanks_append blank, Text.dropBlanks, List.cons_append,
    List.dropWhile_cons_of_neg (by simp [notBlank])]

section Reads

variable {front rest rest' : List Char} {t : Token} {ts : List Token}

theorem tokensOf_of_reads (h : Reads front ts rest) :
    tokensOf (front ++ rest) = (tokensOf rest).map (ts ++ ·) := by
  induction h with
  | nil rest => cases h : tokensOf rest <;> simp [Except.map, h]
  | @cons blanks s front rest t ts blank scanned _ ih =>
    have first : scan (Text.dropBlanks (blanks ++ (s ++ front) ++ rest)) =
        .ok (t, front ++ rest) := by
      rw [List.append_assoc, List.append_assoc, dropBlanks_of_scan blank scanned, scanned]
    rw [tokensOf_of_scan first, ih]
    cases tokensOf rest <;> rfl

/-- All tokens of a text are read from it. -/
theorem exists_reads {cs : List Char} {us : List Token} (h : tokensOf cs = .ok (ts ++ us)) :
    ∃ front rest, cs = front ++ rest ∧ Reads front ts rest ∧ tokensOf rest = .ok us := by
  induction ts generalizing cs with
  | nil => exact ⟨[], cs, rfl, .nil cs, h⟩
  | cons t ts ih =>
    rcases tokensOf_eq_ok h with ⟨-, none⟩ | ⟨_, _, after, scanned, others, same⟩
    · cases none
    · cases same
      obtain ⟨s, cut, -⟩ := spells_of_scan scanned
      obtain ⟨front, rest, rfl, reads, last⟩ := ih others
      rw [cut] at scanned
      refine ⟨cs.takeWhile Text.isBlank ++ (s ++ front), rest, ?_,
        .cons isBlank_of_mem_takeWhile scanned reads, last⟩
      rw [List.append_assoc, List.append_assoc, ← cut, Text.takeWhile_append_dropBlanks]

theorem ofText_of_reads {text : String} (h : Reads text.toList ts []) : ofText text = .ok ts := by
  have read := tokensOf_of_reads h
  rw [List.append_nil, tokensOf_nil] at read
  exact ofText_of_tokensOf (by simpa [Except.map] using read)

/-- Tokens are read alike before a text that breaks off. -/
theorem Reads.of_break (h : Reads front ts rest) (blank : ∀ c ∈ rest'.head?, Text.isBlank c)
    (call : opensCall rest' = opensCall rest) : Reads front ts rest' := by
  induction h with
  | nil => exact .nil rest'
  | cons blanks scanned _ ih =>
    exact .cons blanks (scan_of_endsAlso scanned (.of_break blank call)) (ih call)

end Reads

/-! ## Places between tokens -/

/-- In the text of `front` and `back` the tokens `ts` are read from `front`, and what is left of it
is blank: it ends between two tokens, before the first or after the last. -/
def ReadUpTo (front : List Char) (ts : List Token) (back : List Char) : Prop :=
  ∃ read blanks, front = read ++ blanks ∧ (∀ c ∈ blanks, Text.isBlank c) ∧
    Reads read ts (blanks ++ back)

theorem tokensOf_of_fault {cs after : List Char} {fault : LexFault}
    (start : Text.dropBlanks cs = after) (nonempty : after ≠ [])
    (h : scan after = .error fault) : tokensOf cs = .error ⟨fault, after⟩ := by
  rw [tokensOf]
  split
  · rename_i first _
    exact absurd (start ▸ first) nonempty
  · rename_i first _
    obtain rfl := start.symm.trans first
    split
    · rename_i failed
      rw [h] at failed
      cases failed
      rfl
    · rename_i read
      rw [h] at read
      cases read

section ReadUpTo

variable {front back back' cs : List Char} {t : Token} {ts us : List Token}

theorem tokensOf_of_dropBlanks_eq {ds : List Char} (h : Text.dropBlanks cs = Text.dropBlanks ds) :
    tokensOf cs = tokensOf ds := by
  cases first : Text.dropBlanks ds with
  | nil => rw [tokensOf_of_dropBlanks_nil (h.trans first), tokensOf_of_dropBlanks_nil first]
  | cons c rest =>
    cases scanned : scan (c :: rest) with
    | ok r =>
      rw [← first] at scanned
      rw [tokensOf_of_scan (h.symm ▸ scanned), tokensOf_of_scan scanned]
    | error fault =>
      rw [tokensOf_of_fault (h.trans first) (List.cons_ne_nil c rest) scanned,
        tokensOf_of_fault first (List.cons_ne_nil c rest) scanned]

theorem ReadUpTo.tokensOf_append (h : ReadUpTo front ts back) :
    tokensOf (front ++ back) = (tokensOf back).map (ts ++ ·) := by
  obtain ⟨read, blanks, rfl, blank, reads⟩ := h
  rw [List.append_assoc, tokensOf_of_reads reads,
    tokensOf_of_dropBlanks_eq (Text.dropBlanks_append blank)]

theorem exists_readUpTo (h : tokensOf cs = .ok (ts ++ us)) :
    ∃ front back, cs = front ++ back ∧ ReadUpTo front ts back := by
  obtain ⟨front, back, rfl, reads, -⟩ := exists_reads h
  exact ⟨front, back, rfl, front, [], (List.append_nil front).symm, nofun, reads⟩

theorem ReadUpTo.cons {blanks s : List Char} (blank : ∀ c ∈ blanks, Text.isBlank c)
    (scanned : scan (s ++ (front ++ back)) = .ok (t, front ++ back))
    (h : ReadUpTo front ts back) : ReadUpTo (blanks ++ (s ++ front)) (t :: ts) back := by
  obtain ⟨read, blanks', rfl, blank', reads⟩ := h
  rw [List.append_assoc] at scanned
  exact ⟨blanks ++ (s ++ read), blanks', by simp, blank', .cons blank scanned reads⟩

theorem ReadUpTo.of_break (h : ReadUpTo front ts back) (blank : ∀ c ∈ back'.head?, Text.isBlank c)
    (call : opensCall back' = opensCall back) : ReadUpTo front ts back' := by
  obtain ⟨read, blanks, rfl, blank', reads⟩ := h
  refine ⟨read, blanks, rfl, blank', reads.of_break ?_ ?_⟩
  · exact forall_head?_append (fun c hc => blank' c (List.mem_of_mem_head? hc)) blank
  · simpa only [opensCall, Text.dropBlanks_append blank'] using call

/-- More blanks at a place between tokens change no token. -/
theorem ReadUpTo.tokensOf_withBlanks {blanks : List Char} (h : ReadUpTo front ts back)
    (blank : ∀ c ∈ blanks, Text.isBlank c) :
    tokensOf (front ++ (blanks ++ back)) = tokensOf (front ++ back) := by
  cases blanks with
  | nil => rfl
  | cons b blanks =>
    have starts : ∀ c ∈ (b :: blanks ++ back).head?, Text.isBlank c := by
      rintro _ ⟨⟩
      exact blank b (List.mem_cons_self ..)
    have call : opensCall (b :: blanks ++ back) = opensCall back := by
      rw [opensCall, opensCall, Text.dropBlanks_append blank]
    rw [(h.of_break starts call).tokensOf_append, h.tokensOf_append,
      tokensOf_of_dropBlanks_eq (Text.dropBlanks_append blank)]

end ReadUpTo

/-! ## More blanks between tokens -/

/-- At every place between two tokens, before the first and after the last there may be more blanks:
the tokens stay the same. -/
theorem ofText_withBlanks {text : String} {ts us : List Token}
    (tokens : ofText text = .ok (ts ++ us)) :
    (∃ front back : String, text = front ++ back ∧ ReadUpTo front.toList ts back.toList) ∧
      ∀ front back blanks : String, text = front ++ back →
        ReadUpTo front.toList ts back.toList → (∀ c ∈ blanks.toList, Text.isBlank c) →
          ofText (front ++ blanks ++ back) = .ok (ts ++ us) := by
  have read := tokensOf_of_ofText tokens
  constructor
  · obtain ⟨front, back, whole, upTo⟩ := exists_readUpTo read
    refine ⟨String.ofList front, String.ofList back, ?_, ?_⟩
    · rw [← String.ofList_append, ← whole, String.ofList_toList]
    · rwa [String.toList_ofList, String.toList_ofList]
  · rintro front back blanks rfl upTo blank
    refine ofText_of_tokensOf ?_
    rw [String.toList_append] at read
    rw [String.toList_append, String.toList_append, List.append_assoc,
      upTo.tokensOf_withBlanks blank, read]

/-- A function named like a cell stays one if its parenthesis is on the next line. -/
theorem ofText_withBlanks_call :
    let ts : List Token := [.identifier "LOG10"]
    let us : List Token := [.symbol .leftParen, .identifier "x", .symbol .rightParen]
    ofText "LOG10(x)" = .ok (ts ++ us) ∧ ReadUpTo "LOG10".toList ts "(x)".toList ∧
      ofText ("LOG10" ++ " \n" ++ "(x)") = .ok (ts ++ us) := by
  intro ts us
  have reads : Reads "LOG10(x)".toList (ts ++ us) [] :=
    .cons (s := "LOG10".toList) (List.forall_mem_nil _) rfl
      (.cons (s := ['(']) (List.forall_mem_nil _) rfl
        (.cons (s := ['x']) (List.forall_mem_nil _) rfl
          (.cons (s := [')']) (List.forall_mem_nil _) rfl (.nil []))))
  have upTo : ReadUpTo "LOG10".toList ts "(x)".toList :=
    ⟨"LOG10".toList, [], rfl, nofun,
      .cons (s := "LOG10".toList) (List.forall_mem_nil _) rfl (.nil _)⟩
  have blank : ∀ c ∈ " \n".toList, Text.isBlank c :=
    List.forall_mem_cons.2 ⟨by decide, List.forall_mem_singleton.2 (by decide)⟩
  have tokens := ofText_of_reads reads
  exact ⟨tokens, upTo, (ofText_withBlanks tokens).2 "LOG10" "(x)" " \n" rfl upTo blank⟩

/-! ## The first fault of a text -/

theorem byteLength_append (cs ds : List Char) :
    byteLength (cs ++ ds) = byteLength cs + byteLength ds := by
  induction cs with
  | nil => rw [List.nil_append, byteLength, Nat.zero_add]
  | cons c cs ih => rw [List.cons_append, byteLength, byteLength, ih, Nat.add_assoc]

theorem byteLength_eq (cs : List Char) : byteLength cs = (String.ofList cs).utf8ByteSize := by
  induction cs with
  | nil => rfl
  | cons c cs ih =>
    have one : String.ofList (c :: cs) = String.singleton c ++ String.ofList cs := by
      rw [String.singleton_eq_ofList, ← String.ofList_append, List.singleton_append]
    rw [byteLength, ih, one, String.utf8ByteSize_append, String.utf8ByteSize_singleton]

section Fault

variable {cs : List Char} {fault : FaultAt}

/-- A text with a fault starts with it, or gives a token and then the fault. -/
theorem tokensOf_eq_error (h : tokensOf cs = .error fault) :
    (Text.dropBlanks cs = fault.rest ∧ fault.rest ≠ [] ∧ scan fault.rest = .error fault.fault) ∨
      ∃ t after, scan (Text.dropBlanks cs) = .ok (t, after) ∧ tokensOf after = .error fault := by
  cases first : Text.dropBlanks cs with
  | nil =>
    rw [tokensOf_of_dropBlanks_nil first] at h
    cases h
  | cons c rest =>
    cases scanned : scan (c :: rest) with
    | error found =>
      rw [tokensOf_of_fault first (List.cons_ne_nil c rest) scanned] at h
      cases h
      exact .inl ⟨rfl, List.cons_ne_nil c rest, scanned⟩
    | ok r =>
      obtain ⟨t, after⟩ := r
      rw [tokensOf_of_scan (first ▸ scanned)] at h
      cases others : tokensOf after with
      | ok ts =>
        rw [others] at h
        cases h
      | error found =>
        rw [others] at h
        cases h
        exact .inr ⟨t, after, rfl, others⟩

/-- Up to its fault a text is read, and there is a character there, not blank, that starts no
token. -/
theorem exists_of_tokensOf_error (h : tokensOf cs = .error fault) :
    ∃ front ts, cs = front ++ fault.rest ∧ ReadUpTo front ts fault.rest ∧ fault.rest ≠ [] ∧
      Text.dropBlanks fault.rest = fault.rest ∧ scan fault.rest = .error fault.fault := by
  -- the fault is at the front, or behind the first token, in a shorter text
  induction hn : cs.length using Nat.strongRecOn generalizing cs with
  | ind n ih =>
    have whole := Text.takeWhile_append_dropBlanks cs
    rcases tokensOf_eq_error h with ⟨start, nonempty, failed⟩ | ⟨t, after, scanned, others⟩
    · refine ⟨cs.takeWhile Text.isBlank, [], by rw [← start, whole], ?_, nonempty, ?_, failed⟩
      · exact ⟨[], _, rfl, isBlank_of_mem_takeWhile, .nil _⟩
      · rw [← start, Text.dropBlanks_of_head? (Text.head?_dropBlanks cs)]
    · have shorter : after.length < cs.length :=
        Nat.lt_of_lt_of_le (length_scan_lt scanned) (Text.length_dropBlanks_le cs)
      obtain ⟨front, ts, rfl, upTo, last⟩ := ih after.length (hn ▸ shorter) others rfl
      obtain ⟨s, cut, -⟩ := spells_of_scan scanned
      rw [cut] at scanned whole
      refine ⟨cs.takeWhile Text.isBlank ++ (s ++ front), t :: ts, ?_, ?_, last⟩
      · rw [List.append_assoc, List.append_assoc, whole]
      · exact .cons isBlank_of_mem_takeWhile scanned upTo

/-- Where a token cannot be read no call opens: a parenthesis is a token. -/
theorem opensCall_of_fault {rest : List Char} {found : LexFault}
    (start : Text.dropBlanks rest = rest) (failed : scan rest = .error found) :
    opensCall rest = false := by
  rw [opensCall, start]
  cases rest with
  | nil => rfl
  | cons c cs =>
    have noParen : c ≠ '(' := by
      rintro rfl
      cases failed
    simp [noParen]

/-- The tokens before a place where no call opens are all that the text before it has. -/
theorem ReadUpTo.tokensOf_eq {front back : List Char} {ts : List Token}
    (h : ReadUpTo front ts back) (noCall : opensCall back = false) : tokensOf front = .ok ts := by
  have cut : ReadUpTo front ts [] := h.of_break (by simp) noCall.symm
  have alone := cut.tokensOf_append
  rw [List.append_nil, tokensOf_nil] at alone
  simpa [Except.map] using alone

end Fault

/-- The tokens of a text part it: it is their spellings with blanks around them. If it has none, the
fault is at a character before the end. The text before that character has the tokens that are found
up to it, and the text from it on has the fault at once. -/
theorem ofText_partition (text : String) :
    match ofText text with
    | .ok ts => Written ts text.toList
    | .error failure => ∃ offset fault front rest ts,
        failure = .lex offset fault ∧ text = front ++ rest ∧ front.utf8ByteSize = offset ∧
          offset < text.utf8ByteSize ∧ ReadUpTo front.toList ts rest.toList ∧
          ofText front = .ok ts ∧ ofText rest = .error (.lex 0 fault) := by
  cases read : tokensOf text.toList with
  | ok ts =>
    rw [ofText_of_tokensOf read]
    exact written_of_tokensOf ts _ read
  | error found =>
    obtain ⟨fault, rest⟩ := found
    obtain ⟨front, ts, whole, upTo, nonempty, start, failed⟩ := exists_of_tokensOf_error read
    -- a label before the fault is read alike without it, since no call opens there
    have before := upTo.tokensOf_eq (opensCall_of_fault start failed)
    have after : tokensOf rest = .error ⟨fault, rest⟩ := tokensOf_of_fault start nonempty failed
    have parts : text = String.ofList front ++ String.ofList rest := by
      rw [← String.ofList_append, ← whole, String.ofList_toList]
    have offset :
        byteLength text.toList - byteLength rest = (String.ofList front).utf8ByteSize := by
      rw [whole, byteLength_append, Nat.add_sub_cancel, byteLength_eq]
    have inside : (String.ofList rest).utf8ByteSize ≠ 0 := by
      rwa [ne_eq, String.utf8ByteSize_eq_zero_iff, String.ofList_eq_empty_iff]
    rw [ofText_of_tokensOf_error read]
    refine ⟨_, fault, String.ofList front, String.ofList rest, ts, rfl, parts, offset.symm, ?_, ?_,
      ?_, ?_⟩
    · rw [offset, parts, String.utf8ByteSize_append]
      omega
    · rwa [String.toList_ofList, String.toList_ofList]
    · exact ofText_of_tokensOf (String.toList_ofList ▸ before)
    · rw [← String.toList_ofList (l := rest)] at after
      rw [ofText_of_tokensOf_error after, String.toList_ofList, Nat.sub_self]

end SheetFormula.Token
