import SheetFormula.Proofs.Machine.Bookkeeping
import SheetFormula.Proofs.Partition

/-!
# Faults that do not occur

Some faults are only there so that every check has an answer. The text that is cut out for a number
is always the spelling of one, and every such spelling is read as a numeral (`Token.Number`), so no
number is invalid; a token is asked for only in front of a character, so no text ends too early. The
parser enters a call only at its opening parenthesis, and ends an array only at its closing brace.
So none of these faults is ever reported (`Formula.no_defensive_fault`).

* `LexFault.isWithin`: the faults that a text may have.
* `ParseFault.isWithin`: the faults that an expression may have.
-/

namespace SheetFormula

/-! ## The spelling of numbers -/

namespace Token

open Decimal

/-- The spelling of a point with digits after it. -/
inductive Point : List Char → Prop where
  | spelled {ds : List Char} (digits : ∀ d ∈ ds, d.isDigit) : Point ('.' :: ds)

/-- The spelling of a number: digits, perhaps a point with digits, and perhaps an exponent; or a
point with at least one digit, and perhaps an exponent. -/
inductive Number : List Char → Prop where
  | digits {whole point exponent : List Char} (nonempty : whole ≠ [])
      (digits : ∀ d ∈ whole, d.isDigit) (isPoint : point = [] ∨ Point point)
      (isExponent : exponent = [] ∨ Exponent exponent) : Number (whole ++ (point ++ exponent))
  | point {ds exponent : List Char} (nonempty : ds ≠ []) (digits : ∀ d ∈ ds, d.isDigit)
      (isExponent : exponent = [] ∨ Exponent exponent) : Number ('.' :: (ds ++ exponent))

theorem splitPoint_cases (cs : List Char) : (splitPoint cs).1 = [] ∨ Point (splitPoint cs).1 := by
  unfold splitPoint
  split
  · exact .inr (.spelled fun _ hd => List.mem_takeWhile_imp hd)
  · exact .inl rfl

/-- What is cut out for a number is the spelling of one, whatever follows it. -/
theorem number_splitNumber {c : Char} {cs : List Char}
    (first : c.isDigit ∨ (c = '.' ∧ startsWithDigit cs)) : Number (splitNumber (c :: cs)).1 := by
  simp only [splitNumber, List.append_assoc]
  rcases first with digit | ⟨rfl, starts⟩
  · refine .digits ?_ (fun _ hd => List.mem_takeWhile_imp hd) (splitPoint_cases _)
      (splitExponent_cases _)
    rw [List.takeWhile_cons_of_pos digit]
    exact List.cons_ne_nil _ _
  · cases cs with
    | nil => cases starts
    | cons d ds =>
      have digit : d.isDigit := starts
      rw [List.takeWhile_cons_of_neg (by decide), List.dropWhile_cons_of_neg (by decide),
        List.nil_append]
      refine .point ?_ (fun _ hd => List.mem_takeWhile_imp hd) (splitExponent_cases _)
      rw [List.takeWhile_cons_of_pos digit]
      exact List.cons_ne_nil _ _

example : [".5e+3", "1.", "1e+", "1.e5x"].map (fun s => splitNumber s.toList) =
    [(".5e+3".toList, []), ("1.".toList, []), (['1'], "e+".toList), ("1.e5".toList, ['x'])] := by
  decide

/-! ### Every spelling is read -/

section Reading

variable {whole point exponent cs : List Char}

theorem splitSign_of_head? (noSign : ∀ c ∈ cs.head?, c ≠ '+' ∧ c ≠ '-') :
    Numeral.splitSign cs = (false, cs) := by
  unfold Numeral.splitSign
  split
  · exact absurd rfl (noSign '-' rfl).2
  · exact absurd rfl (noSign '+' rfl).1
  · rfl

theorem not_sign_of_isDigit {c : Char} (digit : c.isDigit) : c ≠ '+' ∧ c ≠ '-' :=
  ⟨ne_of_class digit (by decide), ne_of_class digit (by decide)⟩

theorem exists_readExponent? (isExponent : exponent = [] ∨ Exponent exponent) :
    ∃ e, Numeral.readExponent? exponent = some e := by
  rcases isExponent with rfl | @⟨c, d, sign, ds, letter, signed, digits⟩
  · exact ⟨0, rfl⟩
  · obtain ⟨negative, split⟩ :
        ∃ negative, Numeral.splitSign (sign ++ d :: ds) = (negative, d :: ds) := by
      rcases signed with rfl | rfl | rfl
      · refine ⟨false, splitSign_of_head? ?_⟩
        rintro _ ⟨⟩
        exact not_sign_of_isDigit (digits d (List.mem_cons_self ..))
      · exact ⟨false, rfl⟩
      · exact ⟨true, rfl⟩
    rw [Numeral.readExponent?, split]
    exact ⟨_, if_pos ⟨letter, List.cons_ne_nil _ _, List.all_eq_true.2 digits⟩⟩

theorem not_isDigit_of_exponent (isExponent : exponent = [] ∨ Exponent exponent) :
    ∀ c ∈ exponent.head?, c.isDigit = false := by
  intro c hc
  rcases head?_of_exponent isExponent c hc with rfl | rfl <;> decide

theorem splitFraction_append (isPoint : point = [] ∨ Point point)
    (isExponent : exponent = [] ∨ Exponent exponent) :
    Numeral.splitFraction (point ++ exponent) = (point.tail, exponent) := by
  rcases isPoint with rfl | point
  · unfold Numeral.splitFraction
    split
    · rename_i starts
      rw [List.nil_append] at starts
      rcases head?_of_exponent isExponent '.' (by rw [starts]; rfl) with h | h <;> cases h
    · rfl
  · obtain ⟨digits⟩ := point
    have ends := takeWhile_append_stop digits (not_isDigit_of_exponent isExponent)
    rw [List.cons_append, Numeral.splitFraction, ends.1, ends.2, List.tail_cons]

/-- A numeral is read from its parts, if there is a digit before its exponent. -/
theorem exists_read?_of_parts (digits : ∀ d ∈ whole, d.isDigit) (isPoint : point = [] ∨ Point point)
    (isExponent : exponent = [] ∨ Exponent exponent) (nonempty : whole ≠ [] ∨ point.tail ≠ []) :
    ∃ x, Numeral.read? (whole ++ (point ++ exponent)) = some x := by
  have pointed : ∀ c ∈ point.head?, c = '.' := by
    rcases isPoint with rfl | point
    · nofun
    · cases point
      rintro _ ⟨⟩
      rfl
  have noDigit : ∀ c ∈ (point ++ exponent).head?, c.isDigit = false :=
    forall_head?_append (fun c hc => pointed c hc ▸ by decide) (not_isDigit_of_exponent isExponent)
  have noSign : ∀ c ∈ (whole ++ (point ++ exponent)).head?, c ≠ '+' ∧ c ≠ '-' := by
    refine forall_head?_append
      (fun c hc => not_sign_of_isDigit (digits c (List.mem_of_mem_head? hc)))
      (forall_head?_append (fun c hc => pointed c hc ▸ by decide) fun c hc => ?_)
    rcases head?_of_exponent isExponent c hc with rfl | rfl <;> decide
  have ends := takeWhile_append_stop digits noDigit
  obtain ⟨e, read⟩ := exists_readExponent? isExponent
  simp only [Numeral.read?, splitSign_of_head? noSign, ends.1, ends.2,
    splitFraction_append isPoint isExponent, read, Option.map_some]
  refine ⟨_, if_neg ?_⟩
  rwa [Bool.and_eq_true, List.isEmpty_iff, List.isEmpty_iff, not_and_or]

theorem Number.exists_read? (h : Number cs) : ∃ x, Numeral.read? cs = some x := by
  cases h with
  | digits nonempty digits isPoint isExponent =>
    exact exists_read?_of_parts digits isPoint isExponent (.inl nonempty)
  | point nonempty digits isExponent =>
    exact exists_read?_of_parts (List.forall_mem_nil _) (.inr (.spelled digits)) isExponent
      (.inr nonempty)

end Reading

/-- Where a number starts, one is read. -/
theorem exists_scanNumber {c : Char} {cs : List Char}
    (first : c.isDigit ∨ (c = '.' ∧ startsWithDigit cs)) :
    ∃ x, Numeral.read? (splitNumber (c :: cs)).1 = some x ∧
      scanNumber (c :: cs) = .ok (.number x.toFloat, (splitNumber (c :: cs)).2) := by
  obtain ⟨x, read⟩ := (number_splitNumber first).exists_read?
  exact ⟨x, read, by simp only [scanNumber, read]⟩

end Token

/-! ## Faults in a text -/

/-- Whether a fault is one that may be found while a text is read. -/
def LexFault.isWithin : LexFault → Bool
  | .unexpectedCharacter _ | .unterminatedString | .unknownError _ | .missingName
  | .invalidReference _ => true
  | .unexpectedEnd | .invalidNumber _ | .reported _ => false

namespace Token

section Scanners

variable {cs : List Char} {fault : LexFault}

theorem isWithin_of_scanString {quote : Char} (h : scanString quote cs = .error fault) :
    fault.isWithin := by
  simp only [scanString] at h
  split at h <;> cases h
  rfl

theorem isWithin_of_scanError (h : scanError cs = .error fault) : fault.isWithin := by
  simp only [scanError] at h
  split at h <;> cases h
  rfl

theorem isWithin_of_scanNamed (h : scanNamed cs = .error fault) : fault.isWithin := by
  simp only [scanNamed] at h
  split at h <;> cases h
  rfl

theorem isWithin_of_scanLabel (h : scanLabel cs = .error fault) : fault.isWithin := by
  simp only [scanLabel] at h
  split at h
  · cases h
  · split at h <;> cases h
    rfl

theorem isWithin_of_scan {c : Char} (h : scan (c :: cs) = .error fault) : fault.isWithin := by
  simp only [scan] at h
  split at h
  · cases h
  split at h
  · cases h
  split at h
  · cases h
  split at h
  · exact isWithin_of_scanString h
  split at h
  · obtain ⟨x, -, read⟩ := exists_scanNumber ‹_›
    rw [read] at h
    cases h
  split at h
  · exact isWithin_of_scanError h
  split at h
  · exact isWithin_of_scanNamed h
  split at h
  · exact isWithin_of_scanLabel h
  · cases h
    rfl

end Scanners

theorem exists_fault_of_ofText {text : String} {failure : Failure}
    (h : ofText text = .error failure) :
    ∃ offset fault, failure = .lex offset fault ∧ fault.isWithin := by
  cases read : tokensOf text.toList with
  | ok ts =>
    rw [ofText_of_tokensOf read] at h
    cases h
  | error found =>
    obtain ⟨fault, rest⟩ := found
    rw [ofText_of_tokensOf_error read] at h
    cases h
    obtain ⟨front, ts, -, -, nonempty, -, failed⟩ := exists_of_tokensOf_error read
    obtain ⟨c, cs, rfl⟩ := List.exists_cons_of_ne_nil nonempty
    exact ⟨_, fault, rfl, isWithin_of_scan failed⟩

end Token

/-! ## Faults in an expression -/

theorem Grammar.fault_of_ofTokens {limit : Nat} {ts : List Token} {failure : Failure}
    (h : Expr.ofTokens limit ts = .error failure) :
    failure = .tooDeep limit ∨ ∃ fault : ParseFault, failure = .parse fault ∧
      (fault.isWithin ∨ ∃ t, fault = .trailingToken t) := by
  obtain ⟨n, r, -, unlimited, settles⟩ :=
    ((steadyBelow _).expression (Nat.lt_succ_self ts.length) 0).cut
  rw [ofTokens_eq_whole] at h
  obtain shallow | deep := Nat.lt_or_ge limit n
  · obtain ⟨d, tooDeep⟩ := (settles limit).2 shallow
    simp only at tooDeep
    rw [tooDeep] at h
    cases h
    exact .inl rfl
  · have settled := (settles limit).1 deep
    simp only at settled
    rw [settled] at h
    rcases r with ⟨failure', d⟩ | ⟨e, _ | ⟨t, rest⟩, d⟩
    · cases h
      obtain ⟨fault, within, rfl⟩ := unlimited failure d rfl
      exact .inr ⟨fault, rfl, .inl within⟩
    · cases h
    · cases h
      exact .inr ⟨_, rfl, .inr ⟨t, rfl⟩⟩

/-! ## Messages -/

/-- A text starts with given words. -/
def Text.StartsWith (words text : String) : Prop :=
  words.toList <+: text.toList

namespace Text

instance (words text : String) : Decidable (StartsWith words text) :=
  inferInstanceAs (Decidable (words.toList <+: text.toList))

theorem startsWith_refl (text : String) : StartsWith text text :=
  List.prefix_refl _

theorem startsWith_append (start rest : String) : StartsWith start (start ++ rest) := by
  rw [StartsWith, String.toList_append]
  exact List.prefix_append ..

/-- Two starts of one text do not part. -/
theorem StartsWith.not_startsWith {words start text : String} (starts : StartsWith start text)
    (apart : ¬StartsWith words start ∧ ¬StartsWith start words) : ¬StartsWith words text := by
  intro other
  rcases List.prefix_or_prefix_of_prefix other starts with h | h
  · exact apart.1 h
  · exact apart.2 h

end Text

open Text (StartsWith startsWith_refl startsWith_append)

/-- How the messages start that a text may lead to. -/
def LexFault.starts : List String :=
  ["unexpected character '", "unterminated string literal", "unknown error literal '",
    "'@' must be followed by a name", "invalid reference '"]

theorem LexFault.exists_start {fault : LexFault} (h : fault.isWithin) :
    ∃ start ∈ starts, StartsWith start fault.message := by
  unfold message
  cases fault with
  | unexpectedEnd | invalidNumber | reported => cases h
  | unterminatedString | missingName => exact ⟨_, by simp [starts], startsWith_refl _⟩
  | unexpectedCharacter | unknownError | invalidReference =>
    dsimp only
    rw [String.append_assoc]
    exact ⟨_, by simp [starts], startsWith_append ..⟩

theorem LexFault.message_of_isWithin {fault : LexFault} (h : fault.isWithin) :
    ¬StartsWith "unexpected end of input" fault.message ∧
      ¬StartsWith "invalid number" fault.message := by
  have apart : ∀ words ∈ ["unexpected end of input", "invalid number"], ∀ start ∈ starts,
      ¬StartsWith words start ∧ ¬StartsWith start words := by
    decide +kernel
  obtain ⟨start, mem, starts⟩ := exists_start h
  exact ⟨starts.not_startsWith (apart _ (by simp) start mem),
    starts.not_startsWith (apart _ (by simp) start mem)⟩

/-- How the messages start that the tokens of an expression may lead to. -/
def ParseFault.starts : List String :=
  ["Unexpected end of formula", "Unexpected token: ", "Unexpected token after expression: ",
    "Expected RightParen", "Expected ',' ';' or '\x7d' in array"]

theorem ParseFault.exists_start {fault : ParseFault}
    (h : fault.isWithin ∨ ∃ t, fault = .trailingToken t) :
    ∃ start ∈ starts, StartsWith start fault.message := by
  unfold message
  rcases h with within | ⟨t, rfl⟩
  · cases fault with
    | emptyFormula | trailingToken | reported => cases within
    | unexpectedEnd | expectedArraySeparator => exact ⟨_, by simp [starts], startsWith_refl _⟩
    | unexpectedToken => exact ⟨_, by simp [starts], startsWith_append ..⟩
    | expected sym got =>
      -- only a closing parenthesis may be missed
      cases sym with
      | rightParen =>
        refine ⟨"Expected RightParen", by simp [starts], ?_⟩
        show StartsWith ("Expected " ++ "RightParen") _
        dsimp only
        rw [String.append_assoc]
        exact startsWith_append ..
      | _ => cases within
  · exact ⟨_, by simp [starts], startsWith_append ..⟩

theorem ParseFault.message_of_isWithin {fault : ParseFault}
    (h : fault.isWithin ∨ ∃ t, fault = .trailingToken t) :
    ¬StartsWith "Expected LeftParen" fault.message ∧
      ¬StartsWith "Expected RightBrace" fault.message := by
  have apart : ∀ words ∈ ["Expected LeftParen", "Expected RightBrace"], ∀ start ∈ starts,
      ¬StartsWith words start ∧ ¬StartsWith start words := by
    decide +kernel
  obtain ⟨start, mem, starts⟩ := exists_start h
  exact ⟨starts.not_startsWith (apart _ (by simp) start mem),
    starts.not_startsWith (apart _ (by simp) start mem)⟩

/-- No text ends too early and none has an invalid number: what is cut out for a number is always
the spelling of one, and every spelling is read. No expression misses the opening parenthesis of a
call or the closing brace of an array. -/
theorem Formula.no_defensive_fault :
    (∀ text failure, Token.ofText text = .error failure →
      ∃ offset fault, failure = .lex offset fault ∧
        ¬StartsWith "unexpected end of input" fault.message ∧
        ¬StartsWith "invalid number" fault.message) ∧
    (∀ c cs, c.isDigit ∨ (c = '.' ∧ Token.startsWithDigit cs) →
      Token.Number (Token.splitNumber (c :: cs)).1 ∧
        ∃ x, Decimal.Numeral.read? (Token.splitNumber (c :: cs)).1 = some x ∧
          Token.scan (c :: cs) = .ok (.number x.toFloat, (Token.splitNumber (c :: cs)).2)) ∧
    (∀ cs, Token.Number cs → ∃ x, Decimal.Numeral.read? cs = some x) ∧
    ∀ limit ts, ∃ reply, Expr.Machine.parse limit ts = some reply ∧
      ∀ failure, reply = .error failure → failure = .tooDeep limit ∨
        ∃ fault, failure = .parse fault ∧ ¬StartsWith "Expected LeftParen" fault.message ∧
          ¬StartsWith "Expected RightBrace" fault.message := by
  refine ⟨fun text failure failed => ?_, fun c cs first => ?_, fun cs number => number.exists_read?,
    fun limit ts => ⟨_, Expr.Machine.parse_eq limit ts, fun failure failed => ?_⟩⟩
  · obtain ⟨offset, fault, rfl, within⟩ := Token.exists_fault_of_ofText failed
    exact ⟨offset, fault, rfl, LexFault.message_of_isWithin within⟩
  · obtain ⟨x, read, scanned⟩ := Token.exists_scanNumber first
    exact ⟨Token.number_splitNumber first, x, read, (Token.Scanned.number first scanned).scan⟩
  · rcases Grammar.fault_of_ofTokens failed with tooDeep | ⟨fault, rfl, within⟩
    · exact .inl tooDeep
    · exact .inr ⟨fault, rfl, ParseFault.message_of_isWithin within⟩

/-- An `e` without digits belongs to no number, and a parenthesis closes no array. -/
theorem Formula.no_defensive_fault_array :
    let array : List Token := [.symbol .leftBrace, .identifier "e", .symbol .rightParen]
    (∃ fault, Token.ofText "\x7b1.e+$" = .error (.lex 5 fault) ∧
      ¬StartsWith "invalid number" fault.message) ∧
    (('1' : Char).isDigit ∧ Token.splitNumber "1.e+$".toList = ("1.".toList, "e+$".toList) ∧
      Token.Number "1.".toList ∧ ∃ x, Decimal.Numeral.read? "1.".toList = some x) ∧
    ∃ fault, Expr.Machine.parse 2 array = some (.error (.parse fault)) ∧
      ¬StartsWith "Expected RightBrace" fault.message := by
  intro array
  obtain ⟨text, spelled, read, parsed⟩ := Formula.no_defensive_fault
  have reads : Token.Reads "\x7b1.e+".toList
      [.symbol .leftBrace, .number (Decimal.Numeral.mk false 1 0).toFloat, .identifier "e",
        .symbol .plus] "$".toList :=
    .cons (s := ['{']) (List.forall_mem_nil _) rfl
      (.cons (s := "1.".toList) (List.forall_mem_nil _) rfl
        (.cons (s := ['e']) (List.forall_mem_nil _) rfl
          (.cons (s := ['+']) (List.forall_mem_nil _) rfl (.nil _))))
  have failed : Token.tokensOf "\x7b1.e+$".toList = .error ⟨.invalidReference "$", ['$']⟩ := by
    have dollar : Token.tokensOf "$".toList = .error ⟨.invalidReference "$", ['$']⟩ :=
      Token.tokensOf_of_fault rfl (List.cons_ne_nil _ _) rfl
    have all := Token.tokensOf_of_reads reads
    rw [dollar] at all
    exact all
  have unclosed : Expr.Machine.parse 2 array =
      some (.error (.parse .expectedArraySeparator)) := by
    cbv
  refine ⟨?_, ⟨by decide, rfl, ?_⟩, ?_⟩
  · have lexed := Token.ofText_of_tokensOf_error failed
    obtain ⟨offset, fault, same, -, apart⟩ := text _ _ lexed
    cases same
    exact ⟨_, lexed, apart⟩
  · obtain ⟨number, -⟩ := spelled '1' ".e+$".toList (.inl (by decide))
    exact ⟨number, read _ number⟩
  · obtain ⟨reply, stops, apart⟩ := parsed 2 array
    cases unclosed.symm.trans stops
    rcases apart _ rfl with tooDeep | ⟨fault, same, -, brace⟩
    · cases tooDeep
    · exact ⟨fault, same ▸ unclosed, brace⟩

end SheetFormula
