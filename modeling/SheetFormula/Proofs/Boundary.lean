import Mathlib.Data.List.Chain
import Mathlib.Data.List.TakeWhile
import SheetFormula.Proofs.Spelling

/-!
# Where tokens end

A token ends where its class of characters does, so it is read alike whatever follows, as long as
that starts with none of its characters: `EndsBefore t rest` is enough (`scan_of_endsBefore`). A
word ends before every separator, with one exception: the characters of error literals include the
`/`, so `#N/A` does not end before one and is no literal together with it (`scan_na_slash`).

A token that ends before one text ends before another one, too, if that starts with the same
character, opens a call where the first does, and has no exponent for a number: `EndsAlso`. So it is
read alike when the text breaks off somewhere behind it (`EndsAlso.of_break`).

* `isSeparator`: blanks and the first characters of symbols.
* `Scanned`: how a text starts with a token, by its first character.
-/

namespace SheetFormula.Token

/-! ## Separators -/

/-- Whether a character ends words: a blank, or the first character of a symbol. -/
def isSeparator (c : Char) : Bool :=
  Text.isBlank c || (simpleSymbol? c).isSome || c = '<' || c = '>'

theorem toNat_of_isDigit {c : Char} (h : c.isDigit) : 0x30 ≤ c.toNat ∧ c.toNat ≤ 0x39 :=
  Char.isDigit_iff_toNat.1 h

theorem isBlank_of_isAlphanum {c : Char} (h : c.isAlphanum) : Text.isBlank c = false := by
  rcases Bool.or_eq_true_iff.1 h with letter | digit
  · exact isBlank_of_isAlpha letter
  · have := toNat_of_isDigit digit
    simp [Text.isBlank, Text.blankRanges, Text.CodeRanges.has]
    omega

theorem isBlank_of_isLabelChar {c : Char} (h : isLabelChar c) : Text.isBlank c = false := by
  simp only [isLabelChar, isNameChar, Bool.or_eq_true, decide_eq_true_eq] at h
  rcases h with ((h | rfl) | rfl) | rfl
  · exact isBlank_of_isAlphanum h
  all_goals decide

theorem isLabelChar_of_isSeparator {c : Char} (h : isSeparator c) : isLabelChar c = false := by
  simp only [isSeparator, Bool.or_eq_true, decide_eq_true_eq, Option.isSome_iff_exists] at h
  rcases h with ((h | ⟨s, h⟩) | rfl) | rfl
  · rw [Bool.eq_false_iff]
    intro label
    rw [isBlank_of_isLabelChar label] at h
    cases h
  · exact (not_isBlank_of_simpleSymbol? h).2
  all_goals decide

theorem isNameChar_of_isSeparator {c : Char} (h : isSeparator c) : isNameChar c = false := by
  have := isLabelChar_of_isSeparator h
  simp only [isLabelChar, Bool.or_eq_false_iff] at this
  exact this.1.1

theorem isErrorChar_of_isSeparator {c : Char} (h : isSeparator c) (slash : c ≠ '/') :
    isErrorChar c = false := by
  have := isNameChar_of_isSeparator h
  simp only [isNameChar, Bool.or_eq_false_iff] at this
  simp [isErrorChar, this.1, slash]

theorem isDigit_of_isLabelChar {c : Char} (h : isLabelChar c = false) : c.isDigit = false := by
  simp only [isLabelChar, isNameChar, Char.isAlphanum, Bool.or_eq_false_iff] at h
  exact h.1.1.1.2

theorem ne_of_class {p : Char → Bool} {c d : Char} (hc : p c = true) (hd : p d = false) :
    c ≠ d := by
  rintro rfl
  rw [hc] at hd
  cases hd

/-! ## Boundaries of the scanners -/

section Boundary

variable {s rest rest' : List Char}

theorem takeWhile_of_dropWhile {p : Char → Bool} (cut : (s ++ rest).dropWhile p = rest) :
    (s ++ rest).takeWhile p = s := by
  have whole := List.takeWhile_append_dropWhile (p := p) (l := s ++ rest)
  rw [cut] at whole
  exact List.append_cancel_right whole

theorem all_of_dropWhile {p : Char → Bool} (cut : (s ++ rest).dropWhile p = rest) :
    (∀ c ∈ s, p c) ∧ ∀ c ∈ rest.head?, p c = false := by
  constructor
  · rw [← takeWhile_of_dropWhile cut]
    exact fun _ hc => List.mem_takeWhile_imp hc
  · intro c hc
    have stop := List.head?_dropWhile_not p (s ++ rest)
    rw [cut, hc] at stop
    exact stop

theorem takeWhile_append_stop {p : Char → Bool} (all : ∀ c ∈ s, p c)
    (stop : ∀ c ∈ rest.head?, p c = false) :
    (s ++ rest).takeWhile p = s ∧ (s ++ rest).dropWhile p = rest := by
  rw [List.takeWhile_append_of_pos all, List.dropWhile_append_of_pos all]
  cases rest with
  | nil => exact ⟨List.append_nil s, rfl⟩
  | cons c cs =>
    have := stop c rfl
    simp [this]

theorem takeWhile_boundary {p : Char → Bool} (cut : (s ++ rest).dropWhile p = rest)
    (stop : ∀ c ∈ rest'.head?, p c = false) :
    (s ++ rest').takeWhile p = s ∧ (s ++ rest').dropWhile p = rest' :=
  takeWhile_append_stop (all_of_dropWhile cut).1 stop

theorem splitPoint_boundary (cut : splitPoint (s ++ rest) = (s, rest))
    (stop : ∀ c ∈ rest'.head?, c.isDigit = false ∧ (s = [] → c ≠ '.')) :
    splitPoint (s ++ rest') = (s, rest') := by
  cases s with
  | nil =>
    unfold splitPoint
    split
    · rename_i h
      rw [List.nil_append] at h
      rw [h] at stop
      exact absurd rfl ((stop '.' rfl).2 rfl)
    · rfl
  | cons c cs =>
    rw [List.cons_append] at cut ⊢
    by_cases hc : c = '.'
    · subst hc
      simp only [splitPoint, Prod.mk.injEq, List.cons.injEq, true_and] at cut ⊢
      exact takeWhile_boundary cut.2 fun c hc => (stop c hc).1
    · unfold splitPoint at cut
      split at cut
      · exact absurd (List.cons.inj ‹_›).1 hc
      · cases cut

theorem head?_of_splitPoint_nil (h : (splitPoint rest).1 = []) : rest.head? ≠ some '.' := by
  rintro starts
  obtain ⟨cs, rfl⟩ := List.head?_eq_some_iff.1 starts
  cases h

theorem splitSign_cases (cs : List Char) :
    (splitSign cs).1 = [] ∨ (splitSign cs).1 = ['+'] ∨ (splitSign cs).1 = ['-'] := by
  unfold splitSign
  split <;> simp

theorem splitSign_cons (c : Char) :
    (∀ cs, (splitSign (c :: cs)).2 = cs) ∨ ∀ cs, (splitSign (c :: cs)).2 = c :: cs := by
  by_cases plus : c = '+'
  · exact .inl fun cs => by rw [plus]; rfl
  by_cases minus : c = '-'
  · exact .inl fun cs => by rw [minus]; rfl
  · exact .inr fun cs => by simp [splitSign, plus, minus]

/-- The spelling of an exponent: a letter, perhaps a sign, and digits. -/
inductive Exponent : List Char → Prop where
  | spelled {c d : Char} {sign ds : List Char} (letter : c = 'e' ∨ c = 'E')
      (signed : sign = [] ∨ sign = ['+'] ∨ sign = ['-']) (digits : ∀ d' ∈ d :: ds, d'.isDigit) :
      Exponent (c :: (sign ++ d :: ds))

theorem splitExponent_cases (cs : List Char) :
    (splitExponent cs).1 = [] ∨ Exponent (splitExponent cs).1 := by
  cases cs with
  | nil => exact .inl rfl
  | cons c cs =>
    simp only [splitExponent]
    split
    · rename_i exponent
      cases after : (splitSign cs).2 with
      | nil =>
        rw [after] at exponent
        cases exponent.2
      | cons d ds =>
        rw [after] at exponent
        have digit : d.isDigit := exponent.2
        refine .inr ?_
        rw [List.takeWhile_cons_of_pos digit]
        refine .spelled exponent.1 (splitSign_cases cs) (List.forall_mem_cons.2 ⟨digit, ?_⟩)
        exact fun _ hd => List.mem_takeWhile_imp hd
    · exact .inl rfl

/-- An exponent is read where its digits end. -/
theorem Exponent.split (h : Exponent s) (stop : ∀ c ∈ rest.head?, c.isDigit = false) :
    splitExponent (s ++ rest) = (s, rest) := by
  obtain @⟨c, d, sign, ds, letter, signed, digits⟩ := h
  have digit : d.isDigit := digits d (List.mem_cons_self ..)
  have ends := takeWhile_append_stop digits stop
  have sign : splitSign (sign ++ (d :: ds ++ rest)) = (sign, d :: ds ++ rest) := by
    rcases signed with rfl | rfl | rfl
    · have plus : d ≠ '+' := ne_of_class digit (by decide)
      have minus : d ≠ '-' := ne_of_class digit (by decide)
      simp [splitSign, plus, minus]
    · rfl
    · rfl
  rw [List.cons_append, List.append_assoc]
  simp only [splitExponent, sign]
  rw [if_pos ⟨letter, digit⟩, ends.1, ends.2, List.cons_append]

theorem splitExponent_boundary (cut : splitExponent (s ++ rest) = (s, rest))
    (stop : ∀ c ∈ rest'.head?, c.isDigit = false)
    (none : (splitExponent rest).1 = [] → (splitExponent rest').1 = []) :
    splitExponent (s ++ rest') = (s, rest') := by
  have spelling := splitExponent_cases (s ++ rest)
  rw [cut] at spelling
  rcases spelling with rfl | exponent
  · have whole := splitExponent_append rest'
    have noExponent := none (congrArg Prod.fst cut)
    rw [noExponent, List.nil_append] at whole
    exact Prod.ext noExponent whole
  · exact exponent.split stop

theorem head?_splitPoint (cs : List Char) : ∀ c ∈ (splitPoint cs).1.head?, c = '.' := by
  unfold splitPoint
  split
  · rintro _ ⟨⟩
    rfl
  · nofun

theorem head?_of_exponent (h : s = [] ∨ Exponent s) : ∀ c ∈ s.head?, c = 'e' ∨ c = 'E' := by
  rcases h with rfl | exponent
  · nofun
  · cases exponent with
    | spelled letter =>
      rintro _ ⟨⟩
      exact letter

theorem head?_splitExponent (cs : List Char) :
    ∀ c ∈ (splitExponent cs).1.head?, c = 'e' ∨ c = 'E' :=
  head?_of_exponent (splitExponent_cases cs)

theorem forall_head?_append {P : Char → Prop} {xs ys : List Char} (hx : ∀ c ∈ xs.head?, P c)
    (hy : ∀ c ∈ ys.head?, P c) : ∀ c ∈ (xs ++ ys).head?, P c := by
  cases xs with
  | nil => exact hy
  | cons x xs => exact hx

theorem splitNumber_boundary (cut : splitNumber (s ++ rest) = (s, rest))
    (stop : ∀ c ∈ rest'.head?, c.isDigit = false ∧ (c = '.' → rest.head? = some '.'))
    (none : (splitExponent rest).1 = [] → (splitExponent rest').1 = []) :
    splitNumber (s ++ rest') = (s, rest') := by
  obtain ⟨point, afterPoint, hp⟩ :
      ∃ p after, splitPoint ((s ++ rest).dropWhile Char.isDigit) = (p, after) := ⟨_, _, rfl⟩
  obtain ⟨exponent, after, he⟩ : ∃ e after, splitExponent afterPoint = (e, after) := ⟨_, _, rfl⟩
  have isPoint := head?_splitPoint ((s ++ rest).dropWhile Char.isDigit)
  have isExponent := head?_splitExponent afterPoint
  have pointCut := splitPoint_append ((s ++ rest).dropWhile Char.isDigit)
  have exponentCut := splitExponent_append afterPoint
  have digitsCut := List.takeWhile_append_dropWhile (p := Char.isDigit) (l := s ++ rest)
  simp only [splitNumber, hp, he, Prod.mk.injEq] at cut
  obtain ⟨lexeme, rfl⟩ := cut
  rw [hp] at isPoint pointCut
  rw [he] at isExponent exponentCut
  rw [← exponentCut] at pointCut hp he
  rw [← pointCut] at digitsCut hp
  -- Each part is followed by the next one or by `rest'`, and none of these goes on with it.
  have noPoint : ∀ c ∈ (exponent ++ rest').head?, c.isDigit = false ∧ (point = [] → c ≠ '.') := by
    cases exponent with
    | nil =>
      refine fun c hc => ⟨(stop c hc).1, ?_⟩
      rintro rfl rfl
      exact head?_of_splitPoint_nil (congrArg Prod.fst hp) ((stop '.' hc).2 rfl)
    | cons d ds =>
      rintro _ ⟨⟩
      rcases isExponent d rfl with rfl | rfl <;> exact ⟨by decide, fun _ => by decide⟩
  have noDigit : ∀ c ∈ (point ++ (exponent ++ rest')).head?, c.isDigit = false :=
    forall_head?_append (fun c hc => isPoint c hc ▸ by decide) fun c hc => (noPoint c hc).1
  have digits := takeWhile_boundary (p := Char.isDigit) (digitsCut.symm ▸ pointCut.symm) noDigit
  rw [← List.append_assoc, ← List.append_assoc, lexeme] at digits
  simp only [splitNumber, digits.2, splitPoint_boundary hp noPoint,
    splitExponent_boundary he (fun c hc => (stop c hc).1) none]
  rw [digits.1, lexeme]

theorem head?_dropDigits (cs : List Char) :
    ∀ c ∈ (cs.dropWhile Char.isDigit).head?, c.isDigit = false := by
  intro c hc
  have stop := List.head?_dropWhile_not Char.isDigit cs
  rw [hc] at stop
  exact stop

theorem head?_of_splitPoint {cs : List Char} (stop : ∀ c ∈ cs.head?, c.isDigit = false) :
    ∀ c ∈ (splitPoint cs).2.head?, c.isDigit = false := by
  unfold splitPoint
  split
  · exact head?_dropDigits _
  · exact stop

theorem head?_of_splitExponent {cs : List Char} (stop : ∀ c ∈ cs.head?, c.isDigit = false) :
    ∀ c ∈ (splitExponent cs).2.head?, c.isDigit = false := by
  fun_cases splitExponent cs with
  | case1 => nofun
  | case2 => exact head?_dropDigits _
  | case3 => exact stop

/-- A number ends where its digits do. -/
theorem head?_splitNumber (cs : List Char) :
    ∀ c ∈ (splitNumber cs).2.head?, c.isDigit = false :=
  head?_of_splitExponent (head?_of_splitPoint (head?_dropDigits cs))

theorem closeQuote_escaped (quote : Char) (s : List Char) (stop : ∀ c ∈ rest.head?, c ≠ quote) :
    closeQuote quote (escaped quote s ++ quote :: rest) = some (s, rest) := by
  induction s with
  | nil =>
    cases rest with
    | nil => simp [escaped, closeQuote]
    | cons c cs => simp [escaped, closeQuote, stop c rfl]
  | cons c s ih =>
    by_cases hc : c = quote
    · subst hc
      have doubled : escaped c (c :: s) = c :: c :: escaped c s := by simp [escaped]
      rw [doubled, List.cons_append, List.cons_append, closeQuote, ih]
      simp
    · have single : escaped quote (c :: s) = c :: escaped quote s := by simp [escaped, hc]
      rw [single, List.cons_append]
      cases after : escaped quote s ++ quote :: rest with
      | nil => simp at after
      | cons d ds =>
        rw [closeQuote, if_pos hc, ← after, ih]
        rfl

/-- A string ends before any other character than its quote. -/
theorem head?_closeQuote {quote : Char} {cs : List Char} :
    ∀ r ∈ closeQuote quote cs, ∀ c ∈ r.2.head?, c ≠ quote := by
  fun_induction closeQuote quote cs with
  | case1 | case3 => simp
  | case2 => simp
  | case4 c d cs _ ih | case5 c cs _ ih =>
    intro r hr
    obtain ⟨r', hr', rfl⟩ := Option.map_eq_some_iff.1 hr
    exact ih r' hr'
  | case6 c d cs _ ne =>
    rintro _ ⟨⟩ _ ⟨⟩
    exact ne

end Boundary

/-! ## Error literals -/

theorem toNat_of_isErrorChar {c : Char} (h : isErrorChar c) : c.toNat < 0x80 := by
  simp only [isErrorChar, Bool.or_eq_true, decide_eq_true_eq] at h
  rcases h with h | rfl
  · rcases Bool.or_eq_true_iff.1 h with letter | digit
    · exact (toNat_of_isAlpha letter).2
    · have := toNat_of_isDigit digit
      omega
  · decide

/-- No character of an error literal becomes a mark in upper case. -/
theorem toUpper_ne_mark {c : Char} (h : isErrorChar c) : c.toUpper ≠ '!' ∧ c.toUpper ≠ '?' := by
  have all : ∀ n < 0x80, isErrorChar (Char.ofNat n) →
      (Char.ofNat n).toUpper ≠ '!' ∧ (Char.ofNat n).toUpper ≠ '?' := by
    decide +kernel
  have := all c.toNat (toNat_of_isErrorChar h)
  rw [Char.ofNat_toNat] at this
  exact this h

/-- The upper case of the characters of a text that spells a code. -/
theorem text_of_ofText? {cs : List Char} {code : ErrorCode}
    (h : ErrorCode.ofText? (String.ofList cs) = some code) :
    code.text.toList = cs.flatMap Text.upperChar := by
  have found := List.find?_some h
  rw [beq_iff_eq] at found
  rw [found, Text.upper, String.toList_ofList, String.toList_ofList]

/-- The only error literal without a mark is `#N/A`. -/
theorem code_of_unmarked {cs : List Char} {code : ErrorCode} (chars : ∀ c ∈ cs, isErrorChar c)
    (h : ErrorCode.ofText? (String.ofList ('#' :: cs)) = some code) : code = .na := by
  have noMark : ∀ c ∈ code.text.toList, c ≠ '!' ∧ c ≠ '?' := by
    rw [text_of_ofText? h]
    intro c hc
    obtain ⟨d, hd, hc⟩ := List.mem_flatMap.1 hc
    rcases List.mem_cons.1 hd with rfl | hd
    · rw [Text.upperChar_ascii (by decide), List.mem_singleton] at hc
      subst hc
      decide
    · rw [Text.upperChar_ascii (toNat_of_isErrorChar (chars d hd)), List.mem_singleton] at hc
      exact hc ▸ toUpper_ne_mark (chars d hd)
  cases code with
  | na => rfl
  | name => exact absurd rfl (noMark '?' (by decide)).2
  | div0 | null | num | ref | value | error => exact absurd rfl (noMark '!' (by decide)).1

theorem ofText?_na_slash {cs : List Char} (h : ErrorCode.ofText? (String.ofList cs) = some .na)
    (more : List Char) :
    ErrorCode.ofText? (String.ofList (cs ++ '/' :: more)) = none := by
  cases longer : ErrorCode.ofText? (String.ofList (cs ++ '/' :: more)) with
  | none => rfl
  | some code =>
    have text := text_of_ofText? longer
    rw [List.flatMap_append, ← text_of_ofText? h, List.flatMap_cons,
      Text.upperChar_ascii (by decide)] at text
    cases code <;> simp [ErrorCode.text] at text

section ErrorLiteral

variable {s rest rest' : List Char}

theorem splitMark_of_not_mark (stop : ∀ c ∈ rest.head?, c ≠ '!' ∧ c ≠ '?') :
    splitMark rest = ([], rest) := by
  unfold splitMark
  split
  · exact absurd rfl (stop '!' rfl).1
  · exact absurd rfl (stop '?' rfl).2
  · rfl

theorem splitMark_cases (cs : List Char) :
    (splitMark cs = ([], cs) ∧ ∀ c ∈ cs.head?, c ≠ '!' ∧ c ≠ '?') ∨
      ∃ mark rest, cs = mark :: rest ∧ (mark = '!' ∨ mark = '?') ∧
        splitMark cs = ([mark], rest) := by
  fun_cases splitMark cs with
  | case1 rest => exact .inr ⟨'!', _, rfl, .inl rfl, rfl⟩
  | case2 rest => exact .inr ⟨'?', _, rfl, .inr rfl, rfl⟩
  | case3 cs noBang noQuestion =>
    refine .inl ⟨rfl, fun c hc => ?_⟩
    obtain ⟨after, rfl⟩ := List.head?_eq_some_iff.1 hc
    exact ⟨fun h => noBang after (h ▸ rfl), fun h => noQuestion after (h ▸ rfl)⟩

/-- A character that goes on with no error literal. -/
def EndsNa (c : Char) : Prop :=
  isErrorChar c = false ∧ c ≠ '!' ∧ c ≠ '?'

/-- An error literal that is read from `s` is `#N/A`, or ends with a mark. -/
theorem scanError_cases {t : Token} (h : scanError (s ++ rest) = .ok (t, rest)) :
    (t = .error .na ∧ (∀ c ∈ s, isErrorChar c) ∧ (∀ c ∈ rest.head?, EndsNa c) ∧
        ErrorCode.ofText? (String.ofList ('#' :: s)) = some .na) ∨
      ∃ word mark code, s = word ++ [mark] ∧ (∀ c ∈ word, isErrorChar c) ∧
        (mark = '!' ∨ mark = '?') ∧ t = .error code ∧
        ErrorCode.ofText? (String.ofList ('#' :: word ++ [mark])) = some code := by
  simp only [scanError] at h
  split at h
  · rename_i code read
    simp only [Except.ok.injEq, Prod.mk.injEq] at h
    obtain ⟨rfl, cut⟩ := h
    rcases splitMark_cases ((s ++ rest).dropWhile isErrorChar) with
      ⟨split, noMark⟩ | ⟨mark, after, left, isMark, split⟩
    · rw [split] at cut read
      rw [show (s ++ rest).dropWhile isErrorChar = rest from cut] at noMark
      obtain ⟨chars, stop⟩ := all_of_dropWhile cut
      rw [takeWhile_of_dropWhile cut, List.append_nil] at read
      obtain rfl := code_of_unmarked chars read
      exact .inl ⟨rfl, chars, fun c hc => ⟨stop c hc, noMark c hc⟩, read⟩
    · rw [split] at cut read
      subst cut
      have whole := List.takeWhile_append_dropWhile (p := isErrorChar) (l := s ++ after)
      rw [left, List.append_cons] at whole
      exact .inr ⟨_, mark, code, (List.append_cancel_right whole).symm,
        fun _ hc => List.mem_takeWhile_imp hc, isMark, rfl, read⟩
  · cases h

end ErrorLiteral

/-! ## The first token of a text -/

/-- How a text starts with a token, by its first character. -/
inductive Scanned : List Char → Token → List Char → Prop where
  | symbol {c : Char} {s : Symbol} (simple : simpleSymbol? c = some s) (cs : List Char) :
      Scanned (c :: cs) (.symbol s) cs
  | less (cs : List Char) : Scanned ('<' :: cs) (.symbol (scanLess cs).1) (scanLess cs).2
  | greater (cs : List Char) :
      Scanned ('>' :: cs) (.symbol (scanGreater cs).1) (scanGreater cs).2
  | string {quote : Char} {cs rest : List Char} {text : String}
      (isQuote : quote = '"' ∨ quote = '\'')
      (read : scanString quote cs = .ok (.string text, rest)) :
      Scanned (quote :: cs) (.string text) rest
  | number {c : Char} {cs rest : List Char} {x : Float}
      (first : c.isDigit ∨ c = '.' ∧ startsWithDigit cs)
      (read : scanNumber (c :: cs) = .ok (.number x, rest)) : Scanned (c :: cs) (.number x) rest
  | error {cs rest : List Char} {code : ErrorCode}
      (read : scanError cs = .ok (.error code, rest)) : Scanned ('#' :: cs) (.error code) rest
  | named {cs rest : List Char} {ref : Reference}
      (read : scanNamed cs = .ok (.reference ref, rest)) :
      Scanned ('@' :: cs) (.reference ref) rest
  | cell {c : Char} {cs rest : List Char} {ref : Reference} (first : c.isAlpha ∨ c = '_' ∨ c = '$')
      (read : scanLabel (c :: cs) = .ok (.reference ref, rest)) :
      Scanned (c :: cs) (.reference ref) rest
  | name {c : Char} {cs rest : List Char} {label : String}
      (first : c.isAlpha ∨ c = '_' ∨ c = '$')
      (read : scanLabel (c :: cs) = .ok (.identifier label, rest)) :
      Scanned (c :: cs) (.identifier label) rest

section Scanned

variable {cs rest : List Char} {t : Token}

theorem string_of_scanString {quote : Char} (h : scanString quote cs = .ok (t, rest)) :
    ∃ text, t = .string text := by
  simp only [scanString] at h
  split at h <;> cases h
  exact ⟨_, rfl⟩

theorem number_of_scanNumber (h : scanNumber cs = .ok (t, rest)) : ∃ x, t = .number x := by
  simp only [scanNumber] at h
  split at h <;> cases h
  exact ⟨_, rfl⟩

theorem error_of_scanError (h : scanError cs = .ok (t, rest)) : ∃ code, t = .error code := by
  simp only [scanError] at h
  split at h <;> cases h
  exact ⟨_, rfl⟩

theorem reference_of_scanNamed (h : scanNamed cs = .ok (t, rest)) : ∃ ref, t = .reference ref := by
  simp only [scanNamed] at h
  split at h <;> cases h
  exact ⟨_, rfl⟩

theorem word_of_scanLabel (h : scanLabel cs = .ok (t, rest)) :
    (∃ ref, t = .reference ref) ∨ ∃ label, t = .identifier label := by
  simp only [scanLabel] at h
  split at h
  · cases h
    exact .inl ⟨_, rfl⟩
  · split at h <;> cases h
    exact .inr ⟨_, rfl⟩

theorem scanned_of_scan (h : scan cs = .ok (t, rest)) : Scanned cs t rest := by
  cases cs with
  | nil => cases h
  | cons c cs =>
    simp only [scan] at h
    split at h
    · cases h
      exact .symbol ‹_› _
    split at h
    · cases h
      subst c
      exact .less cs
    split at h
    · cases h
      subst c
      exact .greater cs
    split at h
    · obtain ⟨text, rfl⟩ := string_of_scanString h
      exact .string ‹_› h
    split at h
    · obtain ⟨x, rfl⟩ := number_of_scanNumber h
      exact .number ‹_› h
    split at h
    · obtain ⟨code, rfl⟩ := error_of_scanError h
      subst c
      exact .error h
    split at h
    · obtain ⟨ref, rfl⟩ := reference_of_scanNamed h
      subst c
      exact .named h
    split at h
    · obtain ⟨ref, rfl⟩ | ⟨label, rfl⟩ := word_of_scanLabel h
      · exact .cell ‹_› h
      · exact .name ‹_› h
    · cases h

theorem simpleSymbol?_of_isLabelChar {c : Char} (h : isLabelChar c) : simpleSymbol? c = none := by
  cases simple : simpleSymbol? c with
  | none => rfl
  | some s =>
    rw [(not_isBlank_of_simpleSymbol? simple).2] at h
    cases h

theorem scan_of_isDigit {c : Char} (h : c.isDigit) (cs : List Char) :
    scan (c :: cs) = scanNumber (c :: cs) := by
  have label : isLabelChar c := by simp [isLabelChar, isNameChar, Char.isAlphanum, h]
  have ne : ∀ d : Char, d.isDigit = false → c ≠ d := fun d hd => ne_of_class h hd
  simp [scan, simpleSymbol?_of_isLabelChar label, ne, h]

theorem Scanned.scan (h : Scanned cs t rest) : Token.scan cs = .ok (t, rest) := by
  cases h with
  | symbol simple cs => simp only [Token.scan, simple]
  | less | greater => rfl
  | string isQuote read =>
    rcases isQuote with rfl | rfl <;> simpa [Token.scan, simpleSymbol?] using read
  | number first read =>
    rcases first with digit | ⟨rfl, starts⟩
    · rw [scan_of_isDigit digit, read]
    · simpa [Token.scan, simpleSymbol?, starts] using read
  | error read => simpa [Token.scan, simpleSymbol?] using read
  | named read => simpa [Token.scan, simpleSymbol?] using read
  | cell first read | name first read =>
    rcases first with letter | rfl | rfl
    · rw [scan_of_isAlpha letter, read]
    · simpa [Token.scan, simpleSymbol?] using read
    · simpa [Token.scan, simpleSymbol?] using read

theorem Scanned.not_isBlank {c : Char}
    (h : Scanned (c :: cs) t rest) : Text.isBlank c = false := by
  cases h with
  | symbol simple => exact (not_isBlank_of_simpleSymbol? simple).1
  | less | greater | error | named => decide
  | string isQuote => rcases isQuote with rfl | rfl <;> decide
  | number first =>
    rcases first with digit | ⟨rfl, -⟩
    · exact isBlank_of_isLabelChar (by simp [isLabelChar, isNameChar, Char.isAlphanum, digit])
    · decide
  | cell first | name first =>
    rcases first with letter | rfl | rfl
    · exact isBlank_of_isAlpha letter
    · decide
    · decide

end Scanned

/-- A symbol starts with a separator. -/
theorem Scanned.isSeparator {c : Char} {cs rest : List Char} {s : Symbol}
    (h : Scanned (c :: cs) (.symbol s) rest) : isSeparator c := by
  cases h with
  | symbol simple => simp [Token.isSeparator, simple]
  | less | greater => decide

/-- A `.` alone is no number. -/
theorem not_scanNumber_point {rest : List Char} {t : Token}
    (h : scanNumber ('.' :: rest) = .ok (t, rest)) : False := by
  have whole := splitNumber_append ('.' :: rest)
  simp only [scanNumber] at h
  split at h
  · rename_i x read
    simp only [Except.ok.injEq, Prod.mk.injEq] at h
    rw [h.2] at whole
    rw [List.append_cancel_right (whole.trans List.singleton_append.symm)] at read
    cases read
  · cases h

/-! ## Reading on before another text -/

/-- The token does not go on with the text after it. -/
structure EndsBefore (t : Token) (rest : List Char) : Prop where
  word : (∀ s, t ≠ .symbol s) → ∀ c ∈ rest.head?, isSeparator c
  slash : t = .error .na → ∀ c ∈ rest.head?, c ≠ '/'
  less : t = .symbol .lessThan → ∀ c ∈ rest.head?, c ≠ '=' ∧ c ≠ '>'
  greater : t = .symbol .greaterThan → ∀ c ∈ rest.head?, c ≠ '='

/-- A token that ends before the text `rest` does not go on with `rest'` either, which starts alike
or with a character that the token ends before. -/
structure EndsAlso (t : Token) (rest rest' : List Char) : Prop where
  head : ∀ c ∈ rest'.head?, rest.head? = some c ∨ EndsBefore t [c]
  /-- After a number no exponent follows. -/
  exponent : (∀ s, t ≠ .symbol s) → (splitExponent rest).1 = [] → (splitExponent rest').1 = []
  /-- After a label no other parenthesis follows. -/
  call : opensCall rest' = opensCall rest

section EndsBefore

variable {s rest rest' : List Char} {t : Token}

theorem EndsBefore.of_head?_eq (h : EndsBefore t rest) (same : rest'.head? = rest.head?) :
    EndsBefore t rest' := by
  constructor <;> rw [same]
  exacts [h.word, h.slash, h.less, h.greater]

theorem endsBefore_of_isBlank {c : Char} (h : Text.isBlank c) : EndsBefore t [c] := by
  constructor <;> rintro _ _ ⟨⟩
  · simp [isSeparator, h]
  · exact ne_of_class h (by decide)
  · exact ⟨ne_of_class h (by decide), ne_of_class h (by decide)⟩
  · exact ne_of_class h (by decide)

theorem EndsBefore.isSeparator {c : Char} (h : EndsBefore t [c]) (word : ∀ s, t ≠ .symbol s) :
    isSeparator c :=
  h.word word c rfl

/-- What the characters after a token have in common holds of the character that follows now. -/
theorem EndsAlso.stop {P : Char → Prop} (h : EndsAlso t rest rest') (before : ∀ c ∈ rest.head?, P c)
    (other : ∀ c, EndsBefore t [c] → P c) : ∀ c ∈ rest'.head?, P c := by
  intro c hc
  rcases h.head c hc with same | ends
  · exact before c same
  · exact other c ends

theorem splitExponent_of_head? (stop : ∀ c ∈ rest.head?, isLabelChar c = false) :
    (splitExponent rest).1 = [] := by
  cases rest with
  | nil => rfl
  | cons c cs =>
    have small : 'e' ≠ c := ne_of_class (by decide) (stop c rfl)
    have capital : 'E' ≠ c := ne_of_class (by decide) (stop c rfl)
    simp [splitExponent, small.symm, capital.symm]

theorem EndsBefore.endsAlso (h : EndsBefore t rest') (call : opensCall rest' = opensCall rest) :
    EndsAlso t rest rest' where
  head _ hc := .inr (h.of_head?_eq (Option.mem_def.1 hc).symm)
  exponent word _ :=
    splitExponent_of_head? fun c hc => isLabelChar_of_isSeparator (h.word word c hc)
  call := call

theorem scanLess_boundary {cs : List Char} (cut : s ++ (scanLess cs).2 = cs)
    (ends : EndsAlso (.symbol (scanLess cs).1) (scanLess cs).2 rest') :
    scanLess (s ++ rest') = ((scanLess cs).1, rest') := by
  have single : ∀ {c : Char} {after : List Char}, s ++ after = c :: after → s = [c] := fun h =>
    List.append_cancel_right (h.trans List.singleton_append.symm)
  revert cut ends
  fun_cases scanLess cs with
  | case1 => exact fun cut _ => single cut ▸ rfl
  | case2 => exact fun cut _ => single cut ▸ rfl
  | case3 cs noEqual noGreater =>
    intro cut ends
    have stop : ∀ c ∈ rest'.head?, c ≠ '=' ∧ c ≠ '>' := by
      refine ends.stop (fun c hc => ?_) fun c ends => ends.less rfl c rfl
      obtain ⟨after, rfl⟩ := List.head?_eq_some_iff.1 hc
      exact ⟨fun h => noEqual after (h ▸ rfl), fun h => noGreater after (h ▸ rfl)⟩
    rw [List.append_left_eq_self.1 cut, List.nil_append]
    unfold scanLess
    split
    · exact absurd rfl (stop '=' rfl).1
    · exact absurd rfl (stop '>' rfl).2
    · rfl

theorem scanGreater_boundary {cs : List Char} (cut : s ++ (scanGreater cs).2 = cs)
    (ends : EndsAlso (.symbol (scanGreater cs).1) (scanGreater cs).2 rest') :
    scanGreater (s ++ rest') = ((scanGreater cs).1, rest') := by
  revert cut ends
  fun_cases scanGreater cs with
  | case1 => exact fun cut _ =>
      List.append_cancel_right (cut.trans List.singleton_append.symm) ▸ rfl
  | case2 cs noEqual =>
    intro cut ends
    have stop : ∀ c ∈ rest'.head?, c ≠ '=' := by
      refine ends.stop (fun c hc => ?_) fun c ends => ends.greater rfl c rfl
      obtain ⟨after, rfl⟩ := List.head?_eq_some_iff.1 hc
      exact fun h => noEqual after (h ▸ rfl)
    rw [List.append_left_eq_self.1 cut, List.nil_append]
    unfold scanGreater
    split
    · exact absurd rfl (stop '=' rfl)
    · rfl

theorem scanString_boundary {quote : Char} (isQuote : quote = '"' ∨ quote = '\'')
    (h : scanString quote (s ++ rest) = .ok (t, rest)) (ends : EndsAlso t rest rest') :
    scanString quote (s ++ rest') = .ok (t, rest') := by
  simp only [scanString] at h
  split at h
  · rename_i text after closed
    cases h
    have stop : ∀ c ∈ rest'.head?, c ≠ quote := by
      refine ends.stop (head?_closeQuote _ closed) fun c ends => ?_
      have separator := ends.isSeparator (by rintro _ ⟨⟩)
      rcases isQuote with rfl | rfl <;> exact ne_of_class separator (by decide)
    have cut := closeQuote_append _ closed
    rw [List.append_cons] at cut
    rw [List.append_cancel_right cut, List.append_assoc, List.singleton_append, scanString,
      closeQuote_escaped quote text stop]
  · cases h

theorem scanNumber_boundary (h : scanNumber (s ++ rest) = .ok (t, rest))
    (ends : EndsAlso t rest rest') : scanNumber (s ++ rest') = .ok (t, rest') := by
  have whole := splitNumber_append (s ++ rest)
  have noDigit := head?_splitNumber (s ++ rest)
  obtain ⟨lexeme, after, cut⟩ : ∃ lexeme after, splitNumber (s ++ rest) = (lexeme, after) :=
    ⟨_, _, rfl⟩
  rw [cut] at whole noDigit
  simp only [scanNumber, cut] at h
  split at h
  · rename_i x read
    cases h
    obtain rfl := List.append_cancel_right whole
    have stop : ∀ c ∈ rest'.head?, c.isDigit = false ∧ (c = '.' → rest.head? = some '.') := by
      refine ends.stop (fun c hc => ⟨noDigit c hc, fun h => h ▸ hc⟩) fun c ends => ?_
      have noLabel := isLabelChar_of_isSeparator (ends.isSeparator (by rintro _ ⟨⟩))
      exact ⟨isDigit_of_isLabelChar noLabel, fun h => absurd noLabel (h ▸ by decide)⟩
    simp only [scanNumber, splitNumber_boundary cut stop (ends.exponent (by rintro _ ⟨⟩)), read]
  · cases h

theorem scanError_boundary (h : scanError (s ++ rest) = .ok (t, rest))
    (ends : EndsAlso t rest rest') : scanError (s ++ rest') = .ok (t, rest') := by
  rcases scanError_cases h with
    ⟨rfl, chars, stop, read⟩ | ⟨word, mark, code, rfl, chars, isMark, rfl, read⟩
  · have stop : ∀ c ∈ rest'.head?, EndsNa c := by
      refine ends.stop stop fun c ends => ?_
      have separator := ends.isSeparator (by rintro _ ⟨⟩)
      exact ⟨isErrorChar_of_isSeparator separator (ends.slash rfl c rfl),
        ne_of_class separator (by decide), ne_of_class separator (by decide)⟩
    have split := takeWhile_append_stop chars fun c hc => (stop c hc).1
    have noMark : splitMark rest' = ([], rest') := splitMark_of_not_mark fun c hc => (stop c hc).2
    simp only [scanError, split, noMark, List.append_nil, read]
  · have notChar : ∀ c ∈ (mark :: rest').head?, isErrorChar c = false := by
      rintro _ ⟨⟩
      rcases isMark with rfl | rfl <;> decide
    have split := takeWhile_append_stop chars notChar
    have isSplit : splitMark (mark :: rest') = ([mark], rest') := by
      rcases isMark with rfl | rfl <;> rfl
    simp only [scanError, ← List.append_cons, split, isSplit, read]

theorem scanNamed_boundary (h : scanNamed (s ++ rest) = .ok (t, rest))
    (ends : EndsAlso t rest rest') : scanNamed (s ++ rest') = .ok (t, rest') := by
  simp only [scanNamed] at h
  split at h
  · cases h
  · rename_i nonempty
    simp only [Except.ok.injEq, Prod.mk.injEq] at h
    obtain ⟨rfl, cut⟩ := h
    have stop := ends.stop (all_of_dropWhile cut).2 fun c ends =>
      isNameChar_of_isSeparator (ends.isSeparator (by rintro _ ⟨⟩))
    have split := takeWhile_boundary cut stop
    rw [takeWhile_of_dropWhile cut] at nonempty ⊢
    simp only [scanNamed, split, nonempty]
    rfl

theorem scanLabel_boundary (h : scanLabel (s ++ rest) = .ok (t, rest))
    (ends : EndsAlso t rest rest') : scanLabel (s ++ rest') = .ok (t, rest') := by
  have cut := (rest_of_scanLabel h).symm
  have word : ∀ s, t ≠ .symbol s := by
    rcases word_of_scanLabel h with ⟨_, rfl⟩ | ⟨_, rfl⟩ <;> rintro _ ⟨⟩
  have stop := ends.stop (all_of_dropWhile cut).2 fun c ends =>
    isLabelChar_of_isSeparator (ends.isSeparator word)
  have split := takeWhile_boundary cut stop
  simp only [scanLabel, takeWhile_of_dropWhile cut, cut] at h
  simp only [scanLabel, split, ends.call]
  split at h
  · rename_i cell
    cases h
    rw [if_pos cell]
  · rename_i noCell
    rw [if_neg noCell]
    split at h
    · cases h
    · rename_i noDollar
      cases h
      rw [if_neg noDollar]

/-- A token is read alike before every text that it also ends before. -/
theorem scan_of_endsAlso (h : scan (s ++ rest) = .ok (t, rest)) (ends : EndsAlso t rest rest') :
    scan (s ++ rest') = .ok (t, rest') := by
  cases s with
  | nil => exact absurd (length_scan_lt h) (Nat.lt_irrefl _)
  | cons c s =>
    have scanned := scanned_of_scan h
    rw [List.cons_append] at scanned ⊢
    refine Scanned.scan ?_
    generalize hx : s ++ rest = cs at scanned
    cases scanned with
    | symbol simple =>
      obtain rfl := List.append_left_eq_self.1 hx
      exact .symbol simple rest'
    | less =>
      have before := scanLess_boundary hx ends
      have scanned := Scanned.less (s ++ rest')
      rwa [before] at scanned
    | greater =>
      have before := scanGreater_boundary hx ends
      have scanned := Scanned.greater (s ++ rest')
      rwa [before] at scanned
    | string isQuote read =>
      subst hx
      exact .string isQuote (scanString_boundary isQuote read ends)
    | number first read =>
      subst hx
      refine .number (first.imp_right fun ⟨hc, starts⟩ => ⟨hc, ?_⟩)
        (scanNumber_boundary (s := c :: s) read ends)
      cases s with
      | nil => exact (not_scanNumber_point (hc ▸ read)).elim
      | cons d s => exact starts
    | error read =>
      subst hx
      exact .error (scanError_boundary read ends)
    | named read =>
      subst hx
      exact .named (scanNamed_boundary read ends)
    | cell first read =>
      subst hx
      exact .cell first (scanLabel_boundary (s := c :: s) read ends)
    | name first read =>
      subst hx
      exact .name first (scanLabel_boundary (s := c :: s) read ends)

/-- A token is read alike before every text that it ends before. -/
theorem scan_of_endsBefore (h : scan (s ++ rest) = .ok (t, rest)) (ends : EndsBefore t rest')
    (call : opensCall rest' = opensCall rest) : scan (s ++ rest') = .ok (t, rest') :=
  scan_of_endsAlso h (ends.endsAlso call)

/-- `#N/A` is spelled without a mark, and ends where the characters of error literals do. -/
theorem na_of_scan (h : scan (s ++ rest) = .ok (.error .na, rest)) :
    ∃ word, s = '#' :: word ∧ (∀ c ∈ word, isErrorChar c) ∧ (∀ c ∈ rest.head?, EndsNa c) ∧
      ErrorCode.ofText? (String.ofList s) = some .na := by
  cases s with
  | nil => exact absurd (length_scan_lt h) (Nat.lt_irrefl _)
  | cons c s =>
    have scanned := scanned_of_scan h
    rw [List.cons_append] at scanned
    cases scanned with
    | error read =>
      rcases scanError_cases read with ⟨-, na⟩ | ⟨word, mark, code, rfl, -, isMark, same, known⟩
      · exact ⟨s, rfl, na⟩
      · cases same
        have last := congrArg List.getLast? (text_of_ofText? known)
        rw [List.flatMap_append, List.getLast?_append] at last
        rcases isMark with rfl | rfl <;> simp [ErrorCode.text, Text.upperChar] at last

/-- A `/` right after `#N/A` is taken for a part of the literal. -/
theorem scan_na_slash (h : scan (s ++ rest) = .ok (.error .na, rest)) (more : List Char) :
    ∃ text, scan (s ++ '/' :: more) = .error (.unknownError text) := by
  obtain ⟨word, rfl, chars, -, read⟩ := na_of_scan h
  have unknown : scan ('#' :: word ++ '/' :: more) = scanError (word ++ '/' :: more) := by
    simp [scan, simpleSymbol?]
  have none := ofText?_na_slash read (more.takeWhile isErrorChar ++
    (splitMark ((word ++ '/' :: more).dropWhile isErrorChar)).1)
  rw [unknown, scanError, List.takeWhile_append_of_pos chars,
    List.takeWhile_cons_of_pos (by decide)]
  simp only [List.cons_append, List.append_assoc] at none ⊢
  rw [none]
  exact ⟨_, rfl⟩

end EndsBefore

/-! ## Texts that break off

Of a text that follows a token the part `front` stays as it is, and after it, where `back` stood,
comes `back'`: nothing, or a text that starts with a blank. -/

section Break

variable {front back back' : List Char}

theorem startsWithDigit_of_break (blank : ∀ c ∈ back'.head?, Text.isBlank c)
    (h : startsWithDigit (front ++ back')) : startsWithDigit (front ++ back) := by
  cases front with
  | cons c cs => exact h
  | nil =>
    cases back' with
    | nil => cases h
    | cons c cs =>
      have noDigit : c.isDigit = false := by
        rw [Bool.eq_false_iff]
        intro digit
        have isBlank := blank c rfl
        rw [isBlank_of_isAlphanum (by simp [Char.isAlphanum, digit])] at isBlank
        cases isBlank
      rw [List.nil_append, startsWithDigit, noDigit] at h
      cases h

/-- A sign and a digit after it are both in front of the break. -/
theorem startsWithDigit_splitSign_of_break (blank : ∀ c ∈ back'.head?, Text.isBlank c)
    (h : startsWithDigit (splitSign (front ++ back')).2) :
    startsWithDigit (splitSign (front ++ back)).2 := by
  cases front with
  | nil =>
    have noSign : splitSign back' = ([], back') := by
      unfold splitSign
      split
      · exact absurd (blank '+' rfl) (by decide)
      · exact absurd (blank '-' rfl) (by decide)
      · rfl
    rw [List.nil_append, noSign] at h
    have digit : startsWithDigit ([] ++ []) := startsWithDigit_of_break blank h
    cases digit
  | cons c cs =>
    have sign := splitSign_cons c
    rcases sign with drops | keeps
    · rw [List.cons_append, drops] at h ⊢
      exact startsWithDigit_of_break blank h
    · rw [List.cons_append, keeps] at h ⊢
      exact h

theorem splitExponent_of_break (blank : ∀ c ∈ back'.head?, Text.isBlank c)
    (none : (splitExponent (front ++ back)).1 = []) : (splitExponent (front ++ back')).1 = [] := by
  cases front with
  | nil =>
    refine splitExponent_of_head? fun c hc => ?_
    exact isLabelChar_of_isSeparator (by simp [isSeparator, blank c hc])
  | cons c cs =>
    simp only [List.cons_append, splitExponent] at none ⊢
    split at none
    · cases none
    · rename_i noExponent
      refine congrArg Prod.fst (if_neg fun exponent => noExponent ?_)
      exact ⟨exponent.1, startsWithDigit_splitSign_of_break blank exponent.2⟩

theorem opensCall_append (call : opensCall back' = opensCall back) :
    opensCall (front ++ back') = opensCall (front ++ back) := by
  simp only [opensCall, Text.dropBlanks, List.dropWhile_append]
  split
  · exact call
  · rename_i some
    simp only [List.head?_append]
    cases h : front.dropWhile Text.isBlank with
    | nil => simp [h] at some
    | cons c cs => rfl

/-- A token is read alike before a text that breaks off. -/
theorem EndsAlso.of_break {t : Token} (blank : ∀ c ∈ back'.head?, Text.isBlank c)
    (call : opensCall back' = opensCall back) : EndsAlso t (front ++ back) (front ++ back') where
  head c hc := by
    cases front with
    | nil => exact .inr (endsBefore_of_isBlank (blank c hc))
    | cons d ds => exact .inl hc
  exponent _ := splitExponent_of_break blank
  call := opensCall_append call

end Break

end SheetFormula.Token
