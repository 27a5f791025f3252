import SheetFormula.Decimal.Numeral
import SheetFormula.Failure
import SheetFormula.Text.Blank

/-!
# Reading tokens

`Token.scan` reads the token that a text starts with, and `Token.ofText` all tokens of a text, which
blank characters may separate. A token is as long as its class of characters allows, so `1.5e` is
the number `1.5` before the name `e`.

* `Token.length_scan_lt`: a token has at least one character.
* `Token.ofText`: of the faults of a text the first counts, with the offset of its token in bytes.
-/

namespace SheetFormula.Token

/-! ## Numbers -/

/-- The point and the digits after it that a text starts with, and what follows them. -/
def splitPoint : List Char → List Char × List Char
  | '.' :: cs => ('.' :: cs.takeWhile Char.isDigit, cs.dropWhile Char.isDigit)
  | cs => ([], cs)

/-- The sign that a text starts with, and what follows it. -/
def splitSign : List Char → List Char × List Char
  | '+' :: cs => (['+'], cs)
  | '-' :: cs => (['-'], cs)
  | cs => ([], cs)

/-- Whether a text starts with a digit. -/
def startsWithDigit : List Char → Bool
  | c :: _ => c.isDigit
  | [] => false

/-- The exponent that a text starts with, and what follows it. An `e` without digits after it is
no exponent. -/
def splitExponent : List Char → List Char × List Char
  | [] => ([], [])
  | c :: cs =>
    let (sign, ds) := splitSign cs
    if (c = 'e' ∨ c = 'E') ∧ startsWithDigit ds then
      (c :: sign ++ ds.takeWhile Char.isDigit, ds.dropWhile Char.isDigit)
    else
      ([], c :: cs)

/-- The spelling of the number that a text starts with, and what follows it. -/
def splitNumber (cs : List Char) : List Char × List Char :=
  let (point, afterPoint) := splitPoint (cs.dropWhile Char.isDigit)
  let (exponent, rest) := splitExponent afterPoint
  (cs.takeWhile Char.isDigit ++ point ++ exponent, rest)

/-- The number that a text starts with. -/
def scanNumber (cs : List Char) : Except LexFault (Token × List Char) :=
  let (lexeme, rest) := splitNumber cs
  match Decimal.Numeral.read? lexeme with
  | some x => .ok (.number x.toFloat, rest)
  | none => .error (.invalidNumber (String.ofList lexeme))

/-! ## Strings -/

/-- The characters up to the closing quote, and what follows it; a doubled quote is one quote. -/
def closeQuote (quote : Char) : List Char → Option (List Char × List Char)
  | [] => none
  | [c] => if c = quote then some ([], []) else none
  | c :: d :: cs =>
    if c ≠ quote then (closeQuote quote (d :: cs)).map fun r => (c :: r.1, r.2)
    else if d = quote then (closeQuote quote cs).map fun r => (quote :: r.1, r.2)
    else some ([], d :: cs)

/-- The string after an opening quote. -/
def scanString (quote : Char) (cs : List Char) : Except LexFault (Token × List Char) :=
  match closeQuote quote cs with
  | some (s, rest) => .ok (.string (String.ofList s), rest)
  | none => .error .unterminatedString

/-! ## Error literals, names and references -/

/-- Whether a character may stand in a name. -/
def isNameChar (c : Char) : Bool :=
  c.isAlphanum || c = '_'

/-- Whether a character may stand in an error literal before its last. -/
def isErrorChar (c : Char) : Bool :=
  c.isAlphanum || c = '/'

/-- The mark that may end an error literal, and what follows it. -/
def splitMark : List Char → List Char × List Char
  | '!' :: cs => (['!'], cs)
  | '?' :: cs => (['?'], cs)
  | cs => ([], cs)

/-- The error literal after a `#`. -/
def scanError (cs : List Char) : Except LexFault (Token × List Char) :=
  let (mark, rest) := splitMark (cs.dropWhile isErrorChar)
  let text := String.ofList ('#' :: cs.takeWhile isErrorChar ++ mark)
  match ErrorCode.ofText? text with
  | some code => .ok (.error code, rest)
  | none => .error (.unknownError text)

/-- The named reference after an `@`. -/
def scanNamed (cs : List Char) : Except LexFault (Token × List Char) :=
  let name := cs.takeWhile isNameChar
  if name.isEmpty then .error .missingName
  else .ok (.reference ⟨.named, String.ofList ('@' :: name)⟩, cs.dropWhile isNameChar)

/-- What follows a `$`, if there is one. -/
def dropDollar : List Char → List Char
  | '$' :: cs => cs
  | cs => cs

/-- Whether a text starts with a letter. -/
def startsWithLetter : List Char → Bool
  | c :: _ => c.isAlpha
  | [] => false

/-- Whether a text is letters and digits, each with an optional `$` in front. -/
def isCellLabel (cs : List Char) : Bool :=
  let letters := dropDollar cs
  let digits := dropDollar (letters.dropWhile Char.isAlpha)
  startsWithLetter letters && startsWithDigit digits && digits.all Char.isDigit

/-- Whether a character may stand in a name or in a reference to a cell. -/
def isLabelChar (c : Char) : Bool :=
  isNameChar c || c = '$' || c = '.'

/-- Whether the next character that is not blank opens a parenthesis. -/
def opensCall (cs : List Char) : Bool :=
  (Text.dropBlanks cs).head? = some '('

/-- The name or the reference to a cell that a text starts with. In front of a parenthesis a label
names a function, so `LOG10(1)` refers to no cell. -/
def scanLabel (cs : List Char) : Except LexFault (Token × List Char) :=
  let label := cs.takeWhile isLabelChar
  let rest := cs.dropWhile isLabelChar
  if isCellLabel label && !opensCall rest then
    .ok (.reference ⟨.cell, String.ofList label⟩, rest)
  else if label.contains '$' then
    .error (.invalidReference (String.ofList label))
  else
    .ok (.identifier (String.ofList label), rest)

/-! ## Symbols -/

/-- The symbol of one character that no other symbol starts with. -/
def simpleSymbol? : Char → Option Symbol
  | '+' => some .plus
  | '-' => some .minus
  | '*' => some .star
  | '/' => some .slash
  | '^' => some .caret
  | '%' => some .percent
  | '&' => some .ampersand
  | '=' => some .equal
  | ':' => some .colon
  | ',' => some .comma
  | ';' => some .semicolon
  | '(' => some .leftParen
  | ')' => some .rightParen
  | '{' => some .leftBrace
  | '}' => some .rightBrace
  | _ => none

/-- The symbol after a `<`. -/
def scanLess : List Char → Symbol × List Char
  | '=' :: cs => (.lessEqual, cs)
  | '>' :: cs => (.notEqual, cs)
  | cs => (.lessThan, cs)

/-- The symbol after a `>`. -/
def scanGreater : List Char → Symbol × List Char
  | '=' :: cs => (.greaterEqual, cs)
  | cs => (.greaterThan, cs)

/-! ## All tokens -/

/-- The token that a text starts with, and what follows it. -/
def scan : List Char → Except LexFault (Token × List Char)
  | [] => .error .unexpectedEnd
  | c :: cs =>
    match simpleSymbol? c with
    | some sym => .ok (.symbol sym, cs)
    | none =>
      if c = '<' then .ok (.symbol (scanLess cs).1, (scanLess cs).2)
      else if c = '>' then .ok (.symbol (scanGreater cs).1, (scanGreater cs).2)
      else if c = '"' ∨ c = '\'' then scanString c cs
      else if c.isDigit ∨ (c = '.' ∧ startsWithDigit cs) then scanNumber (c :: cs)
      else if c = '#' then scanError cs
      else if c = '@' then scanNamed cs
      else if c.isAlpha ∨ c = '_' ∨ c = '$' then scanLabel (c :: cs)
      else .error (.unexpectedCharacter c)

/-! ### A token has at least one character -/

theorem length_dropWhile_le (p : Char → Bool) (cs : List Char) :
    (cs.dropWhile p).length ≤ cs.length :=
  (List.dropWhile_sublist p).length_le

theorem length_splitPoint_le (cs : List Char) : (splitPoint cs).2.length ≤ cs.length := by
  unfold splitPoint
  split
  · exact Nat.le_succ_of_le (length_dropWhile_le _ _)
  · exact Nat.le_refl _

theorem length_splitSign_le (cs : List Char) : (splitSign cs).2.length ≤ cs.length := by
  unfold splitSign
  split <;> simp

theorem length_splitExponent_le (cs : List Char) : (splitExponent cs).2.length ≤ cs.length := by
  cases cs with
  | nil => simp [splitExponent]
  | cons c cs =>
    simp only [splitExponent]
    split
    · exact Nat.le_succ_of_le (Nat.le_trans (length_dropWhile_le _ _) (length_splitSign_le cs))
    · exact Nat.le_refl _

theorem length_splitMark_le (cs : List Char) : (splitMark cs).2.length ≤ cs.length := by
  unfold splitMark
  split <;> simp

theorem length_closeQuote_le (quote : Char) (cs : List Char) :
    ∀ r ∈ closeQuote quote cs, r.2.length ≤ cs.length := by
  fun_induction closeQuote quote cs with
  | case1 => simp
  | case2 => simp
  | case3 => simp
  | case4 c d cs _ ih =>
    intro r hr
    obtain ⟨r', hr', rfl⟩ := Option.map_eq_some_iff.1 hr
    exact Nat.le_succ_of_le (ih r' hr')
  | case5 c cs _ ih =>
    intro r hr
    obtain ⟨r', hr', rfl⟩ := Option.map_eq_some_iff.1 hr
    exact Nat.le_succ_of_le (Nat.le_succ_of_le (ih r' hr'))
  | case6 => simp

theorem length_scanLess_le (cs : List Char) : (scanLess cs).2.length ≤ cs.length := by
  unfold scanLess
  split <;> simp

theorem length_scanGreater_le (cs : List Char) : (scanGreater cs).2.length ≤ cs.length := by
  unfold scanGreater
  split <;> simp

theorem length_splitNumber_lt {c : Char} {cs : List Char}
    (hc : c.isDigit ∨ (c = '.' ∧ startsWithDigit cs)) :
    (splitNumber (c :: cs)).2.length < (c :: cs).length := by
  simp only [splitNumber]
  refine Nat.lt_of_le_of_lt (length_splitExponent_le _) ?_
  rcases hc with hc | ⟨rfl, -⟩
  · rw [List.dropWhile_cons_of_pos hc]
    exact Nat.lt_succ_of_le (Nat.le_trans (length_splitPoint_le _) (length_dropWhile_le _ _))
  · rw [List.dropWhile_cons_of_neg (by decide)]
    exact Nat.lt_succ_of_le (length_dropWhile_le _ _)

theorem length_scanNumber_lt {c : Char} {cs : List Char} {r : Token × List Char}
    (hc : c.isDigit ∨ (c = '.' ∧ startsWithDigit cs)) (h : scanNumber (c :: cs) = .ok r) :
    r.2.length < (c :: cs).length := by
  simp only [scanNumber] at h
  split at h
  · cases h
    exact length_splitNumber_lt hc
  · cases h

theorem length_scanString_le {quote : Char} {cs : List Char} {r : Token × List Char}
    (h : scanString quote cs = .ok r) : r.2.length ≤ cs.length := by
  simp only [scanString] at h
  split at h
  · cases h
    exact length_closeQuote_le quote cs _ ‹_›
  · cases h

theorem length_scanError_le {cs : List Char} {r : Token × List Char} (h : scanError cs = .ok r) :
    r.2.length ≤ cs.length := by
  simp only [scanError] at h
  split at h
  · cases h
    exact Nat.le_trans (length_splitMark_le _) (length_dropWhile_le _ _)
  · cases h

theorem length_scanNamed_le {cs : List Char} {r : Token × List Char} (h : scanNamed cs = .ok r) :
    r.2.length ≤ cs.length := by
  simp only [scanNamed] at h
  split at h
  · cases h
  · cases h
    exact length_dropWhile_le _ _

theorem rest_of_scanLabel {cs : List Char} {r : Token × List Char} (h : scanLabel cs = .ok r) :
    r.2 = cs.dropWhile isLabelChar := by
  simp only [scanLabel] at h
  split at h
  · cases h
    rfl
  · split at h <;> cases h
    rfl

/-- A token has at least one character. -/
theorem length_scan_lt {cs : List Char} {r : Token × List Char} (h : scan cs = .ok r) :
    r.2.length < cs.length := by
  cases cs with
  | nil => simp [scan] at h
  | cons c cs =>
    simp only [scan] at h
    split at h
    · cases h
      exact Nat.lt_succ_self _
    · split at h
      · cases h
        exact Nat.lt_succ_of_le (length_scanLess_le cs)
      split at h
      · cases h
        exact Nat.lt_succ_of_le (length_scanGreater_le cs)
      split at h
      · exact Nat.lt_succ_of_le (length_scanString_le h)
      split at h
      · exact length_scanNumber_lt ‹_› h
      split at h
      · exact Nat.lt_succ_of_le (length_scanError_le h)
      split at h
      · exact Nat.lt_succ_of_le (length_scanNamed_le h)
      split at h
      · rename_i hc
        have label : isLabelChar c = true := by
          simp only [isLabelChar, isNameChar, Char.isAlphanum]
          rcases hc with hc | rfl | rfl <;> simp [*]
        rw [rest_of_scanLabel h, List.dropWhile_cons_of_pos label]
        exact Nat.lt_succ_of_le (length_dropWhile_le _ _)
      · cases h

/-! ## All tokens of a text -/

/-- A fault with the text from the start of its token on. -/
structure FaultAt where
  fault : LexFault
  rest : List Char

/-- The tokens of a text, or its first fault. -/
def tokensOf (cs : List Char) : Except FaultAt (List Token) :=
  match Text.dropBlanks cs, Text.length_dropBlanks_le cs with
  | [], _ => .ok []
  | c :: rest, le =>
    match h : scan (c :: rest) with
    | .error fault => .error ⟨fault, c :: rest⟩
    | .ok (token, after) =>
      have : after.length < cs.length := Nat.lt_of_lt_of_le (length_scan_lt h) le
      (tokensOf after).map (token :: ·)
termination_by cs.length

/-- The number of bytes of a text in UTF-8. -/
def byteLength : List Char → Nat
  | [] => 0
  | c :: cs => c.utf8Size + byteLength cs

/-- The tokens of a text; a fault is found at the offset, in bytes, of the token it spoils. -/
def ofText (s : String) : Except Failure (List Token) :=
  match tokensOf s.toList with
  | .ok tokens => .ok tokens
  | .error ⟨fault, rest⟩ => .error (.lex (byteLength s.toList - byteLength rest) fault)

end SheetFormula.Token
