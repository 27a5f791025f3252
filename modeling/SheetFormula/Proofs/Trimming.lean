import Mathlib
import SheetFormula.Builtin

/-!
# Trimming

A part of a text is a longest piece without spaces (`Text.IsPart`); `Text.parts` lists the parts in
order, by the index at which each begins. They are the words between which `TRIM` leaves one space
(`Text.parts_eq_words`). So its results are the texts without a space too many (`Text.Trimmed`), one
for each sequence of parts, and it keeps the parts (`Builtin.call_trim_normal`).
-/

namespace SheetFormula

namespace Text

/-! ## Parts of a text -/

/-- A piece of a text, between what stands before and after it, that has no space and cannot be made
longer without one. -/
structure IsPart (before part after : List Char) : Prop where
  nonempty : part ≠ []
  noSpace : ' ' ∉ part
  opens : ∀ c ∈ before.getLast?, c = ' '
  closes : ∀ c ∈ after.head?, c = ' '

/-- The part that begins at an index of a text which stands after a given character. -/
def partAt? (previous : Char) (cs : List Char) (i : Nat) : Option (List Char) :=
  if (previous :: cs)[i]? = some ' ' ∧ i < cs.length ∧ cs[i]? ≠ some ' ' then
    some ((cs.drop i).takeWhile (· ≠ ' '))
  else
    none

/-- The parts of a text which stands after a given character, in order. -/
def partsAfter (previous : Char) (cs : List Char) : List (List Char) :=
  (List.range cs.length).filterMap (partAt? previous cs)

/-- The parts of a text, in order. A text begins as after a space. -/
def parts (cs : List Char) : List (List Char) :=
  partsAfter ' ' cs

theorem isPart_of_partAt? {cs part : List Char} {i : Nat} (h : partAt? ' ' cs i = some part) :
    IsPart (cs.take i) part ((cs.drop i).dropWhile (· ≠ ' ')) ∧ i < cs.length ∧
      part = (cs.drop i).takeWhile (· ≠ ' ') := by
  rw [partAt?] at h
  split at h
  · rename_i starts
    obtain ⟨space, inside, letter⟩ := starts
    cases h
    refine ⟨⟨?_, fun mem => ?_, fun c last => ?_, fun c first => ?_⟩, inside, rfl⟩
    · rw [List.getElem?_eq_getElem inside, Ne, Option.some_inj] at letter
      rw [List.drop_eq_getElem_cons inside, List.takeWhile_cons_of_pos (by simpa using letter)]
      exact List.cons_ne_nil _ _
    · simpa using List.mem_takeWhile_imp mem
    · cases i with
      | zero => cases last
      | succ j =>
        have before : cs[j]? = some ' ' := by simpa using space
        rw [List.getLast?_take, if_neg (Nat.succ_ne_zero j), Nat.add_sub_cancel, before] at last
        exact (Option.some_inj.1 last).symm
    · have stops := List.head?_dropWhile_not (fun c => decide (c ≠ ' ')) (cs.drop i)
      rw [Option.mem_def.1 first] at stops
      simpa using stops
  · cases h

/-- What begins at an index is what `IsPart` says. -/
theorem partAt?_eq_some_iff {cs part : List Char} {i : Nat} :
    partAt? ' ' cs i = some part ↔
      ∃ before after, cs = before ++ part ++ after ∧ before.length = i ∧
        IsPart before part after := by
  constructor
  · intro h
    obtain ⟨whole, inside, rfl⟩ := isPart_of_partAt? h
    refine ⟨_, _, ?_, List.length_take_of_le (Nat.le_of_lt inside), whole⟩
    rw [List.append_assoc, List.takeWhile_append_dropWhile, List.take_append_drop]
  · rintro ⟨before, after, rfl, rfl, whole⟩
    obtain ⟨c, cs, rfl⟩ := List.exists_cons_of_ne_nil whole.nonempty
    have letter : ∀ d ∈ c :: cs, d ≠ ' ' := fun d mem space => whole.noSpace (space ▸ mem)
    have starts : (' ' :: (before ++ c :: cs ++ after))[before.length]? = some ' ' := by
      cases before using List.reverseRecOn with
      | nil => rfl
      | append_singleton before b =>
        rw [whole.opens b (by simp)]
        simp
    have ends : after.takeWhile (· ≠ ' ') = [] := by
      cases after with
      | nil => rfl
      | cons d after => rw [whole.closes d rfl]; rfl
    have taken : (c :: cs ++ after).takeWhile (· ≠ ' ') = c :: cs := by
      rw [List.takeWhile_append_of_pos fun d mem => decide_eq_true (letter d mem), ends,
        List.append_nil]
    rw [partAt?, if_pos ⟨starts, by simp, by simpa using letter c (List.mem_cons_self ..)⟩,
      List.append_assoc, List.drop_left, taken]

theorem partsAfter_cons (previous c : Char) (cs : List Char) :
    partsAfter previous (c :: cs) =
      (if previous = ' ' ∧ c ≠ ' ' then [c :: cs.takeWhile (· ≠ ' ')] else []) ++
        partsAfter c cs := by
  have shift : partAt? previous (c :: cs) ∘ Nat.succ = partAt? c cs := by
    funext i
    simp [partAt?]
  rw [partsAfter, List.length_cons, List.range_succ_eq_map, List.filterMap_cons, List.filterMap_map,
    shift, ← partsAfter]
  by_cases starts : previous = ' ' ∧ c ≠ ' '
  · simp [partAt?, starts]
  · simp [partAt?, starts]

/-! ## Words -/

theorem splitSpaces_eq_splitOn (cs : List Char) : splitSpaces cs = cs.splitOn ' ' := by
  induction cs with
  | nil => rfl
  | cons c cs ih =>
    rw [List.splitOn_cons_eq_if_modifyHead, ← ih, splitSpaces]
    by_cases space : c = ' '
    · rw [if_pos space, if_pos (beq_iff_eq.2 space)]
    · rw [if_neg space, if_neg (by simpa using space)]
      cases nonempty : splitSpaces cs with
      | nil => exact absurd (ih ▸ nonempty) (List.splitOn_ne_nil ' ' cs)
      | cons part parts => rfl

theorem splitSpaces_eq_cons (cs : List Char) :
    splitSpaces cs = cs.takeWhile (· ≠ ' ') :: (splitSpaces cs).tail := by
  induction cs with
  | nil => rfl
  | cons c cs ih =>
    rw [splitSpaces]
    by_cases space : c = ' '
    · rw [if_pos space, List.takeWhile_cons_of_neg (by simpa using space)]
      rfl
    · rw [if_neg space, ih, List.takeWhile_cons_of_pos (by simpa using space)]
      rfl

theorem tail_splitSpaces_cons (c : Char) (cs : List Char) :
    (splitSpaces (c :: cs)).tail = if c = ' ' then splitSpaces cs else (splitSpaces cs).tail := by
  rw [splitSpaces]
  split
  · rfl
  · rw [splitSpaces_eq_cons cs]
    rfl

theorem words_cons (c : Char) (cs : List Char) :
    words (c :: cs) =
      if c = ' ' then words cs
      else (c :: cs.takeWhile (· ≠ ' ')) :: (splitSpaces cs).tail.filter (!·.isEmpty) := by
  rw [words, splitSpaces]
  split
  · rfl
  · rw [splitSpaces_eq_cons cs]
    rfl

/-- Behind a character that is no space, what is left of its word is no part. -/
theorem partsAfter_eq (previous : Char) (cs : List Char) :
    partsAfter previous cs =
      if previous = ' ' then words cs else (splitSpaces cs).tail.filter (!·.isEmpty) := by
  induction cs generalizing previous with
  | nil => split <;> rfl
  | cons c cs ih =>
    rw [partsAfter_cons, ih c, words_cons, tail_splitSpaces_cons]
    by_cases space : c = ' '
    · simp [space, words]
    · by_cases starts : previous = ' '
      · simp [space, starts]
      · simp [space, starts]

theorem parts_eq_words (cs : List Char) : parts cs = words cs := by
  rw [parts, partsAfter_eq, if_pos rfl]

theorem noSpace_of_mem_words {cs word : List Char} (mem : word ∈ words cs) :
    word ≠ [] ∧ ' ' ∉ word := by
  rw [← parts_eq_words] at mem
  obtain ⟨i, -, starts⟩ := List.mem_filterMap.1 mem
  obtain ⟨whole, -⟩ := isPart_of_partAt? starts
  exact ⟨whole.nonempty, whole.noSpace⟩

/-! ## One space between words -/

/-- A text without a space at its ends and without two spaces in a row. -/
structure Trimmed (cs : List Char) : Prop where
  first : cs.head? ≠ some ' '
  last : cs.getLast? ≠ some ' '
  single : ¬[' ', ' '] <:+: cs

/-- No space at the end and no two in a row: after the first space, no part is empty. -/
theorem forall_mem_tail_splitSpaces_iff {cs : List Char} :
    (∀ part ∈ (splitSpaces cs).tail, part ≠ []) ↔
      cs.getLast? ≠ some ' ' ∧ ¬[' ', ' '] <:+: cs := by
  induction cs with
  | nil => simp [splitSpaces]
  | cons c cs ih =>
    rw [tail_splitSpaces_cons, List.infix_cons_iff, List.cons_prefix_cons]
    by_cases space : c = ' '
    · rw [if_pos space, splitSpaces_eq_cons, List.forall_mem_cons, ih]
      cases cs with
      | nil => simp [space]
      | cons d ds =>
        by_cases second : d = ' '
        · simp [space, second]
        · simp [space, second, Ne.symm second]
    · rw [if_neg space, ih]
      cases cs with
      | nil => simp [space]
      | cons d ds => simp [Ne.symm space]

theorem trimmed_iff {cs : List Char} :
    Trimmed cs ↔ cs = [] ∨ ∀ part ∈ splitSpaces cs, part ≠ [] := by
  rw [splitSpaces_eq_cons, List.forall_mem_cons, forall_mem_tail_splitSpaces_iff]
  cases cs with
  | nil => exact iff_of_true ⟨by simp, by simp, by simp⟩ (.inl rfl)
  | cons c cs =>
    have first : (c :: cs).takeWhile (· ≠ ' ') ≠ [] ↔ (c :: cs).head? ≠ some ' ' := by
      by_cases space : c = ' ' <;> simp [space]
    rw [first]
    constructor
    · rintro ⟨first, last, single⟩
      exact .inr ⟨first, last, single⟩
    · rintro (none | ⟨first, last, single⟩)
      · cases none
      · exact ⟨first, last, single⟩

theorem words_of_forall {cs : List Char} (h : ∀ part ∈ splitSpaces cs, part ≠ []) :
    words cs = splitSpaces cs :=
  List.filter_eq_self.2 fun part mem => by simpa using h part mem

section Joined

variable {ws : List (List Char)}

/-- Words with one space between each two are parted again at these spaces. -/
theorem splitSpaces_intercalate (nonempty : ws ≠ []) (noSpace : ∀ w ∈ ws, ' ' ∉ w) :
    splitSpaces ([' '].intercalate ws) = ws := by
  rw [splitSpaces_eq_splitOn, List.splitOn_intercalate ' ' noSpace nonempty]

theorem words_intercalate (h : ∀ w ∈ ws, w ≠ [] ∧ ' ' ∉ w) : words ([' '].intercalate ws) = ws := by
  by_cases none : ws = []
  · rw [none]
    rfl
  · have split := splitSpaces_intercalate none fun w mem => (h w mem).2
    rw [words_of_forall, split]
    rw [split]
    exact fun w mem => (h w mem).1

theorem trimmed_intercalate (h : ∀ w ∈ ws, w ≠ [] ∧ ' ' ∉ w) :
    Trimmed ([' '].intercalate ws) := by
  by_cases none : ws = []
  · rw [none, trimmed_iff]
    exact .inl rfl
  · rw [trimmed_iff, splitSpaces_intercalate none fun w mem => (h w mem).2]
    exact .inr fun w mem => (h w mem).1

end Joined

/-! ## The trimmed text -/

section Squeezed

variable (s : String)

theorem toList_squeezeSpaces : (squeezeSpaces s).toList = [' '].intercalate (words s.toList) :=
  String.toList_ofList

theorem words_squeezeSpaces : words (squeezeSpaces s).toList = words s.toList := by
  rw [toList_squeezeSpaces, words_intercalate fun _ => noSpace_of_mem_words]

theorem trimmed_squeezeSpaces : Trimmed (squeezeSpaces s).toList := by
  rw [toList_squeezeSpaces]
  exact trimmed_intercalate fun _ => noSpace_of_mem_words

theorem squeezeSpaces_eq_self_iff : squeezeSpaces s = s ↔ Trimmed s.toList := by
  constructor
  · intro same
    rw [← same]
    exact trimmed_squeezeSpaces s
  · intro trimmed
    rw [← String.toList_inj, toList_squeezeSpaces]
    rcases trimmed_iff.1 trimmed with none | parts
    · rw [none]
      rfl
    · rw [words_of_forall parts, splitSpaces_eq_splitOn, List.intercalate_splitOn]

theorem squeezeSpaces_eq_iff {s u : String} :
    squeezeSpaces s = squeezeSpaces u ↔ words s.toList = words u.toList := by
  constructor
  · intro same
    rw [← words_squeezeSpaces, same, words_squeezeSpaces]
  · intro same
    rw [squeezeSpaces, squeezeSpaces, same]

end Squeezed

end Text

namespace Builtin

theorem call_trim {v : Value} (scalar : v.isArray = false) :
    trim.call [v] = .ok (.string (Text.squeezeSpaces v.text)) := by
  cases v with
  | array items => cases scalar
  | empty | null | boolean | number | string => rfl

/-- `TRIM` gives a text without a space at its ends and without two in a row. It has the parts of
the text that is trimmed, and is this text just if that is trimmed already; so to trim again changes
nothing. Two texts are trimmed alike just if they have the same parts. -/
theorem call_trim_normal {v : Value} (scalar : v.isArray = false) :
    ∃ s : String, trim.call [v] = .ok (.string s) ∧ Text.Trimmed s.toList ∧
      Text.parts s.toList = Text.parts v.text.toList ∧
      (s = v.text ↔ Text.Trimmed v.text.toList) ∧
      trim.call [.string s] = .ok (.string s) ∧
      ∀ w : Value, w.isArray = false →
        (trim.call [v] = trim.call [w] ↔ Text.parts v.text.toList = Text.parts w.text.toList) := by
  refine ⟨_, call_trim scalar, Text.trimmed_squeezeSpaces _, ?_, Text.squeezeSpaces_eq_self_iff _,
    ?_, fun w scalar' => ?_⟩
  · rw [Text.parts_eq_words, Text.parts_eq_words, Text.words_squeezeSpaces]
  · rw [call_trim rfl, Value.text,
      (Text.squeezeSpaces_eq_self_iff _).2 (Text.trimmed_squeezeSpaces _)]
  · rw [call_trim scalar, call_trim scalar', Except.ok.injEq, Value.string.injEq,
      Text.squeezeSpaces_eq_iff, Text.parts_eq_words, Text.parts_eq_words]

/-- Only the space parts a text: a tabulator belongs to a part. -/
theorem call_trim_tabulator :
    trim.call [.string "  a\t  b "] = .ok (.string "a\t b") ∧
      Text.parts "  a\t  b ".toList = ["a\t".toList, "b".toList] ∧
      trim.call [.string "  a\t  b "] = trim.call [.string "a\t b"] := by
  have parts : Text.parts "  a\t  b ".toList = ["a\t".toList, "b".toList] := by decide
  have parts' : Text.parts "a\t b".toList = ["a\t".toList, "b".toList] := by decide
  have called : trim.call [.string "  a\t  b "] = .ok (.string "a\t b") := by cbv
  obtain ⟨s, -, -, -, -, -, alike⟩ := call_trim_normal (v := .string "  a\t  b ") rfl
  exact ⟨called, parts, (alike (.string "a\t b") rfl).2 (parts.trans parts'.symm)⟩

end Builtin

end SheetFormula
