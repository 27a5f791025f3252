import Mathlib
import SheetFormula.Proofs.Together
import SheetFormula.Proofs.Watch

/-!
# Codes in messages

A failure in the host's own words is reported with the first code whose keyword occurs in them. The
text of a code has its own keyword and no other one, and no keyword runs across an end of it
(`ErrorCode.isIn_wrapped_iff`). So words around the text matter only where they have the keyword of
an earlier code (`ErrorCode.ofMessage_wrapped`).

A function of the host that fails ends the evaluation of the formula, wherever it is called
(`Engine.evaluate_of_hostFails`), so this decides what the formula evaluates to
(`Engine.evaluate_wrapped`).
-/

namespace SheetFormula

/-! ## Pieces of a text -/

/-- Between any two texts, no occurrence of `part` runs across an end of `middle`: what `middle`
begins with is not in `part`, and `middle` does not end in a beginning of `part`. -/
structure StaysInside (part middle : List Char) : Prop where
  nonempty : middle ≠ []
  first : ∀ c ∈ middle.take 1, c ∉ part
  last : ∀ i < part.length, 0 < i → ¬part.take i <:+ middle

theorem StaysInside.infix_iff {part middle : List Char} (h : StaysInside part middle)
    (before after : List Char) :
    part <:+: before ++ (middle ++ after) ↔
      part <:+: before ∨ part <:+: middle ∨ part <:+: after := by
  constructor
  · intro occurs
    rcases List.infix_append_iff.1 occurs with inside | occurs | ⟨x, y, rfl, atEnd, atStart⟩
    · exact .inl inside
    · rcases List.infix_append_iff.1 occurs with inside | inside | ⟨x, y, rfl, atEnd, atStart⟩
      · exact .inr (.inl inside)
      · exact .inr (.inr inside)
      · rcases List.eq_nil_or_concat x with rfl | ⟨_, _, hx⟩
        · exact .inr (.inr atStart.isInfix)
        · rcases List.eq_nil_or_concat y with rfl | ⟨_, _, hy⟩
          · rw [List.append_nil]
            exact .inr (.inl atEnd.isInfix)
          · refine absurd ?_ (h.last x.length (by simp [hy]) (by simp [hx]))
            rwa [List.take_left]
    · cases y with
      | nil =>
        rw [List.append_nil]
        exact .inl atEnd.isInfix
      | cons c y =>
        obtain ⟨d, ds, rfl⟩ := List.exists_cons_of_ne_nil h.nonempty
        obtain ⟨rfl, -⟩ := List.cons_prefix_cons.1 atStart
        exact absurd (List.mem_append_right x (List.mem_cons_self ..)) (h.first c (by simp))
  · rintro (inside | inside | inside)
    · exact inside.trans (List.prefix_append ..).isInfix
    · exact inside.trans (List.infix_append' ..)
    · exact inside.trans ((List.suffix_append ..).trans (List.suffix_append ..)).isInfix

namespace ErrorCode

/-! ## Keywords -/

/-- The codes that messages are searched for before a given one. -/
def earlier (code : ErrorCode) : List ErrorCode :=
  all.takeWhile (· ≠ code)

/-- The keyword of a code occurs in a text. -/
def IsIn (code : ErrorCode) (s : String) : Prop :=
  code.keyword.toList <:+: s.toList

instance (code : ErrorCode) (s : String) : Decidable (code.IsIn s) :=
  decidable_of_iff _ Text.occursIn_iff

theorem take_one_text (code : ErrorCode) : code.text.toList.take 1 = ['#'] := by
  cases code <;> rfl

theorem hash_notMem_keyword (code : ErrorCode) : '#' ∉ code.keyword.toList := by
  cases code <;> decide

/-- In particular `#N/A`, which has no mark at its end, does not end as a keyword begins. -/
theorem staysInside (code other : ErrorCode) :
    StaysInside other.keyword.toList code.text.toList where
  nonempty none := by simpa [none] using take_one_text code
  first := by
    rw [take_one_text]
    exact List.forall_mem_singleton.2 other.hash_notMem_keyword
  last := by
    cases code <;> cases other <;> decide

theorem isIn_text_iff {code other : ErrorCode} : other.IsIn code.text ↔ other = code := by
  cases code <;> cases other <;> decide

theorem isIn_wrapped_iff {code other : ErrorCode} {p q : String} :
    other.IsIn (p ++ code.text ++ q) ↔ other.IsIn p ∨ other.IsIn q ∨ other = code := by
  have apart := (staysInside code other).infix_iff p.toList q.toList
  rw [← isIn_text_iff, IsIn, String.toList_append, String.toList_append, List.append_assoc, apart]
  exact or_congr_right or_comm

/-! ## Search -/

theorem exists_all_eq (code : ErrorCode) : ∃ later, all = code.earlier ++ code :: later := by
  cases code <;> exact ⟨_, rfl⟩

theorem notMem_earlier (code : ErrorCode) : code ∉ code.earlier := by
  cases code <;> decide

theorem ofMessage_eq (message : String) :
    ofMessage message = (all.find? fun code => code.IsIn message).getD .error := by
  have same : ∀ code : ErrorCode,
      Text.occursIn code.keyword.toList message.toList = decide (code.IsIn message) := by
    intro code
    rw [Bool.eq_iff_iff, Text.occursIn_iff, decide_eq_true_iff]
    rfl
  rw [ofMessage, funext same]

/-- The text of a code is found in a message unless an earlier keyword occurs around it. -/
theorem ofMessage_wrapped (code : ErrorCode) (p q : String) :
    ofMessage (p ++ code.text ++ q) =
      (code.earlier.find? fun other => other.IsIn p ∨ other.IsIn q).getD code := by
  obtain ⟨later, split⟩ := code.exists_all_eq
  have found : ((code :: later).find? fun other => other.IsIn (p ++ code.text ++ q)) = some code :=
    List.find?_cons_of_pos (decide_eq_true (isIn_wrapped_iff.2 (.inr (.inr rfl))))
  have around : code.earlier.find? (fun other => other.IsIn (p ++ code.text ++ q)) =
      code.earlier.find? fun other => other.IsIn p ∨ other.IsIn q := by
    refine List.find?_congr fun other mem => ?_
    have ne : other ≠ code := fun same => code.notMem_earlier (same ▸ mem)
    simp [isIn_wrapped_iff, ne]
  rw [ofMessage_eq, split, List.find?_append, around, found]
  cases code.earlier.find? fun other => other.IsIn p ∨ other.IsIn q <;> rfl

end ErrorCode

/-! ## Failing calls -/

/-- A failing answer is the last one, and what a run ends in. -/
theorem Expr.Runs.result_of_mem {e : Expr} {xs : List Exchange} {result : Except Failure Value}
    (runs : e.Runs xs result) {lookup : Lookup} {failure : Failure}
    (mem : ⟨lookup, .error failure⟩ ∈ xs) : result = .error failure := by
  have unanswered : ∀ {xs}, Answered xs → ⟨lookup, .error failure⟩ ∉ xs := by
    intro xs answered mem
    obtain ⟨v, hv⟩ := answered _ mem
    cases hv
  have follows := runs.follows false
  cases result with
  | ok v => exact absurd mem (unanswered (follows.ok v rfl).2)
  | error failure' =>
    obtain ⟨before, x, rfl, answered, last⟩ | ⟨answered, -⟩ := follows.error failure' rfl
    · rcases List.mem_append.1 mem with earlier | isLast
      · exact absurd earlier (unanswered answered)
      · rw [← List.mem_singleton.1 isLast] at last
        exact last.symm
    · exact absurd mem (unanswered answered)

/-- A transcript beside the host's state holds lookups with answers of the context. -/
structure Context.Transcribed {σ : Type} (context : Context σ) (s : σ) (t : List Exchange × σ) :
    Prop where
  same : t.2 = s
  answered : ∀ x ∈ t.1, ∃ asked after, context x.lookup asked = (x.answer, after)

theorem Context.exists_of_mem_transcript {σ : Type} {context : Context σ} {e : Expr} {s : σ}
    {x : Exchange} (mem : x ∈ (e.eval context.transcribing ([], s)).2.1) :
    ∃ asked after, context x.lookup asked = (x.answer, after) := by
  have covered : Expr.Covered context context.transcribing context.Transcribed (fun _ => True)
      (fun _ _ => True) e :=
    { asked := by
        rintro lookup - - s ⟨xs, _⟩ ⟨rfl, kept⟩
        refine ⟨⟨rfl, List.forall_mem_append.2 ⟨kept, ?_⟩⟩, rfl, ?_⟩
        · exact List.forall_mem_singleton.2 ⟨_, _, rfl⟩
        · cases (context lookup _).1 <;> trivial
      literal := fun _ _ _ _ _ => trivial
      computed := fun _ _ _ _ _ => trivial
      finite := fun _ _ => trivial
      block := fun _ _ => trivial }
  have start : context.Transcribed s ([], s) := ⟨rfl, List.forall_mem_nil _⟩
  exact (e.eval_together covered s ([], s) start).1.answered x mem

namespace Engine

variable {σ : Type} {engine : Engine σ} {text : String} {s : σ} {failure : Failure}

/-- While a formula is evaluated, a function of the host is called and this fails. -/
def HostFails (engine : Engine σ) (text : String) (s : σ) (failure : Failure) : Prop :=
  ∃ e name function args, Formula.parse engine.options text = .ok e ∧
    engine.functions.get? name = some function ∧
    ⟨.call name args, .error failure⟩ ∈ (e.eval engine.context.transcribing ([], s)).2.1

/-- It is the function that fails: the handler of functions does not. -/
theorem HostFails.exists_failed (h : engine.HostFails text s failure) :
    ∃ name function args asked after, engine.functions.get? name = some function ∧
      function args asked = (.error failure, after) := by
  obtain ⟨e, name, function, args, -, defined, mem⟩ := h
  obtain ⟨asked, after, failed⟩ := Context.exists_of_mem_transcript mem
  simp only [context, Functions.resolve] at failed
  rw [Action.lift_bind, defined] at failed
  cases answer : (engine.handlers.askFunction name args asked).1 with
  | some v =>
    rw [answer] at failed
    cases failed
  | none =>
    rw [answer] at failed
    exact ⟨name, function, args, _, after, defined, failed⟩

theorem evaluate_of_hostFails (h : engine.HostFails text s failure) :
    (engine.evaluate text s).1.1 = .error failure.code := by
  obtain ⟨e, name, function, args, parsed, -, mem⟩ := h
  obtain ⟨xs, runs, seen⟩ := e.exists_runs engine.context s
  rw [Context.transcribing, seen, List.foldl_append_eq_append, ← List.flatMap_def,
    List.flatMap_singleton', List.nil_append] at mem
  rw [evaluate_of_parse parsed, runs.result_of_mem mem]
  rfl

/-- A function of the host that fails with the text of a code, in whatever words, is reported with
this code just if the words have no keyword of an earlier code, and else with the first of these.
The words and the text have the keywords of the words, that of the code, and no other. -/
theorem evaluate_wrapped (code : ErrorCode) (p q : String)
    (fails : engine.HostFails text s (.other (p ++ code.text ++ q))) :
    ∃ reported, (engine.evaluate text s).1.1 = .error reported ∧
      (reported = code ↔ ∀ other ∈ code.earlier, ¬other.IsIn p ∧ ¬other.IsIn q) ∧
      reported = (code.earlier.find? fun other => other.IsIn p ∨ other.IsIn q).getD code ∧
      ∀ other : ErrorCode,
        other.IsIn (p ++ code.text ++ q) ↔ other.IsIn p ∨ other.IsIn q ∨ other = code := by
  refine ⟨_, evaluate_of_hostFails fails, ?_, ErrorCode.ofMessage_wrapped code p q, fun _ =>
    ErrorCode.isIn_wrapped_iff⟩
  change ErrorCode.ofMessage _ = code ↔ _
  rw [ErrorCode.ofMessage_wrapped]
  cases found : code.earlier.find? fun other => other.IsIn p ∨ other.IsIn q with
  | none => simpa using found
  | some other =>
    have mem := List.mem_of_find?_eq_some found
    have isIn := List.find?_some found
    refine iff_of_false (fun same => code.notMem_earlier (same ▸ mem)) fun none => ?_
    simp [none other mem] at isIn

/-- A function that fails in the words it is given, called within a formula. In words with `#REF!` a
`NUM` counts before it, also behind it, and `VALUE` does not. -/
theorem evaluate_wrapped_number :
    let fail : HostFunction Unit := fun args => throw (.other (String.join (args.map Value.text)))
    let engine : Engine Unit := { functions := Functions.empty.set "FAIL" fail }
    engine.HostFails "-Fail('VALUE at #REF! is no NUMBER')" ()
        (.other ("VALUE at " ++ ErrorCode.ref.text ++ " is no NUMBER")) ∧
      (engine.evaluate "-Fail('VALUE at #REF! is no NUMBER')" ()).1.1 = .error .num ∧
      engine.HostFails "-Fail('VALUE at #REF!')" ()
        (.other ("VALUE at " ++ ErrorCode.ref.text ++ "")) ∧
      (engine.evaluate "-Fail('VALUE at #REF!')" ()).1.1 = .error .ref := by
  intro fail engine
  have defined : engine.functions.get? "FAIL" = some fail := by
    simp [engine, Functions.get?_set]
  have called : ∀ args s, engine.context (.call "FAIL" args) s = fail args s := by
    intro args s
    simp only [context, Functions.resolve]
    rw [Action.lift_bind, defined]
    rfl
  have fails : ∀ {text message}, Formula.parse {} text =
      .ok (.unary .negate (.call "FAIL" [.string message])) →
        engine.HostFails text () (.other message) := by
    intro text message parsed
    have failed : engine.context.transcribing (.call "FAIL" [.string message]) ([], ()) =
        (.error (.other message),
          [⟨.call "FAIL" [.string message], .error (.other message)⟩], ()) := by
      have words : String.join ([Value.string message].map Value.text) = message := by
        simp [Value.text]
      rw [Context.transcribing, Context.observing, called]
      simp only [fail, words]
      rfl
    refine ⟨_, _, _, [.string message], parsed, defined, ?_⟩
    have ran : (Expr.call "FAIL" [.string message]).eval engine.context.transcribing ([], ()) = _ :=
      (Action.bind_ok rfl).trans failed
    rw [Expr.eval, Action.bind_error ran]
    exact List.mem_singleton.2 rfl
  have parsed : Formula.parse {} "-Fail('VALUE at #REF! is no NUMBER')" =
      .ok (.unary .negate (.call "FAIL" [.string "VALUE at #REF! is no NUMBER"])) := by cbv
  have parsed' : Formula.parse {} "-Fail('VALUE at #REF!')" =
      .ok (.unary .negate (.call "FAIL" [.string "VALUE at #REF!"])) := by cbv
  obtain ⟨_, outcome, -, rfl, -⟩ := evaluate_wrapped .ref "VALUE at " " is no NUMBER"
    (fails parsed)
  obtain ⟨_, outcome', -, rfl, -⟩ := evaluate_wrapped .ref "VALUE at " "" (fails parsed')
  exact ⟨fails parsed, outcome, fails parsed', outcome'⟩

end Engine

end SheetFormula
