import Mathlib
import SheetFormula.Engine
import SheetFormula.Proofs.CellLabel
import SheetFormula.Proofs.Sharing
import SheetFormula.Proofs.Together
import SheetFormula.Proofs.Watch

/-!
# Sessions with attached sheets

`Session.Run`: a host goes on with one engine, step by step. It edits its sheets, attaches them,
takes handlers away or puts its own in place, and evaluates formulas, in which its closures may edit
sheets as well; these edits are part of the history. What holds of each step holds of a run:

* `Session.Run.agrees`: the sheets are what the history says.
* `Session.Run.readsSheet`: as long as the last attached sheet is not replaced, the engine reads it.
* `Session.Run.exists_evaluate`: to evaluate a formula is always a step if closures only edit.
* `Session.evaluate_attached`: so a reference has the value of the last set through any handle of
  the attached sheet, however the address is spelled, and other sheets have no part in it.
-/

namespace SheetFormula

/-- A host with its engine, its sheets and a state of its own. -/
structure Session (τ : Type) where
  engine : Engine (Host × τ)
  host : Host := {}
  own : τ

/-- A step of a session. -/
inductive Step (τ : Type) where
  | edit (edit : Edit)
  | attach (handle : Nat)
  | clearHandlers
  | setReferenceHandler (handler : Reference → StateM (Host × τ) (Option Value))
  /-- Evaluates a formula; `inside` is what the closures of the host do with sheets meanwhile. -/
  | evaluate (text : String) (inside : List Edit)

variable {τ : Type}

namespace Step

/-- What is done with sheets in a step. -/
def edits : Step τ → List Edit
  | .edit e => [e]
  | .evaluate _ inside => inside
  | .attach _ | .clearHandlers | .setReferenceHandler _ => []

/-- Whether a step puts the handler of references in place or takes it away. -/
def setsReferences : Step τ → Bool
  | .attach _ | .clearHandlers | .setReferenceHandler _ => true
  | .edit _ | .evaluate _ _ => false

end Step

/-- The runs of a session from an engine on, without sheets at first, with their histories. -/
inductive Session.Run (engine : Engine (Host × τ)) (own : τ) :
    List (Step τ) → Session τ → Prop where
  | start : Run engine own [] { engine, own }
  | edit {history : List (Step τ)} {s : Session τ} {e : Edit} {host : Host}
      (run : Run engine own history s) (edited : s.host.edit e = some host) :
      Run engine own (history ++ [.edit e]) { s with host }
  | attach {history : List (Step τ)} {s : Session τ} {handle : Nat} {id : SheetId}
      (run : Run engine own history s) (known : s.host.handles[handle]? = some id) :
      Run engine own (history ++ [.attach handle])
        { s with engine := s.engine.attach fun state => state.1.book.sheet id }
  | clearHandlers {history : List (Step τ)} {s : Session τ} (run : Run engine own history s) :
      Run engine own (history ++ [.clearHandlers])
        { s with engine := { s.engine with handlers := .empty } }
  | setReferenceHandler {history : List (Step τ)} {s : Session τ} (run : Run engine own history s)
      (handler : Reference → StateM (Host × τ) (Option Value)) :
      Run engine own (history ++ [.setReferenceHandler handler])
        { s with engine := { s.engine with
            handlers := { s.engine.handlers with onReference := some handler } } }
  | evaluate {history : List (Step τ)} {s after : Session τ} {text : String} {inside : List Edit}
      {outcome : Outcome} (run : Run engine own history s)
      (evaluated : s.engine.evaluate text (s.host, s.own) =
        ((outcome, after.engine), after.host, after.own))
      (edited : s.host.editAll inside = some after.host) :
      Run engine own (history ++ [.evaluate text inside]) after

/-! ## References to an attached sheet -/

section Reading

variable {engine : Engine (Host × τ)} {text : String} {ref : Reference}

/-- Whether an engine takes references from the sheet behind a handle. -/
def Engine.ReadsSheet (engine : Engine (Host × τ)) (id : SheetId) : Prop :=
  engine.handlers.onReference =
    some fun ref => do return ((← get).1.book.sheet id).value? ref

theorem Formula.parse_reference {options : Options} (depth : 1 ≤ options.maxDepth)
    (single : Token.ofText (body options text) = .ok [.reference ref]) :
    parse options text = .ok (.reference ref) := by
  let phrase : Grammar.Phrase .expression :=
    .ofSum (.first (.term (.base (.atom (.reference ref)))))
  have tokens : Token.ofText (body options text) = .ok phrase.tokens := single
  exact (Grammar.parse_of_phrase tokens).trans (if_pos depth)

theorem Token.ofLabel_of_ofText (single : ofText text = .ok [.reference ref]) :
    Reference.ofLabel ref.label = ref := by
  obtain ⟨-, none⟩ | ⟨_, _, _, scanned, -, same⟩ := tokensOf_eq_ok (tokensOf_of_ofText single)
  · cases none
  · cases same
    exact ofLabel_of_scan scanned

/-- A formula that is one reference evaluates to what the sheet has for it, and changes nothing. -/
theorem Engine.evaluate_reference {id : SheetId} (reads : engine.ReadsSheet id)
    (depth : 1 ≤ engine.options.maxDepth)
    (single : Token.ofText (Formula.body engine.options text) = .ok [.reference ref])
    (host : Host) (own : τ) :
    engine.evaluate text (host, own) =
      ((.value (((host.book.sheet id).value? ref).getD .empty),
        { engine with evaluations := engine.evaluations + 1 }), host, own) := by
  have value : (Expr.reference ref).eval engine.context (host, own) =
      (.ok (((host.book.sheet id).value? ref).getD .empty), host, own) := by
    simp only [Expr.eval, context, Handlers.reference, Token.ofLabel_of_ofText single,
      Handlers.askReference]
    rw [ReadsSheet] at reads
    rw [reads]
    rfl
  rw [evaluate_of_parse (Formula.parse_reference depth single), value]
  rfl

/-- Evaluation counts formulas, and leaves all else of the engine alone. -/
theorem Engine.exists_of_evaluate {engine' : Engine (Host × τ)} {s s' : Host × τ}
    {outcome : Outcome} (h : engine.evaluate text s = ((outcome, engine'), s')) :
    ∃ evaluations, engine' = { engine with evaluations } := by
  by_cases empty : text = ""
  · subst empty
    cases h
    exact ⟨_, rfl⟩
  · rw [evaluate_of_nonempty engine empty] at h
    cases h
    exact ⟨_, rfl⟩

end Reading

/-! ## Runs -/

namespace Session.Run

variable {engine : Engine (Host × τ)} {own : τ} {history : List (Step τ)} {s : Session τ}

/-- The sheets of a session are what its history says. -/
theorem agrees (run : Run engine own history s) :
    Host.Agrees (history.flatMap Step.edits) s.host := by
  induction run with
  | start => exact .start
  | edit run edited ih =>
    rw [List.flatMap_append]
    exact ih.edit edited
  | attach run known ih | clearHandlers run ih | setReferenceHandler run handler ih =>
    rw [List.flatMap_append]
    exact (List.append_nil _).symm ▸ ih
  | evaluate run evaluated edited ih =>
    rw [List.flatMap_append, List.flatMap_singleton]
    exact ih.editAll edited

theorem options_eq (run : Run engine own history s) : s.engine.options = engine.options := by
  induction run with
  | start => rfl
  | edit run edited ih | attach run known ih | clearHandlers run ih
  | setReferenceHandler run handler ih => exact ih
  | evaluate run evaluated edited ih =>
    obtain ⟨_, same⟩ := Engine.exists_of_evaluate evaluated
    rw [same]
    exact ih

/-- If no step has put another handler of references in place since a sheet was attached, then the
engine reads this sheet. -/
theorem readsSheet (run : Run engine own history s) {handle : Nat}
    (inForce : (history.filter Step.setsReferences).getLast? = some (.attach handle)) :
    ∃ sheet, (holdings (history.flatMap Step.edits)).handles[handle]? = some sheet ∧
      s.engine.ReadsSheet ⟨sheet⟩ := by
  induction run with
  | start => cases inForce
  | clearHandlers run ih | setReferenceHandler run handler ih =>
    simp [List.filter_append, Step.setsReferences] at inForce
  | attach run known ih =>
    simp only [List.filter_append, List.filter_cons, Step.setsReferences, if_true, List.filter_nil,
      List.getLast?_concat, Option.some.injEq, Step.attach.injEq] at inForce
    subst inForce
    obtain ⟨sheet, rfl, numbered, -⟩ := run.agrees.exists_sheet known
    refine ⟨sheet, ?_, rfl⟩
    rwa [List.flatMap_append, List.flatMap_singleton, Step.edits, List.append_nil]
  | edit run edited ih =>
    rw [List.filter_append, List.filter_cons_of_neg Bool.false_ne_true, List.filter_nil,
      List.append_nil] at inForce
    obtain ⟨sheet, numbered, reads⟩ := ih inForce
    refine ⟨sheet, ?_, reads⟩
    rw [List.flatMap_append]
    exact getElem?_holdings numbered _
  | evaluate run evaluated edited ih =>
    rw [List.filter_append, List.filter_cons_of_neg Bool.false_ne_true, List.filter_nil,
      List.append_nil] at inForce
    obtain ⟨sheet, numbered, reads⟩ := ih inForce
    refine ⟨sheet, ?_, ?_⟩
    · rw [List.flatMap_append]
      exact getElem?_holdings numbered _
    · obtain ⟨_, same⟩ := Engine.exists_of_evaluate evaluated
      rw [same]
      exact reads

/-- An edit through a handle that the history knows is a step. -/
theorem exists_edit (run : Run engine own history s) {e : Edit}
    (held : ∀ handle ∈ e.handle?,
      handle < (holdings (history.flatMap Step.edits)).handles.length) :
    ∃ s', Run engine own (history ++ [.edit e]) s' := by
  rw [← run.agrees.length_handles] at held
  obtain ⟨host, edited⟩ := Host.exists_edit held
  exact ⟨_, run.edit edited⟩

/-- To attach a sheet of the history is a step. -/
theorem exists_attach (run : Run engine own history s) {handle sheet : Nat}
    (known : (holdings (history.flatMap Step.edits)).handles[handle]? = some sheet) :
    ∃ s', Run engine own (history ++ [.attach handle]) s' := by
  have known : s.host.handles[handle]? = some ⟨sheet⟩ := by
    rw [run.agrees.getElem?_handles, known]
    rfl
  exact ⟨_, run.attach known⟩

end Session.Run

/-! ## Closures that edit sheets -/

section EditsOnly

variable {α β : Type}

/-- Whether a computation does nothing to sheets but edits. -/
def EditsOnly (act : StateM (Host × τ) α) : Prop :=
  ∀ s, ∃ edits, s.1.editAll edits = some (act s).2.1

/-- The closures of a host do nothing to sheets but edits. -/
structure Engine.EditsOnly (engine : Engine (Host × τ)) : Prop where
  onVariable : ∀ label, SheetFormula.EditsOnly (engine.handlers.askVariable label)
  onFunction : ∀ label args, SheetFormula.EditsOnly (engine.handlers.askFunction label args)
  onReference : ∀ ref, SheetFormula.EditsOnly (engine.handlers.askReference ref)
  onRange : ∀ start stop, SheetFormula.EditsOnly (engine.handlers.askRange start stop)
  functions : ∀ label function, engine.functions.get? label = some function →
    ∀ args, SheetFormula.EditsOnly (function args)
  library : ∀ label args, SheetFormula.EditsOnly (engine.library label args)

theorem editsOnly_of_const (a : α) : EditsOnly fun s : Host × τ => (a, s) :=
  fun _ => ⟨[], rfl⟩

theorem EditsOnly.lift_bind {act : StateM (Host × τ) α} {f : α → Action (Host × τ) β}
    (h : EditsOnly act) (hf : ∀ a, EditsOnly (f a)) :
    EditsOnly (bind (m := Action (Host × τ)) (liftM act) f) := by
  intro s
  obtain ⟨first, hfirst⟩ := h s
  obtain ⟨more, hmore⟩ := hf (act s).1 (act s).2
  exact ⟨first ++ more, (Host.editAll_append hfirst more).trans hmore⟩

theorem Engine.EditsOnly.context {engine : Engine (Host × τ)} (h : engine.EditsOnly)
    (lookup : Lookup) : SheetFormula.EditsOnly (engine.context lookup) := by
  cases lookup with
  | name label =>
    refine (h.onVariable label).lift_bind fun answer => ?_
    cases answer with
    | some v => exact editsOnly_of_const _
    | none => cases engine.vars.get? label <;> exact editsOnly_of_const _
  | call label args =>
    refine (h.onFunction label args).lift_bind fun answer => ?_
    cases answer with
    | some v => exact editsOnly_of_const _
    | none =>
      cases defined : engine.functions.get? label with
      | some function => exact h.functions label function defined args
      | none =>
        cases engine.options.libraryFunctions with
        | false => exact editsOnly_of_const _
        | true =>
          refine (h.library label args).lift_bind fun answer => ?_
          rcases answer with _ | _ | _ <;> exact editsOnly_of_const _
  | reference label => exact fun s => h.onReference (.ofLabel label) s
  | range start stop => exact fun s => h.onRange (.ofLabel start) (.ofLabel stop) s

/-- Evaluation by such an engine edits only, whatever the formula. -/
theorem Engine.EditsOnly.evaluate {engine : Engine (Host × τ)} (h : engine.EditsOnly)
    (text : String) : SheetFormula.EditsOnly (engine.evaluate text) := by
  intro s
  by_cases empty : text = ""
  · subst empty
    exact ⟨[], rfl⟩
  · rw [evaluate_of_nonempty engine empty]
    cases parsed : Formula.parse engine.options text with
    | error failure =>
      rw [run_of_error parsed]
      exact ⟨[], rfl⟩
    | ok e =>
      rw [run_of_ok parsed]
      -- The state of the host stays one that edits lead to.
      let reached : Host × τ → Host × τ → Prop := fun t t' =>
        t = t' ∧ ∃ edits, s.1.editAll edits = some t.1
      have covered : Expr.Covered engine.context engine.context reached (fun _ => True)
          (fun _ _ => True) e :=
        { asked := by
            rintro lookup - - t _ ⟨rfl, edits, before⟩
            obtain ⟨more, after⟩ := h.context lookup t
            refine ⟨⟨rfl, edits ++ more, (Host.editAll_append before more).trans after⟩, rfl, ?_⟩
            cases (engine.context lookup t).1 <;> trivial
          literal := fun _ _ _ _ _ => trivial
          computed := fun _ _ _ _ _ => trivial
          finite := fun _ _ => trivial
          block := fun _ _ => trivial }
      obtain ⟨⟨-, edits⟩, -⟩ := e.eval_together covered s s ⟨rfl, [], rfl⟩
      exact edits

/-- Every engine of a run edits only, if the first one and all handlers that are put in place do. -/
theorem Session.Run.editsOnly {engine : Engine (Host × τ)} {own : τ} {history : List (Step τ)}
    {s : Session τ} (run : Run engine own history s) (first : engine.EditsOnly)
    (handlers : ∀ handler, Step.setReferenceHandler handler ∈ history →
      ∀ ref, SheetFormula.EditsOnly (handler ref)) : s.engine.EditsOnly := by
  induction run with
  | start => exact first
  | edit run edited ih => exact ih fun handler mem => handlers handler (by simp [mem])
  | attach run known ih =>
    have before := ih fun handler mem => handlers handler (by simp [mem])
    exact { before with onReference := fun _ => fun _ => ⟨[], rfl⟩
                        onRange := fun _ _ => fun _ => ⟨[], rfl⟩ }
  | clearHandlers run ih =>
    have before := ih fun handler mem => handlers handler (by simp [mem])
    exact { before with onVariable := fun _ => editsOnly_of_const none
                        onFunction := fun _ _ => editsOnly_of_const none
                        onReference := fun _ => editsOnly_of_const none
                        onRange := fun _ _ => editsOnly_of_const none }
  | setReferenceHandler run handler ih =>
    have before := ih fun handler mem => handlers handler (by simp [mem])
    exact { before with onReference := handlers handler (by simp) }
  | evaluate run evaluated edited ih =>
    have before := ih fun handler mem => handlers handler (by simp [mem])
    obtain ⟨_, same⟩ := Engine.exists_of_evaluate evaluated
    rw [same]
    exact { before with }

/-- To evaluate a formula is a step as long as closures do nothing to sheets but edits. -/
theorem Session.Run.exists_evaluate {engine : Engine (Host × τ)} {own : τ}
    {history : List (Step τ)} {s : Session τ} (run : Run engine own history s)
    (closures : s.engine.EditsOnly) (text : String) :
    ∃ inside s', Run engine own (history ++ [.evaluate text inside]) s' := by
  obtain ⟨inside, edited⟩ := closures.evaluate text (s.host, s.own)
  exact ⟨inside, ⟨_, _, _⟩, run.evaluate rfl edited⟩

end EditsOnly

/-! ## Addresses -/

theorem Address.position?_text (label : CellLabel) :
    position? label.text =
      if label.column ≤ maxColumns.toNat ∧ 1 ≤ label.row ∧ label.row ≤ maxRows.toNat then
        some ⟨(label.row - 1).toUInt32, (label.column - 1).toUInt16⟩
      else none := by
  split
  · rename_i grid
    exact position?_of_ok (parse_eq_ok_iff.2 ⟨label, rfl, grid.1, grid.2.1, grid.2.2, rfl⟩)
  · rename_i off
    cases parsed : parse label.text with
    | error fault => exact position?_of_error parsed
    | ok address =>
      obtain ⟨other, same, column, low, high, -⟩ := parse_eq_ok_iff.1 parsed
      obtain rfl := CellLabel.text_injective same
      exact absurd ⟨column, low, high⟩ off

/-- The case of letters, `$` and leading zeros of the row make no difference to the place. -/
theorem Address.position?_congr {a b : CellLabel}
    (letters : a.letters.map Char.toUpper = b.letters.map Char.toUpper)
    (digits : a.digits.dropWhile (· = '0') = b.digits.dropWhile (· = '0')) :
    position? a.text = position? b.text := by
  rw [position?_text, position?_text, CellLabel.column_congr letters, CellLabel.row_congr digits]

/-! ## Attached sheets are live and shared -/

/-- As long as the last attached sheet has not been replaced, a formula that is one reference
evaluates to what the last set through any handle of the sheet left there, or is empty. Spellings of
an address do not matter, and neither do changes that fail or are of other sheets. -/
theorem Session.evaluate_attached {engine : Engine (Host × τ)} {own : τ} {history : List (Step τ)}
    {s : Session τ} (run : Run engine own history s) (depth : 1 ≤ engine.options.maxDepth)
    {handle : Nat}
    (inForce : (history.filter Step.setsReferences).getLast? = some (.attach handle)) :
    ∃ sheet, (holdings (history.flatMap Step.edits)).handles[handle]? = some sheet ∧
      s.host.handles[handle]? = some ⟨sheet⟩ ∧
      (∀ text ref, Token.ofText (Formula.body engine.options text) = .ok [.reference ref] →
        s.engine.evaluate text (s.host, s.own) =
          ((.value ((lastSet (history.flatMap Step.edits) sheet ref).getD .empty),
            { s.engine with evaluations := s.engine.evaluations + 1 }), s.host, s.own)) ∧
      (∀ a b : CellLabel, a.letters.map Char.toUpper = b.letters.map Char.toUpper →
        a.digits.dropWhile (· = '0') = b.digits.dropWhile (· = '0') →
          Address.position? a.text = Address.position? b.text) ∧
      (∀ other c id fault, s.host.handles[other]? = some id →
        c.apply (s.host.book.sheet id) = .error fault →
          s.host.edit (.change other c) = some s.host) ∧
      ∀ e host, s.host.edit e = some host →
        e.target? (holdings (history.flatMap Step.edits)).handles ≠ some sheet →
          host.book.sheet ⟨sheet⟩ = s.host.book.sheet ⟨sheet⟩ ∧
            ∀ text ref, Token.ofText (Formula.body engine.options text) = .ok [.reference ref] →
              (s.engine.evaluate text (host, s.own)).1 =
                (s.engine.evaluate text (s.host, s.own)).1 := by
  obtain ⟨sheet, numbered, reads⟩ := run.readsSheet inForce
  have options := run.options_eq
  rw [← options] at depth
  have known : s.host.handles[handle]? = some ⟨sheet⟩ := by
    rw [run.agrees.getElem?_handles, numbered]
    rfl
  refine ⟨sheet, numbered, known, fun text ref single => ?_, fun a b => Address.position?_congr,
    fun other c id fault => Host.edit_of_error, fun e host edited apart => ?_⟩
  · rw [← options] at single
    rw [Engine.evaluate_reference reads depth single, run.agrees.value?_eq]
  · have same := run.agrees.sheet_edit edited apart
    refine ⟨same, fun text ref single => ?_⟩
    rw [← options] at single
    rw [Engine.evaluate_reference reads depth single, Engine.evaluate_reference reads depth single,
      same]

/-- A copy of a handle sets `B2` of the attached sheet, spelled `$b$02`. That `B0` is no address and
that another sheet has a `B2` as well makes no difference to `=b2`. -/
theorem Session.evaluate_attached_clone :
    let history : List (Step Unit) := [.edit .create, .edit (.clone 0), .attach 0,
      .edit (.change 1 (.setCell "$b$02" (.number 7))), .edit (.change 0 (.setCell "B0" .null)),
      .edit .create, .edit (.change 2 (.setCell "B2" (.number 9)))]
    ∃ s : Session Unit, Run {} () history s ∧ 1 ≤ ({} : Options).maxDepth ∧
      (history.filter Step.setsReferences).getLast? = some (.attach 0) ∧
      (s.engine.evaluate "=b2" (s.host, s.own)).1.1 = .value (.number 7) ∧
      s.host.handles[0]? = s.host.handles[1]? := by
  intro history
  have run : Run ({} : Engine (Host × Unit)) () [] { engine := {}, own := () } := .start
  obtain ⟨_, run⟩ := run.exists_edit (e := .create) nofun
  obtain ⟨_, run⟩ := run.exists_edit (e := .clone 0) (by decide)
  have first : (holdings [.create, .clone 0]).handles[0]? = some 0 := rfl
  obtain ⟨_, run⟩ := run.exists_attach first
  obtain ⟨_, run⟩ := run.exists_edit (e := .change 1 (.setCell "$b$02" (.number 7))) (by decide)
  obtain ⟨_, run⟩ := run.exists_edit (e := .change 0 (.setCell "B0" .null)) (by decide)
  obtain ⟨_, run⟩ := run.exists_edit (e := .create) nofun
  obtain ⟨s, run⟩ := run.exists_edit (e := .change 2 (.setCell "B2" (.number 9))) (by decide)
  have depth : 1 ≤ ({} : Engine (Host × Unit)).options.maxDepth := by decide
  have inForce : (history.filter Step.setsReferences).getLast? = some (.attach 0) := rfl
  obtain ⟨sheet, numbered, known, value, -⟩ := evaluate_attached run depth inForce
  cases numbered
  have single : Token.ofText (Formula.body {} "=b2") = .ok [.reference ⟨.cell, "b2"⟩] := by cbv
  have last : lastSet (history.flatMap Step.edits) 0 ⟨.cell, "b2"⟩ = some (.number 7) := by cbv
  refine ⟨s, run, depth, inForce, ?_, ?_⟩
  · rw [value _ _ single]
    exact congrArg (fun v => Outcome.value (v.getD .empty)) last
  · rw [run.agrees.getElem?_handles, run.agrees.getElem?_handles]
    rfl

end SheetFormula
